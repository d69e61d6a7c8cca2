import BannerGen.FontAttribute.Token

/-!
# Syntax errors

Why tokens do not have the form that is needed, and the messages about it.
-/

namespace BannerGen.FontAttribute

/-- What is wrong with tokens. -/
inductive Fault where
  /-- None of these things is there, one of which is needed. -/
  | expected (what : List String)
  /-- A keyword stands where a name is needed. -/
  | keyword (word : String)
  /-- There are tokens left, perhaps between delimiters of the given kind. -/
  | leftover (d : Option Delimiter)
  /-- A statement follows another one that must end with a semicolon, and does not. -/
  | missingSemicolon
  /-- A receiver follows a receiver. -/
  | secondReceiver
  /-- A receiver follows other parameters. -/
  | lateReceiver
  /-- An attribute has an attribute as its value. -/
  | nestedAttribute
  /-- A list of conditions has generic parameters. -/
  | genericConditions
  /-- This does not belong here. -/
  | misplaced (what : String)
  /-- A bound is optional and binds lifetimes. -/
  | optionalBinder
  /-- A trait object has no trait. -/
  | objectWithoutTrait
  /-- An unnamed type has no trait. -/
  | unnamedWithoutTrait
  /-- An open range is an element of a slice pattern. -/
  | rangeInSlice
  /-- A comparison is an operand of another one. -/
  | chainedComparison
  /-- A cast is followed by this. -/
  | afterCast (what : String)
  /-- A range without a start has attributes. -/
  | rangeAttributes
  /-- A label stands where it could be that of a jump. -/
  | missingParens
  /-- The number of a field is too large. -/
  | numberTooLarge
  /-- The number of a field is negative. -/
  | negativeNumber
  /-- The number of a field is malformed. -/
  | malformedNumber
  /-- An implementation without a trait is negative. -/
  | negativeImplementation
deriving DecidableEq, Repr

/-- The list of things that are needed, in words. -/
def Fault.alternatives : List String → String
  | [] => "unexpected token"
  | [a] => s!"expected {a}"
  | [a, b] => s!"expected {a} or {b}"
  | what => "expected one of: " ++ ", ".intercalate what

instance : ToString Fault where
  toString
    | .expected what => Fault.alternatives what
    | .keyword word => s!"expected identifier, found keyword `{word}`"
    | .leftover none => "unexpected token"
    | .leftover (some .paren) => "unexpected token, expected `)`"
    | .leftover (some .bracket) => "unexpected token, expected `]`"
    | .leftover (some .brace) => "unexpected token, expected `\x7d`"
    | .missingSemicolon => "unexpected token, expected `;`"
    | .secondReceiver => "unexpected second method receiver"
    | .lateReceiver => "unexpected method receiver"
    | .nestedAttribute => "unexpected attribute inside of attribute"
    | .genericConditions => "generic parameters on `where` clauses are reserved for future use"
    | .misplaced what => s!"{what} is not allowed here"
    | .optionalBinder => "`for<...>` binder not allowed with `?` trait polarity modifier"
    | .objectWithoutTrait => "at least one trait is required for an object type"
    | .unnamedWithoutTrait => "at least one trait must be specified"
    | .rangeInSlice => "range pattern is not allowed unparenthesized inside slice pattern"
    | .chainedComparison => "comparison operators cannot be chained"
    | .afterCast what => s!"casts cannot be followed by {what}"
    | .rangeAttributes => "attributes are not allowed on range expressions starting with `..`"
    | .missingParens => "parentheses required"
    | .numberTooLarge => "number too large to fit in target type"
    | .negativeNumber => "invalid digit found in string"
    | .malformedNumber => "cannot parse string into token stream"
    | .negativeImplementation => "inherent impls cannot be negative"

/-- Why tokens do not have the form that is needed. -/
structure SyntaxError where
  /-- What is wrong. -/
  fault : Fault
  /-- Whether the tokens end where it is wrong. -/
  isAtEnd : Bool := false
deriving DecidableEq, Repr

instance : ToString SyntaxError where
  toString
    | ⟨.expected [], true⟩ => "unexpected end of input"
    | ⟨fault, true⟩ => s!"unexpected end of input, {fault}"
    | ⟨fault, false⟩ => toString fault

/-- The error at the given tokens, where something is needed that they do not start with. -/
def SyntaxError.at (what : String) (ts : List Token) : SyntaxError :=
  ⟨.expected [what], ts.isEmpty⟩

end BannerGen.FontAttribute
