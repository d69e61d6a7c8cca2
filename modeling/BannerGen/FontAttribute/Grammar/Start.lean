import BannerGen.FontAttribute.Numeral
import BannerGen.FontAttribute.Token

/-!
# What tokens start with

The things that a row of tokens is asked to start with, how many tokens each of them has, and what
it is called in messages. A punctuation mark of several characters is several tokens, each of which
but the last is directly followed by the next. A lifetime is an apostrophe and a name, and a number
may have a minus sign in front of it.
-/

namespace BannerGen.FontAttribute.Grammar

/-- What tokens may start with. -/
inductive Start where
  /-- A punctuation mark. -/
  | mark (s : String)
  /-- A word that is not raw. -/
  | word (s : String)
  /-- A name that is no keyword. -/
  | name
  /-- A name or a keyword. -/
  | anyName
  /-- A lifetime. -/
  | lifetime
  /-- A literal. -/
  | literal
  /-- A literal that denotes a text. -/
  | text
  /-- A literal that denotes a whole number. -/
  | whole
  /-- A literal that denotes a number with a point or an exponent. -/
  | fractional
  /-- Tokens between delimiters. -/
  | group (d : Delimiter)
deriving DecidableEq, Repr

/-- What a pair of delimiters is called. -/
def delimiterName : Delimiter → String
  | .paren => "parentheses"
  | .bracket => "square brackets"
  | .brace => "curly braces"

/-- Whether tokens start with the given characters, each of which but the last is directly followed
by the next. -/
def startsWithMarks : List Char → List Token → Bool
  | [], _ => true
  | [c], .mark d _ :: _ => c = d
  | c :: cs, .mark d true :: ts => c = d && startsWithMarks cs ts
  | _, _ => false

/-- The number of tokens of a number at the beginning of the given tokens, provided that it has the
property `p`. -/
def numberLength? (p : Numeral → Bool) : List Token → Option Nat
  | .literal s :: _ => if (Numeral.ofSpelling? s).any p then some 1 else none
  | .mark '-' _ :: .literal s :: _ => if (Numeral.ofSpelling? s).any p then some 2 else none
  | _ => none

/-- Whether a number is whole. -/
def isWhole : Numeral → Bool
  | .whole _ _ => true
  | .fractional => false

namespace Start

/-- What is called for, as it is written in messages. -/
def description : Start → String
  | .mark s | .word s => s!"`{s}`"
  | .name => "identifier"
  | .anyName => "ident"
  | .lifetime => "lifetime"
  | .literal => "literal"
  | .text => "string literal"
  | .whole => "integer literal"
  | .fractional => "floating point literal"
  | .group d => delimiterName d

/-- The number of tokens that this has at the beginning of the given tokens, if they start with
it. -/
def length? : Start → List Token → Option Nat
  | .mark s, ts => if startsWithMarks s.toList ts then some s.length else none
  | .word w, .name false s :: _ => if s = w then some 1 else none
  | .name, .name isRaw s :: _ => if isRaw || !keywords.contains s then some 1 else none
  | .anyName, .name _ _ :: _ => some 1
  | .lifetime, .mark '\'' true :: .name _ _ :: _ => some 2
  | .literal, .text _ :: _ | .literal, .literal _ :: _ => some 1
  | .literal, .name false s :: _ => if s = "true" || s = "false" then some 1 else none
  | .literal, ts => numberLength? (fun _ => true) ts
  | .text, .text _ :: _ => some 1
  | .whole, ts => numberLength? isWhole ts
  | .fractional, ts => numberLength? (fun n => !isWhole n) ts
  | .group d, .group e _ :: _ => if d = e then some 1 else none
  | _, _ => none

/-- Whether the given tokens start with this. -/
def isAt (s : Start) (ts : List Token) : Bool := (s.length? ts).isSome

end Start

/-- What comes after the first of the given tokens, where a lifetime counts as one. -/
def afterFirst : List Token → List Token
  | .mark '\'' true :: .name _ _ :: ts => ts
  | _ :: ts => ts
  | [] => []

end BannerGen.FontAttribute.Grammar
