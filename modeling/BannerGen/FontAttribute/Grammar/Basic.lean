import BannerGen.FontAttribute.Grammar.TokenParser

/-!
# Grammars

What is known of paths, types, bounds, patterns and expressions once they were read: only what
decides how the tokens after them are read, or how they are written again. A grammar has a parser
for each part of a function that may contain parts of its own kind. The rules are parsers that take
such parts by means of a grammar, and the grammar in turn is made of the rules.
-/

namespace BannerGen.FontAttribute

namespace Grammar

/-- The arguments of a part of a path. -/
inductive Arguments where
  /-- There are none. -/
  | none
  /-- There is a list between angle brackets, for which so many tokens were written. -/
  | angles (isEmpty : Bool) (length : Nat)
  /-- There is a list between parentheses. -/
  | parens
deriving DecidableEq, Repr

namespace Arguments

/-- Whether there are no arguments. -/
def isEmpty : Arguments → Bool
  | .none => true
  | .angles isEmpty _ => isEmpty
  | .parens => false

/-- The number of tokens that were written for a list between angle brackets. -/
def angleLength : Arguments → Nat
  | .angles _ length => length
  | _ => 0

end Arguments

/-- A path. -/
structure PathForm where
  /-- Whether it starts with a type between angle brackets. -/
  isQualified : Bool := false
  /-- Whether it starts with a double colon. -/
  isRooted : Bool := false
  /-- Whether it has a single part. -/
  isSingle : Bool := true
  /-- Whether no part of it has a list of arguments. -/
  isPlain : Bool := true
  /-- The arguments of its last part. -/
  last : Arguments := .none

/-- Whether a path may name an associated type. -/
def PathForm.isAssociated (p : PathForm) : Bool :=
  !p.isQualified && !p.isRooted && p.isSingle && p.last ≠ .parens

/-- A type. -/
inductive TypeForm where
  /-- A path. -/
  | path (p : PathForm)
  /-- A type in parentheses. -/
  | paren
  /-- Bounds without a keyword in front of them, perhaps a single one. -/
  | bounds (isSingle : Bool)
  /-- Any other type. -/
  | other

/-- A bound of a type. -/
inductive BoundForm where
  /-- A trait. -/
  | trait
  /-- A lifetime. -/
  | lifetime
  /-- A list of captured parameters. -/
  | capture
  /-- A trait that is constant. -/
  | constTrait
deriving DecidableEq, Repr

/-- A pattern. -/
inductive PatternForm where
  /-- The pattern `..` for everything that is not mentioned. -/
  | rest
  /-- A range without a start or without an end. -/
  | openRange
  /-- A pattern that is written again as it was. -/
  | verbatim
  /-- Any other pattern. -/
  | other
deriving DecidableEq, Repr

/-- The kinds of expressions. -/
inductive ExpressionKind where
  /-- An expression that ends with a block and is a statement of its own. -/
  | blockLike
  /-- The use of a macro, perhaps with braces. -/
  | macroUse (isBraced : Bool)
  /-- A range, perhaps without an end. -/
  | range (hasEnd : Bool)
  /-- A comparison. -/
  | comparison
  /-- An expression that is written again as it was. -/
  | verbatim
  /-- Any other expression. -/
  | other
deriving DecidableEq, Repr

/-- An expression. -/
structure ExpressionForm where
  /-- Its kind. -/
  kind : ExpressionKind := .other
  /-- Whether its first operand is written again as it was. Attributes of that are lost. -/
  startsVerbatim : Bool := false

namespace ExpressionForm

/-- Whether an expression is a range. -/
def isRange (e : ExpressionForm) : Bool := e.kind = .range true || e.kind = .range false

/-- Whether a comma must follow an expression in the arm of a match. -/
def needsComma (e : ExpressionForm) : Bool := e.kind ≠ .blockLike

/-- Whether a semicolon must follow an expression before another statement. -/
def needsSemicolon (e : ExpressionForm) : Bool := e.needsComma && e.kind ≠ .macroUse true

end ExpressionForm

/-- How closely operators bind. -/
inductive Precedence where
  /-- Jumps and closures. -/
  | jump
  /-- Assignments. -/
  | assign
  /-- Ranges. -/
  | range
  /-- Alternatives. -/
  | or
  /-- Conjunctions. -/
  | and
  /-- Matches of a pattern. -/
  | bind
  /-- Comparisons. -/
  | compare
  /-- Alternatives of bits. -/
  | bitOr
  /-- Exclusive alternatives of bits. -/
  | bitXor
  /-- Conjunctions of bits. -/
  | bitAnd
  /-- Shifts of bits. -/
  | shift
  /-- Sums and differences. -/
  | sum
  /-- Products, quotients and remainders. -/
  | product
  /-- Casts. -/
  | cast
deriving DecidableEq, Ord, Repr

instance : LT Precedence := ltOfOrd

instance : LE Precedence := leOfOrd

end Grammar

/-- Parsers of the parts that may contain parts of their own kind. -/
structure Grammar where
  /-- Takes a type. Several bounds, with plus signs in between, may have to be in parentheses. -/
  type (allowsPlus : Bool) : Grammar.TokenParser Grammar.TypeForm
  /-- Takes a bound. -/
  bound (allowsCapture allowsConst : Bool) : Grammar.TokenParser Grammar.BoundForm
  /-- Takes a pattern without alternatives. -/
  pattern : Grammar.TokenParser Grammar.PatternForm
  /-- Takes an expression. The fields of a structure may have to be in parentheses. -/
  expression (allowsStruct : Bool) : Grammar.TokenParser Grammar.ExpressionForm
  /-- Takes an operand: an expression without binary operators. -/
  operand (allowsStruct : Bool) : Grammar.TokenParser Grammar.ExpressionForm
  /-- Takes binary operators that bind at least as closely as `base`, and their right operands. -/
  operators (allowsStruct : Bool) (base : Grammar.Precedence) (left : Grammar.ExpressionForm) :
    Grammar.TokenParser Grammar.ExpressionForm
  /-- Takes an expression where a statement or the body of an arm starts. -/
  statementExpression : Grammar.TokenParser Grammar.ExpressionForm
  /-- Takes statements up to the end. -/
  statements : Grammar.TokenParser Unit
  /-- Takes an item. -/
  item : Grammar.TokenParser Unit
  /-- Takes what is imported. -/
  importTree (allowsRoot : Bool) : Grammar.TokenParser Unit
  /-- Takes fields with names. -/
  namedFields : Grammar.TokenParser Unit

namespace Grammar

/-- The grammar with which every parser fails. -/
def empty : Grammar where
  type _ := TokenParser.fail (.expected [])
  bound _ _ := TokenParser.fail (.expected [])
  pattern := TokenParser.fail (.expected [])
  expression _ := TokenParser.fail (.expected [])
  operand _ := TokenParser.fail (.expected [])
  operators _ _ _ := TokenParser.fail (.expected [])
  statementExpression := TokenParser.fail (.expected [])
  statements := TokenParser.fail (.expected [])
  item := TokenParser.fail (.expected [])
  importTree _ := TokenParser.fail (.expected [])
  namedFields := TokenParser.fail (.expected [])

end Grammar

end BannerGen.FontAttribute
