import BannerGen.FontAttribute.Grammar.Pattern

/-!
# Operators

Binary operators, assignments, ranges and casts. Comparisons do not follow each other without
parentheses, and what a cast gives is not used without them.
-/

namespace BannerGen.FontAttribute.Grammar

open TokenParser

/-- The binary operators. Of two that start alike, the longer one comes first. -/
def binaryOperators : List (String × Precedence) :=
  [("+=", .assign), ("-=", .assign), ("*=", .assign), ("/=", .assign), ("%=", .assign),
   ("^=", .assign), ("&=", .assign), ("|=", .assign), ("<<=", .assign), (">>=", .assign),
   ("<<", .shift), (">>", .shift), ("&&", .and), ("||", .or), ("==", .compare), ("<=", .compare),
   ("!=", .compare), (">=", .compare), ("+", .sum), ("-", .sum), ("*", .product), ("/", .product),
   ("%", .product), ("^", .bitXor), ("&", .bitAnd), ("|", .bitOr), ("<", .compare),
   (">", .compare)]

/-- The binary operator that tokens start with. -/
def binaryOperator? (ts : List Token) : Option (String × Precedence) :=
  binaryOperators.find? fun (s, _) => Start.isAt (.mark s) ts

/-- Whether an assignment comes next. -/
def isAssignment : TokenParser Bool := return (← isNext (.mark "=")) && !(← isNext (.mark "=>"))

/-- How closely the operator that comes next binds. -/
def nextPrecedence : TokenParser Precedence := do
  match binaryOperator? (← remaining) with
  | some (_, p) => return p
  | none =>
    if ← isAssignment then return .assign
    else if ← isNext (.mark "..") then return .range
    else if ← isNext (.word "as") then return .cast
    else return .jump

/-- Whether a dot comes next that is not part of a range. -/
def isDot : TokenParser Bool := return (← isNext (.mark ".")) && !(← isNext (.mark ".."))

/-- Refuses what would use what a cast gives. -/
def checkAfterCast : TokenParser Unit := do
  if ← isDot then
    if ← isSecond (.word "await") then failHere (.afterCast "`.await`")
    else if (← isSecond .name) && ((← isThird (.group .paren)) || (← isThird (.mark "::"))) then
      failHere (.afterCast "a method call")
    else failHere (.afterCast "a field access")
  else if ← isNext (.mark "?") then failHere (.afterCast "`?`")
  else if ← isNext (.group .bracket) then failHere (.afterCast "indexing")
  else if ← isNext (.group .paren) then failHere (.afterCast "a function call")

/-- Whether a range without an end ends here. -/
def isRangeEnd (allowsStruct : Bool) : TokenParser Bool := do
  return (← isOver) || (← isDot) || (!allowsStruct && (← isNext (.group .brace)))
    || (← isOneOf
      [.mark ",", .mark ";", .mark "?", .mark "=>", .mark "=", .mark "+", .mark "/", .mark "%",
       .mark "^", .mark ">", .mark "<=", .mark "!=", .mark "-=", .mark "*=", .mark "&=",
       .mark "|=", .mark "<<=", .word "as"])

variable (g : Grammar)

/-- Takes the right operand of an operator that binds as closely as `p`. -/
def rightOperand (allowsStruct : Bool) (p : Precedence) : TokenParser Unit := do
  let e ← g.operand allowsStruct
  discard <| iterate (fun e => do
    let next ← nextPrecedence
    if p < next ∨ (next = .assign ∧ p = .assign) then
      return (← g.operators allowsStruct next e, true)
    else return (e, false)) e

/-- Takes the end of a range, if there is one, and tells whether there is. -/
def rangeEnd (allowsStruct isClosed : Bool) : TokenParser Bool := do
  if !isClosed && (← isRangeEnd allowsStruct) then return false
  else
    rightOperand g allowsStruct .range
    return true

/-- Takes the given binary operator and its right operand. -/
def binaryOperation (allowsStruct : Bool) (left : ExpressionForm) (operator : String)
    (p : Precedence) : TokenParser ExpressionForm := do
  if p = .compare ∧ left.kind = .comparison then failHere .chainedComparison
  else
    expect (.mark operator)
    rightOperand g allowsStruct p
    return { left with kind := if p = .compare then .comparison else .other }

/-- Takes an assignment, a range or a cast, if it binds at least as closely as `base`, and tells
whether there was one. -/
def otherOperation (allowsStruct : Bool) (base : Precedence) (left : ExpressionForm) :
    TokenParser (ExpressionForm × Bool) := do
  if base ≤ .assign ∧ !left.isRange ∧ (← isAssignment) then
    expect (.mark "=")
    rightOperand g allowsStruct .assign
    return ({ left with kind := .other }, true)
  else if base ≤ .range ∧ (← isNext (.mark "..")) then
    let isClosed ← rangeLimits
    let hasEnd ← rangeEnd g allowsStruct isClosed
    return ({ kind := .range hasEnd }, true)
  else if base ≤ .cast ∧ (← isNext (.word "as")) then
    expect (.word "as")
    discard (g.type false)
    checkAfterCast
    return ({ left with kind := .other }, true)
  else return (left, false)

/-- Takes binary operators that bind at least as closely as `base`, and their right operands. -/
def operatorsRule (allowsStruct : Bool) (base : Precedence) (left : ExpressionForm) :
    TokenParser ExpressionForm :=
  iterate (fun left => do
    if left.kind = .range true then return (left, false)
    else match binaryOperator? (← remaining) with
      | some (operator, p) =>
        if p < base ∨ (p = .assign ∧ left.isRange) then return (left, false)
        else return (← binaryOperation g allowsStruct left operator p, true)
      | none => otherOperation g allowsStruct base left) left

end BannerGen.FontAttribute.Grammar
