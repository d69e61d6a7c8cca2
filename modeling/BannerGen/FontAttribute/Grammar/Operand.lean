import BannerGen.FontAttribute.Grammar.Expression

/-!
# Operands and expressions of statements

An expression that ends with a block is a statement of its own where a statement or the body of an
arm starts: an operator behind it does not take it for its left operand.
-/

namespace BannerGen.FontAttribute.Grammar

open TokenParser

/-- Takes an expression that is built into the compiler. Its arguments may be any tokens. -/
def builtinExpression : TokenParser Unit :=
  verbatim do
    expect (.word "builtin")
    expect (.mark "#")
    expect .name
    within .paren takeRest

variable (g : Grammar)

/-- Takes an arm of a match. -/
def arm : TokenParser Unit := do
  attributes g
  discard (patterns g)
  if ← accept (.word "if") then discard (g.expression true)
  expect (.mark "=>")
  let e ← g.statementExpression
  if e.needsComma && !(← isOver) then expect (.mark ",") else discard (accept (.mark ","))

/-- Takes a match. -/
def matchExpression : TokenParser Unit := do
  expect (.word "match")
  discard (g.expression false)
  within .brace do
    innerAttributes g
    untilOver (arm g)

/-- Takes an expression that ends with a block and is a statement of its own, if one comes next, and
tells whether it did. -/
def blockLike : TokenParser Bool := do
  if ← isNext (.word "if") then ifExpression g
  else if ← isNext (.word "while") then whileExpression g
  else if (← isNext (.word "for")) && !(← isBinder) then forExpression g
  else if ← isNext (.word "loop") then loopExpression g
  else if ← isNext (.word "match") then matchExpression g
  else if (← isNext (.word "try")) && (← isSecond (.group .brace)) then
    expect (.word "try")
    plainBlock g
  else if ← accept (.word "unsafe") then block g
  else if (← isNext (.word "const")) && (← isSecond (.group .brace)) then
    expect (.word "const")
    block g
  else if ← isNext (.group .brace) then block g
  else if ← isNext .lifetime then labeledExpression g
  else return false
  return true

/-- Takes an expression without operators, and without calls and the like. -/
def atom (allowsStruct : Bool) : TokenParser ExpressionForm := do
  if ← accept .literal then return {}
  else if ← isAsyncBlock then
    expect (.word "async")
    let _ ← accept (.word "move")
    plainBlock g
    return {}
  else if ← isClosure then
    closure g allowsStruct
    return {}
  else if (← isNext (.word "builtin")) && (← isSecond (.mark "#")) then
    builtinExpression
    return { kind := .verbatim, startsVerbatim := true }
  else if ← isPath then pathExpression g allowsStruct
  else if ← isNext (.group .paren) then
    parenExpression g
    return {}
  else if ← isNext (.word "break") then
    breakExpression g allowsStruct
    return {}
  else if ← accept (.word "continue") then
    let _ ← accept .lifetime
    return {}
  else if ← isOneOf [.word "return", .word "yield"] then
    expect .anyName
    optionalExpression g
    return {}
  else if ← isNext (.word "become") then
    verbatim do
      expect (.word "become")
      discard (g.expression true)
    return { kind := .verbatim, startsVerbatim := true }
  else if ← isNext (.group .bracket) then
    arrayExpression g
    return {}
  else if ← isNext (.word "let") then
    letExpression g allowsStruct
    return {}
  else if ← isNext (.mark "..") then
    let isClosed ← rangeLimits
    return { kind := .range (← rangeEnd g allowsStruct isClosed) }
  else if ← accept (.word "_") then return {}
  else if ← blockLike g then return { kind := .blockLike }
  else failHere (.expected ["an expression"])

/-- Takes an operand: an expression without binary operators. -/
def operandRule (allowsStruct : Bool) : TokenParser ExpressionForm :=
  verbatimIf (fun e => e.kind = .verbatim) do
    let (_, before) ← recorded (attributes g)
    if ← accept (.mark "&") then
      if (← isNext (.word "raw")) && (← isSecondOf [.word "mut", .word "const"]) then
        expect (.word "raw")
        if !(← accept (.word "mut")) then expect (.word "const")
      else discard (accept (.word "mut"))
      discard (g.operand allowsStruct)
      return {}
    else if ← isOneOf [.mark "*", .mark "!", .mark "-"] then
      take 1
      discard (g.operand allowsStruct)
      return {}
    else
      let e ← accesses g (← atom g allowsStruct)
      if e.isRange && !before.isEmpty then fail .rangeAttributes
      return e

/-- Takes an expression. -/
def expressionRule (allowsStruct : Bool) : TokenParser ExpressionForm := do
  g.operators allowsStruct .jump (← g.operand allowsStruct)

/-- Takes an expression where a statement or the body of an arm starts. -/
def statementExpressionRule : TokenParser ExpressionForm := do
  let (_, before) ← recorded (attributes g)
  let (e, ts) ← recorded do
    if ← blockLike g then
      if (← isDot) || (← isNext (.mark "?")) then accesses g { kind := .blockLike }
      else return { kind := .blockLike }
    else g.operand true
  if e.kind = .verbatim then loseAttributes before ts
  if e.kind = .blockLike then return e else g.operators true .jump e

end BannerGen.FontAttribute.Grammar
