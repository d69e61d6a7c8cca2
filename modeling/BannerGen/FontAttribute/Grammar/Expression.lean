import BannerGen.FontAttribute.Grammar.Operator

/-!
# Expressions

What expressions without binary operators start with, and what may follow: calls, fields, indices
and question marks. A number with a point in it may name two fields, and is then taken apart.
-/

namespace BannerGen.FontAttribute.Grammar

open TokenParser

/-- The numbers of the fields that a number with a point or an exponent names: the parts between
dots. -/
def fieldNumbers (spelling : String) : Except Fault (List Nat) :=
  (spelling.splitOn ".").mapM fun part =>
    match part.toList with
    | '-' :: cs => fieldNumber true (Numeral.ofChars? cs)
    | cs => fieldNumber false (Numeral.ofChars? cs)

/-- Takes fields that are named by a number with a point or an exponent, after a dot, and tells
whether another field must follow, since there was a dot at the end. -/
def fieldIndices : TokenParser Bool := do
  let (sign, spelling, length) ← match ← remaining with
    | .literal s :: _ => pure ("", s, 1)
    | .mark '-' _ :: .literal s :: _ => pure ("-", s, 2)
    | _ => failExpecting [.fractional]
  let isOpen := spelling.toList.getLast? = some '.'
  let closed := if isOpen then String.ofList spelling.toList.dropLast else spelling
  match fieldNumbers (sign ++ closed) with
  | .ok numbers =>
    let ts := (numbers.map numberToken).intersperse (.mark '.' false)
    replace length (ts ++ if isOpen then [.mark '.' false] else []) .fieldNumber
    return isOpen
  | .error fault => fail fault

/-- Takes a label. -/
def label : TokenParser Unit := do
  expect .lifetime
  expect (.mark ":")

/-- Whether an expression comes next, where there may be none. -/
def isExpression : TokenParser Bool := do
  return ((← isNext .anyName) && !(← isNext (.word "as")))
    || (← isOneOf [.group .paren, .group .bracket, .group .brace, .literal])
    || ((← isNext (.mark "!")) && !(← isNext (.mark "!=")))
    || ((← isNext (.mark "-")) && !(← isNext (.mark "-=")) && !(← isNext (.mark "->")))
    || ((← isNext (.mark "*")) && !(← isNext (.mark "*=")))
    || ((← isNext (.mark "|")) && !(← isNext (.mark "|=")))
    || ((← isNext (.mark "&")) && !(← isNext (.mark "&=")))
    || (← isAngleOpening)
    || (← isOneOf [.mark "..", .mark "::", .lifetime, .mark "#"])

/-- Whether parameters that are bound by `for` come next. -/
def isBinder : TokenParser Bool := do
  return (← isNext (.word "for")) && startsGenerics (afterFirst (← remaining))

/-- Whether a closure comes next. -/
def isClosure : TokenParser Bool := do
  return (← isOneOf [.mark "|", .word "move", .word "static"]) || (← isBinder)
    || ((← isNext (.word "const")) && !(← isSecond (.group .brace)))
    || ((← isNext (.word "async")) && (← isSecondOf [.mark "|", .word "move"]))

/-- Whether an asynchronous block comes next. -/
def isAsyncBlock : TokenParser Bool := do
  return (← isNext (.word "async")) && ((← isSecond (.group .brace))
    || ((← isSecond (.word "move")) && (← isThird (.group .brace))))

/-- Whether a path comes next. -/
def isPath : TokenParser Bool := do
  return (← isOneOf (plainSegments ++ [.mark "::", .mark "<"]))
    || ((← isNext (.word "try")) && (← isSecondOf [.mark "!", .mark "::"]))

variable (g : Grammar)

/-- Takes an expression, if one comes next. -/
def optionalExpression : TokenParser Unit := do
  if ← isExpression then discard (g.expression true)

/-- Takes arguments between parentheses. -/
def callArguments : TokenParser Unit := within .paren (terminated (discard (g.expression true)))

/-- Takes the name of a method with its arguments, or a field. -/
def memberAccess : TokenParser Unit := do
  if ← accept (.word "await") then return
  else
    let isNamed ← member
    if isNamed && (← isNext (.mark "::")) then
      expect (.mark "::")
      discard (angleArguments g)
      callArguments g
    else if isNamed && (← isNext (.group .paren)) then callArguments g

/-- Takes a dot and what is accessed behind it. -/
def dotAccess : TokenParser Unit := do
  expect (.mark ".")
  if ← isNext .fractional then
    if ← fieldIndices then memberAccess g
  else memberAccess g

/-- Takes calls, fields, indices and question marks. -/
def accesses (e : ExpressionForm) : TokenParser ExpressionForm :=
  iterate (fun e => do
    if ← isNext (.group .paren) then
      callArguments g
      return ({}, true)
    else if !e.isRange && (← isDot) then
      dotAccess g
      return ({}, true)
    else if ← isNext (.group .bracket) then
      within .bracket (discard (g.expression true))
      return ({}, true)
    else if !e.isRange && (← isNext (.mark "?")) then
      expect (.mark "?")
      return ({}, true)
    else return (e, false)) e

/-- Takes a parameter of a closure. -/
def closureParameter : TokenParser Unit := do
  let (_, before) ← recorded (attributes g)
  let (p, ts) ← recorded g.pattern
  let isTyped ← isNext (.mark ":")
  if p = .verbatim && !isTyped then loseAttributes before ts
  if ← accept (.mark ":") then discard (g.type true)

/-- Takes a closure. -/
def closure (allowsStruct : Bool) : TokenParser Unit := do
  let _ ← optionalBinder g
  let _ ← accept (.word "const")
  let _ ← accept (.word "static")
  let _ ← accept (.word "async")
  let _ ← accept (.word "move")
  expect (.mark "|")
  listUntil (isNext (.mark "|")) (.mark ",") (closureParameter g)
  expect (.mark "|")
  if ← accept (.mark "->") then
    discard (g.type true)
    plainBlock g
  else discard (g.expression allowsStruct)

/-- Takes a field of a structure with its value. -/
def fieldValue : TokenParser Unit := do
  attributes g
  let isNamed ← member
  if !isNamed || (← isNext (.mark ":")) then
    expect (.mark ":")
    discard (g.expression true)

/-- Takes the fields of a structure with their values. -/
def fieldValues : TokenParser Unit :=
  whileTrue do
    if ← isOver then return false
    if ← accept (.mark "..") then
      if !(← isOver) then discard (g.expression true)
      return false
    fieldValue g
    if ← isOver then return false
    expect (.mark ",")
    return true

/-- Takes an expression that starts with a path. -/
def pathExpression (allowsStruct : Bool) : TokenParser ExpressionForm := do
  let p ← qualifiedPath g true
  if !p.isQualified && p.isPlain && (← isMacroMark) then
    expect (.mark "!")
    return { kind := .macroUse ((← delimited) = .brace) }
  else
    if allowsStruct && (← isNext (.group .brace)) then within .brace (fieldValues g)
    return {}

/-- Takes an expression in parentheses, or several ones. -/
def parenExpression : TokenParser Unit := within .paren (terminated (discard (g.expression true)))

/-- Takes an array. -/
def arrayExpression : TokenParser Unit :=
  within .bracket do
    if ← isOver then return
    discard (g.expression true)
    if ← isOver then return
    else if ← accept (.mark ",") then terminated (discard (g.expression true))
    else if ← accept (.mark ";") then discard (g.expression true)
    else failExpecting [.mark ",", .mark ";"]

/-- Takes the match of a pattern. -/
def letExpression (allowsStruct : Bool) : TokenParser Unit := do
  expect (.word "let")
  discard (patterns g)
  expect (.mark "=")
  discard (g.operators allowsStruct .compare (← g.operand allowsStruct))

/-- Takes a conditional expression. -/
def ifExpression : TokenParser Unit :=
  whileTrue do
    expect (.word "if")
    discard (g.expression false)
    plainBlock g
    if ← accept (.word "else") then
      if ← isNext (.word "if") then return true
      else if ← isNext (.group .brace) then
        plainBlock g
        return false
      else failExpecting [.word "if", .group .brace]
    else return false

/-- Takes a loop with a condition. -/
def whileExpression : TokenParser Unit := do
  expect (.word "while")
  discard (g.expression false)
  block g

/-- Takes a loop over elements. -/
def forExpression : TokenParser Unit := do
  expect (.word "for")
  discard (patterns g)
  expect (.word "in")
  discard (g.expression false)
  block g

/-- Takes a loop without a condition. -/
def loopExpression : TokenParser Unit := do
  expect (.word "loop")
  block g

/-- Takes a loop or a block with a label. -/
def labeledExpression : TokenParser Unit := do
  label
  if ← isNext (.word "while") then whileExpression g
  else if ← isNext (.word "for") then forExpression g
  else if ← isNext (.word "loop") then loopExpression g
  else if ← isNext (.group .brace) then block g
  else failHere (.expected ["loop or block expression"])

/-- Takes the jump out of a loop. -/
def breakExpression (allowsStruct : Bool) : TokenParser Unit := do
  expect (.word "break")
  if (← isNext .lifetime) && (← isSecond (.mark ":")) then
    discard (g.expression true)
    fail .missingParens
  else
    let _ ← accept .lifetime
    if allowsStruct || !(← isNext (.group .brace)) then optionalExpression g

end BannerGen.FontAttribute.Grammar
