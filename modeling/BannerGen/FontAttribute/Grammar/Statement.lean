import BannerGen.FontAttribute.Grammar.Item

/-!
# Statements

A statement is a declaration of local variables, an item, the use of a macro with braces, or an
expression. An expression must be followed by a semicolon, unless it is the last one or ends with a
block of its own.
-/

namespace BannerGen.FontAttribute.Grammar

open TokenParser

/-- What the use of a macro at the beginning of a statement is. -/
inductive MacroStatement where
  /-- An expression, or no use of a macro at all. -/
  | expression
  /-- A statement with braces. -/
  | braced
  /-- An item. -/
  | item
deriving DecidableEq, Repr

/-- What the use of a macro that comes next is. -/
def macroStatement : TokenParser MacroStatement :=
  lookAhead do
    if (← attempt plainPath).isNone || !(← isNext (.mark "!")) then return .expression
    else if ← isSecondOf [.name, .word "try"] then return .item
    else if (← isSecond (.group .brace)) && !(← isThird (.mark "?"))
        && (!(← isThird (.mark ".")) || (← isThird (.mark ".."))) then return .braced
    else return .expression

/-- Whether tokens that start with `static` or `const` are an item, and not an expression. -/
def startsConstItem (ts : List Token) : Bool :=
  let second := afterFirst ts
  let third := afterFirst second
  let isAny (l : List Start) (ts : List Token) : Bool := l.any fun s => s.isAt ts
  (Start.isAt (.word "static") ts && isAny [.word "mut", .name] second)
    || (Start.isAt (.word "const") ts
      && !isAny [.group .brace, .word "static", .word "move", .mark "|"] second
      && (!Start.isAt (.word "async") second
        || isAny [.word "unsafe", .word "extern", .word "fn"] third))

/-- Whether an item comes next, other than the use of a macro. -/
def isItem : TokenParser Bool := do
  let ts ← remaining
  let functionMarks : List Start := [.word "unsafe", .word "extern", .word "fn"]
  return (← isOneOf
      [.word "pub", .word "extern", .word "use", .word "fn", .word "mod", .word "type",
       .word "struct", .word "enum", .word "trait", .word "impl", .word "macro"])
    || ((← isNext (.word "crate")) && !(← isSecond (.mark "::")))
    || startsConstItem ts
    || ((← isNext (.word "unsafe")) && !(← isSecond (.group .brace)))
    || ((← isNext (.word "async")) && (← isSecondOf functionMarks))
    || ((← isNext (.word "union")) && (← isSecond .name))
    || ((← isNext (.word "auto")) && (← isSecond (.word "trait")))
    || ((← isNext (.word "default")) && (← isSecondOf [.word "unsafe", .word "impl"]))

/-- Whether the last token that was written is a pair of braces. -/
def endsInBraces : TokenParser Bool := do
  match ← lastWritten? with
  | some (.group .brace _) => return true
  | _ => return false

variable (g : Grammar)

/-- Takes the declaration of local variables. -/
def letStatement : TokenParser Unit := do
  expect (.word "let")
  discard g.pattern
  if ← accept (.mark ":") then discard (g.type true)
  if ← accept (.mark "=") then
    discard (g.expression true)
    if !(← endsInBraces) then
      if ← accept (.word "else") then plainBlock g
  expect (.mark ";")

/-- Takes a statement, and tells whether another one may follow it only after a semicolon. -/
def statement : TokenParser Bool := do
  let (needsSemicolon, _) ← verbatimIf Prod.snd do
    let (_, before) ← recorded (attributes g)
    let kind ← macroStatement
    if kind = .braced then
      plainPath
      expect (.mark "!")
      discard delimited
      discard (accept (.mark ";"))
      return (false, false)
    else if ← isNext (.word "let") then
      letStatement g
      return (false, false)
    else if kind = .item || (← isItem) then return (false, ← itemRest g)
    else
      let (e, ts) ← recorded g.statementExpression
      if e.startsVerbatim then loseAttributes before ts
      if ← accept (.mark ";") then return (false, false) else return (e.needsSemicolon, false)
  return needsSemicolon

/-- Takes statements up to the end. -/
def statementsRule : TokenParser Unit :=
  whileTrue do
    whileTrue (accept (.mark ";"))
    if ← isOver then return false
    let needsSemicolon ← statement g
    if ← isOver then return false
    else if needsSemicolon then failHere .missingSemicolon
    else return true

end BannerGen.FontAttribute.Grammar
