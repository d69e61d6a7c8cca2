import BannerGen.FontAttribute.Grammar.Attribute

/-!
# Paths

The parts of a path may have arguments: a list between angle brackets, which in expressions and
patterns needs a double colon in front of it, or, in types and bounds, a list of types between
parentheses. When a list between angle brackets is written again, lifetimes come first.
-/

namespace BannerGen.FontAttribute.Grammar

open TokenParser

/-- An entry of a list in which lifetimes come first. -/
structure Entry where
  /-- Whether it is a lifetime. -/
  isLifetime : Bool
  /-- Its tokens, with the comma after it. -/
  tokens : List Token
  /-- Whether a comma follows it. -/
  isFollowed : Bool

/-- The tokens of entries with lifetimes first, and a comma after these if others follow. -/
def sortedTokens (l : List Entry) : List Token :=
  let (lifetimes, others) := l.partition (·.isLifetime)
  let needsComma := !others.isEmpty && lifetimes.getLast?.any fun e => !e.isFollowed
  lifetimes.flatMap (·.tokens) ++ (if needsComma then [.mark ',' false] else [])
    ++ others.flatMap (·.tokens)

/-- Whether lifetimes come before other entries. -/
def isSorted (l : List Entry) : Bool :=
  (l.dropWhile (·.isLifetime)).all fun e => !e.isLifetime

/-- Takes entries up to a closing angle bracket, and tells whether there are any. Each `item` tells
whether it is a lifetime; these are written first. -/
def entries (separator : TokenParser Unit) (item : TokenParser Bool) : TokenParser Bool := do
  let l ← iterate (fun l => do
    if ← isNext (.mark ">") then return (l, false)
    let (isLifetime, tokens) ← recorded item
    if ← isNext (.mark ">") then return (l ++ [⟨isLifetime, tokens, false⟩], false)
    let (_, comma) ← recorded separator
    return (l ++ [⟨isLifetime, tokens ++ comma, true⟩], true)) []
  if !isSorted l then rewrite (l.flatMap (·.tokens)).length (sortedTokens l) .lifetimesFirst
  return !l.isEmpty

variable (g : Grammar)

/-- Takes a constant argument: a literal, a name or a block. -/
def constArgument : TokenParser Unit := do
  if ← accept .literal then return
  else if ← accept .name then return
  else if ← isNext (.group .brace) then block g
  else failExpecting []

/-- Whether a constant argument comes next that cannot be a type. -/
def isConstArgument : TokenParser Bool := isOneOf [.literal, .group .brace]

/-- Takes what may follow the name of an associated type: its value or its bounds. -/
def associated : TokenParser Unit := do
  if ← accept (.mark "=") then
    if ← isConstArgument then constArgument g else discard (g.type true)
  else if ← accept (.mark ":") then
    listWhile (isOneOf [.mark ",", .mark ">"]) (.mark "+") (discard (g.bound false true))

/-- Takes an argument, and tells whether it is a lifetime. -/
def genericArgument : TokenParser Bool := do
  if (← isNext .lifetime) && !(← isSecond (.mark "+")) then
    expect .lifetime
    return true
  else if ← isConstArgument then
    constArgument g
    return false
  else
    if let .path p ← g.type true then
      if p.isAssociated then associated g
    return false

/-- Takes a list of arguments between angle brackets, and tells whether it is empty. -/
def angleArguments : TokenParser Bool := do
  expect (.mark "<")
  let hasEntries ← entries (expect (.mark ",")) (genericArgument g)
  expect (.mark ">")
  return !hasEntries

/-- Whether a list between angle brackets comes next. -/
def isAngleOpening : TokenParser Bool := do
  return (← isNext (.mark "<")) && !(← isNext (.mark "<=")) && !(← isNext (.mark "<<="))

/-- Takes a part of a path. -/
def segment (isExpression : Bool) : TokenParser Arguments := do
  if ← isOneOf [.word "super", .word "self", .word "crate", .word "try"] then
    expect .anyName
    return .none
  else
    if ← isNext (.word "Self") then expect .anyName else expect .name
    if (!isExpression && (← isAngleOpening))
        || ((← isNext (.mark "::")) && (← isThird (.mark "<"))) then
      let (isEmpty, ts) ← recorded do
        let _ ← accept (.mark "::")
        angleArguments g
      return .angles isEmpty ts.length
    else return .none

/-- Takes further parts of a path. -/
def pathRest (isExpression : Bool) (p : PathForm) : TokenParser PathForm :=
  iterate (fun p => do
    if (← isNext (.mark "::")) && !(← isThird (.group .paren)) then
      expect (.mark "::")
      let last ← segment g isExpression
      let isPlain := p.isPlain && last = .none
      return ({ p with isSingle := false, isPlain, last }, true)
    else return (p, false)) p

/-- Takes a path. -/
def path (isExpression : Bool) : TokenParser PathForm := do
  let isRooted ← accept (.mark "::")
  let last ← segment g isExpression
  pathRest g isExpression { isRooted, isPlain := last = .none, last }

/-- Takes a path that may start with a type between angle brackets. -/
def qualifiedPath (isExpression : Bool) : TokenParser PathForm := do
  if ← accept (.mark "<") then
    discard (g.type true)
    if ← accept (.word "as") then discard (path g false)
    expect (.mark ">")
    expect (.mark "::")
    let last ← iterate (fun _ => do
      let last ← segment g isExpression
      return (last, ← accept (.mark "::"))) .none
    return { isQualified := true, isSingle := false, isPlain := false, last }
  else path g isExpression

/-- Takes a return type, if there is one. -/
def returnType (allowsPlus : Bool) : TokenParser (Option TypeForm) := do
  if ← accept (.mark "->") then some <$> g.type allowsPlus else return none

/-- Whether arguments between parentheses come next, and belong to the given path. -/
def isParenArguments (p : PathForm) : TokenParser Bool := do
  return p.last.isEmpty && ((← isNext (.group .paren))
    || ((← isNext (.mark "::")) && (← isThird (.group .paren))))

/-- Takes the arguments of a path between parentheses, with a return type. A double colon in front
of them and an empty list between angle brackets are not written again. -/
def parenArguments (p : PathForm) : TokenParser (Option TypeForm) := do
  if p.last.angleLength ≠ 0 then rewrite p.last.angleLength [] .pathArguments
  if ← isNext (.mark "::") then replace 2 [] .pathArguments
  within .paren (terminated (discard (g.type true)))
  returnType g false

/-- Whether a path may go on after arguments between parentheses with the given return type. -/
def allowsRest : Option TypeForm → Bool
  | none | some .paren => true
  | _ => false

/-- Takes a path that is a type. -/
def typePath : TokenParser PathForm := do
  iterate (fun p => do
    if ← isParenArguments p then
      let output ← parenArguments g p
      let p := { p with isPlain := false, last := .parens }
      if allowsRest output then return (← pathRest g false p, true) else return (p, true)
    else return (p, false)) (← qualifiedPath g false)

end BannerGen.FontAttribute.Grammar
