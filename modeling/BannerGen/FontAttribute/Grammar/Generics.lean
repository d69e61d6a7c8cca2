import BannerGen.FontAttribute.Grammar.Path

/-!
# Generic parameters and conditions

Lists of generic parameters, of the lifetimes that are bound by `for`, and of conditions. A list
without any entries is not written again, nor is a colon without bounds after it; and among generic
parameters, lifetimes come first.
-/

namespace BannerGen.FontAttribute.Grammar

open TokenParser

/-- Whether tokens start with a list of generic parameters, and not with a path that starts with a
type between angle brackets. -/
def startsGenerics (ts : List Token) : Bool :=
  let second := afterFirst ts
  let third := afterFirst second
  Start.isAt (.mark "<") ts
    && (Start.isAt (.mark ">") second || Start.isAt (.mark "#") second
      || ((Start.isAt .lifetime second || Start.isAt .name second)
        && (Start.isAt (.mark ">") third || Start.isAt (.mark ",") third
          || (Start.isAt (.mark ":") third && !Start.isAt (.mark "::") third)
          || Start.isAt (.mark "=") third))
      || Start.isAt (.word "const") second)

/-- Whether a colon comes next that is not part of a double colon. -/
def isColon : TokenParser Bool := return (← isNext (.mark ":")) && !(← isNext (.mark "::"))

/-- Takes a lifetime with its bounds. -/
def lifetimeParameter : TokenParser Unit := do
  expect .lifetime
  if ← isNext (.mark ":") then
    headed (expect (.mark ":"))
      (listWhile (isOneOf [.mark ",", .mark ">"]) (.mark "+") (expect .lifetime))

variable (g : Grammar)

/-- Takes a type parameter with its bounds and its default. -/
def typeParameter : TokenParser Unit := do
  expect .name
  if ← isNext (.mark ":") then
    headed (expect (.mark ":"))
      (listWhile (isOneOf [.mark ",", .mark ">", .mark "="]) (.mark "+")
        (discard (g.bound false true)))
  if ← accept (.mark "=") then discard (g.type true)

/-- Takes a constant parameter with its type and its default. -/
def constParameter : TokenParser Unit := do
  expect (.word "const")
  expect .name
  expect (.mark ":")
  discard (g.type true)
  if ← accept (.mark "=") then constArgument g

/-- Takes a parameter that is bound by `for`. -/
def boundParameter : TokenParser Unit := do
  attributes g
  if ← isNext .name then typeParameter g
  else if ← isNext .lifetime then lifetimeParameter
  else if ← isNext (.word "const") then constParameter g
  else failExpecting [.name, .lifetime, .word "const"]

/-- Takes a list of parameters that are bound by `for`. -/
def binder : TokenParser Unit := do
  expect (.word "for")
  expect (.mark "<")
  listUntil (isNext (.mark ">")) (.mark ",") (boundParameter g)
  expect (.mark ">")

/-- Takes a list of parameters that are bound by `for`, if there is one, and tells whether there
is. -/
def optionalBinder : TokenParser Bool := do
  if ← isNext (.word "for") then
    binder g
    return true
  else return false

/-- Takes a generic parameter, and tells whether it is a lifetime. -/
def genericParameter : TokenParser Bool := do
  attributes g
  if ← isNext .lifetime then
    lifetimeParameter
    return true
  else if ← isNext .name then
    typeParameter g
    return false
  else if ← isNext (.word "const") then
    constParameter g
    return false
  else if ← accept (.word "_") then return false
  else failExpecting [.lifetime, .name, .word "const"]

/-- Takes a list of generic parameters, if there is one, and tells whether it has any. -/
def generics : TokenParser Bool := do
  if ← isNext (.mark "<") then
    let (hasEntries, ts) ← recorded do
      expect (.mark "<")
      let hasEntries ← entries (expect (.mark ",")) (genericParameter g)
      expect (.mark ">")
      return hasEntries
    if !hasEntries then rewrite ts.length [] .emptyList
    return hasEntries
  else return false

/-- Whether a list of conditions or of their bounds ends here, other than with a colon. -/
def isConditionEnd : TokenParser Bool := do
  return (← isOver) || (← isOneOf [.group .brace, .mark ",", .mark ";", .mark "="])

/-- Takes a condition. -/
def condition : TokenParser Unit := do
  if (← isNext .lifetime) && (← isSecond (.mark ":")) then
    expect .lifetime
    expect (.mark ":")
    listWhile (return (← isConditionEnd) || (← isNext (.mark ":"))) (.mark "+") (expect .lifetime)
  else
    let _ ← optionalBinder g
    discard (g.type true)
    expect (.mark ":")
    listWhile (return (← isConditionEnd) || (← isColon)) (.mark "+")
      (discard (g.bound false true))

/-- Takes a list of conditions, if there is one, and tells whether there is. -/
def conditions : TokenParser Bool := do
  if ← isNext (.word "where") then
    headed (expect (.word "where")) do
      if startsGenerics (← remaining) then failHere .genericConditions
      else listWhile (return (← isConditionEnd) || (← isColon)) (.mark ",") (condition g)
    return true
  else return false

end BannerGen.FontAttribute.Grammar
