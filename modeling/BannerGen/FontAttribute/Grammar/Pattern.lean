import BannerGen.FontAttribute.Grammar.Type

/-!
# Patterns

The limits of a range may be written with three dots in a pattern, and are written again with two
dots and an equals sign.
-/

namespace BannerGen.FontAttribute.Grammar

open TokenParser

/-- Takes the limits of a range, and tells whether its end belongs to it. -/
def rangeLimits : TokenParser Bool := do
  if ← accept (.mark "..=") then return true
  else if ← isNext (.mark "...") then failExpecting [.mark "..="]
  else if ← accept (.mark "..") then return false
  else failExpecting [.mark ".."]

/-- Takes the limits of a range in a pattern, and tells whether its end belongs to it. -/
def patternLimits : TokenParser Bool := do
  if ← isNext (.mark "...") then
    replace 3 [.mark '.' true, .mark '.' true, .mark '=' false] .limits
    return true
  else rangeLimits

/-- Whether an alternative of a pattern comes next. -/
def isBar : TokenParser Bool := do
  return (← isNext (.mark "|")) && !(← isNext (.mark "||")) && !(← isNext (.mark "|="))

/-- The ways in which the start or the end of a range in a pattern may start. -/
def rangeBoundStarts : List Start :=
  [.literal, .name, .mark "::", .mark "<", .word "self", .word "Self", .word "super",
   .word "crate", .word "const"]

/-- The ways in which a pattern may start. -/
def patternStarts : List Start :=
  [.name, .mark "::", .mark "<", .word "_", .literal, .word "const", .word "ref", .word "mut",
   .mark "&", .group .paren, .group .bracket, .mark "..", .word "const"]

/-- What the number of a field is, if it is one. -/
def fieldNumber (isNegative : Bool) : Option Numeral → Except Fault Nat
  | some (.whole n suffix) =>
    if suffix ≠ "" then throw (.expected ["unsuffixed integer"])
    else if isNegative then throw .negativeNumber
    else if n < 0x100000000 then return n
    else throw .numberTooLarge
  | some .fractional => throw (.expected ["integer literal"])
  | none => throw .malformedNumber

/-- The token of the number of a field. -/
def numberToken (n : Nat) : Token := .literal (toString n)

/-- Takes the number of a field, and writes it in decimal digits. -/
def fieldIndex : TokenParser Unit := do
  let (isNegative, spelling, length) ← match ← remaining with
    | .literal s :: _ => pure (false, s, 1)
    | .mark '-' _ :: .literal s :: _ => pure (true, s, 2)
    | _ => failExpecting [.whole]
  match fieldNumber isNegative (Numeral.ofSpelling? spelling) with
  | .ok n =>
    if !isNegative && spelling = toString n then take 1
    else replace length [numberToken n] .fieldNumber
  | .error fault => fail fault

/-- Takes the name or the number of a field, and tells whether it is a name. -/
def member : TokenParser Bool := do
  if ← accept .name then return true
  else if ← isNext .whole then
    fieldIndex
    return false
  else failHere (.expected ["identifier", "integer"])

variable (g : Grammar)

/-- Takes a pattern, perhaps with alternatives. -/
def patterns : TokenParser PatternForm := do
  let isFirst ← accept (.mark "|")
  let p ← g.pattern
  if isFirst || (← isBar) then
    whileTrue do
      if ← isBar then
        expect (.mark "|")
        discard g.pattern
        return true
      else return false
    return .other
  else return p

/-- Takes the start or the end of a range, if there is one, and tells whether there is. -/
def rangeBound : TokenParser Bool := do
  if (← isOver) || (← isColon)
      || (← isOneOf [.mark "|", .mark "=", .mark ",", .mark ";", .word "if"]) then return false
  else if ← accept .literal then return true
  else if ← isOneOf (plainSegments ++ [.mark "::", .mark "<"]) then
    discard (qualifiedPath g true)
    return true
  else if ← accept (.word "const") then
    block g
    return true
  else failExpecting rangeBoundStarts

/-- Takes the limits and the end of a range. -/
def rangeRest : TokenParser PatternForm := do
  let isClosed ← patternLimits
  let hasEnd ← rangeBound g
  if hasEnd then return .other
  else if isClosed then failHere (.expected ["range upper bound"])
  else return .openRange

/-- Takes a range without a start, or the pattern for everything that is not mentioned. -/
def rangeWithoutStart : TokenParser PatternForm := do
  let isClosed ← rangeLimits
  let hasEnd ← rangeBound g
  if hasEnd then return .openRange
  else if isClosed then failHere (.expected ["range upper bound"])
  else return .rest

/-- Takes the pattern for a field of a structure. -/
def fieldPattern : TokenParser Unit := do
  let isBoxed ← accept (.word "box")
  let isRef ← accept (.word "ref")
  let isMut ← accept (.word "mut")
  if isBoxed || isRef || isMut then expect .name
  else
    let isNamed ← member
    if !isNamed || (← isNext (.mark ":")) then
      expect (.mark ":")
      discard (patterns g)

/-- Takes the patterns for the fields of a structure. -/
def fieldPatterns : TokenParser Unit :=
  whileTrue do
    if ← isOver then return false
    attributes g
    if ← accept (.mark "..") then return false
    fieldPattern g
    if ← isOver then return false
    expect (.mark ",")
    return true

/-- Takes a pattern that starts with a path. -/
def pathPattern : TokenParser PatternForm := do
  let p ← qualifiedPath g true
  if !p.isQualified && p.isPlain && (← isMacroMark) then
    expect (.mark "!")
    discard delimited
    return .other
  else if ← isNext (.group .brace) then
    within .brace (fieldPatterns g)
    return .other
  else if ← isNext (.group .paren) then
    within .paren (terminated (discard (patterns g)))
    return .other
  else if ← isNext (.mark "..") then rangeRest g
  else return .other

/-- Takes a pattern that starts with a literal or a constant. -/
def literalPattern : TokenParser PatternForm := do
  discard (rangeBound g)
  if ← isNext (.mark "..") then rangeRest g else return .other

/-- Takes a pattern that starts with a name to be bound. -/
def namePattern : TokenParser PatternForm := do
  let _ ← accept (.word "ref")
  let _ ← accept (.word "mut")
  if ← isNext (.word "self") then expect .anyName else expect .name
  if ← accept (.mark "@") then discard g.pattern
  return .other

/-- Takes the pattern for an element of a slice. -/
def elementPattern : TokenParser Unit := do
  if (← patterns g) = .openRange then fail .rangeInSlice

/-- Whether a pattern comes next that starts with a path. -/
def isPathPattern : TokenParser Bool := do
  return ((← isNext .name) && (← isSecondOf
      [.mark "::", .mark "!", .group .brace, .group .paren, .mark ".."]))
    || ((← isNext (.word "self")) && (← isSecond (.mark "::")))
    || (← isOneOf [.mark "::", .mark "<", .word "Self", .word "super", .word "crate"])

/-- Takes a pattern without alternatives. -/
def patternRule : TokenParser PatternForm := do
  if ← isPathPattern then pathPattern g
  else if ← accept (.word "_") then return .other
  else if ← isNext (.word "box") then
    verbatim do
      expect (.word "box")
      discard g.pattern
    return .verbatim
  else if ← isOneOf [.mark "-", .literal, .word "const"] then literalPattern g
  else if ← isOneOf [.word "ref", .word "mut", .word "self", .name] then namePattern g
  else if ← accept (.mark "&") then
    let _ ← accept (.word "mut")
    discard g.pattern
    return .other
  else if ← isNext (.group .paren) then
    within .paren (terminated (discard (patterns g)))
    return .other
  else if ← isNext (.group .bracket) then
    within .bracket (terminated (elementPattern g))
    return .other
  else if (← isNext (.mark "..")) && !(← isNext (.mark "...")) then rangeWithoutStart g
  else failExpecting patternStarts

end BannerGen.FontAttribute.Grammar
