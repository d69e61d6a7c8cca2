import BannerGen.FontAttribute.Grammar.Generics

/-!
# Types and bounds

A bound of a type is a trait, a lifetime or a list of captured parameters. Several bounds are joined
by plus signs; where that would be ambiguous, they are taken for a type only in parentheses. A trait
that is marked as constant is written again as it was.
-/

namespace BannerGen.FontAttribute.Grammar

open TokenParser

/-- Takes a list of captured parameters. -/
def capturedParameters : TokenParser Unit := do
  expect (.word "use")
  expect (.mark "<")
  let separator := do
    if !(← accept (.mark ",")) then failExpecting [.mark ",", .mark ">"]
  discard <| entries separator do
    if ← accept .lifetime then return true
    else if ← isOneOf [.name, .word "Self"] then
      expect .anyName
      return false
    else failExpecting [.lifetime, .name, .mark ">"]
  expect (.mark ">")

/-- Takes a calling convention. -/
def convention : TokenParser Unit := do
  expect (.word "extern")
  let _ ← accept .text

/-- Takes a calling convention, if there is one. -/
def optionalConvention : TokenParser Unit := do
  if ← isNext (.word "extern") then convention

/-- Takes the mark of a constant trait, if there is one, and tells whether there is. -/
def constMark (allowsConst : Bool) : TokenParser Bool := do
  if ← isNext (.group .bracket) then
    within .bracket (expect (.word "const"))
    if allowsConst then return true else fail (.misplaced "`[const]`")
  else if ← accept (.word "const") then
    if allowsConst then return true else fail (.misplaced "`const`")
  else return false

/-- The ways in which a bound after a plus sign may start. -/
def boundStarts : List Start := [.anyName, .mark "::", .mark "?", .lifetime, .group .paren]

variable (g : Grammar)

/-- Takes a trait with its marks, and tells whether it is a constant one. -/
def traitBound (allowsConst : Bool) : TokenParser Bool := do
  let isBinder ← optionalBinder g
  let isConst ← constMark allowsConst
  let isOptional ← accept (.mark "?")
  let isBinder ← if isOptional && !isBinder then optionalBinder g else pure isBinder
  let p ← path g false
  if ← isParenArguments p then discard (parenArguments g p)
  if isBinder && isOptional then fail .optionalBinder
  return isConst

/-- Takes a bound. -/
def boundRule (allowsCapture allowsConst : Bool) : TokenParser BoundForm := do
  if ← accept .lifetime then return .lifetime
  else if ← isNext (.word "use") then
    capturedParameters
    if allowsCapture then return .capture
    else fail (.misplaced "`use<...>` precise capturing syntax")
  else
    let isConst ← verbatimIf id do
      if ← isNext (.group .paren) then within .paren (traitBound g allowsConst)
      else traitBound g allowsConst
    return if isConst then .constTrait else .trait

/-- Takes bounds with plus signs in between. -/
def bounds (allowsPlus allowsCapture allowsConst : Bool) : TokenParser (List BoundForm) :=
  iterate (fun l => do
    let b ← g.bound allowsCapture allowsConst
    if allowsPlus then
      if ← accept (.mark "+") then
        let constStarts := if allowsConst then [.group .bracket, .word "const"] else []
        return (l ++ [b], ← isOneOf (boundStarts ++ constStarts))
    return (l ++ [b], false)) []

/-- Takes the bounds of a trait object. -/
def objectBounds (allowsPlus : Bool) : TokenParser Unit := do
  if !(← bounds g allowsPlus false false).contains .trait then fail .objectWithoutTrait

/-- Takes further bounds as long as there are plus signs. -/
def moreBounds : TokenParser Unit :=
  whileTrue do
    if ← accept (.mark "+") then
      discard (g.bound false false)
      return true
    else return false

/-- What a pair of parentheses in a type contains. -/
inductive ParenContent where
  /-- Types with commas in between, or none. -/
  | tuple
  /-- Bounds that start with a lifetime. -/
  | lifetimes
  /-- A bound that is optional. -/
  | optional
  /-- A type. -/
  | type (t : TypeForm)

/-- Takes what stands between the parentheses of a type. -/
def parenContent : TokenParser ParenContent := do
  if ← isOver then return .tuple
  else if ← isNext .lifetime then
    objectBounds g true
    return .lifetimes
  else if ← isNext (.mark "?") then
    discard (traitBound g false)
    return .optional
  else
    let t ← g.type true
    if ← accept (.mark ",") then
      terminated (discard (g.type true))
      return .tuple
    else return .type t

/-- Whether a type in parentheses may be the first of several bounds. -/
def startsBounds : TypeForm → Bool
  | .path p => !p.isQualified
  | .bounds isSingle => isSingle
  | _ => false

/-- Takes a type that starts with parentheses. -/
def parenType (allowsPlus : Bool) : TokenParser TypeForm := do
  let (content, isLeft) ← enter .paren (parenContent g)
  let isPlus ← isNext (.mark "+")
  let form ← match content with
    | .tuple => pure .other
    | .lifetimes => pure .paren
    | .optional => do
      moreBounds g
      pure (.bounds (!isPlus))
    | .type t => do
      if allowsPlus && isPlus && startsBounds t then
        moreBounds g
        pure (.bounds false)
      else pure .paren
  if isLeft then noteLeftover .paren
  return form

/-- Takes a type that starts with a path. -/
def pathType (allowsPlus isBound : Bool) : TokenParser TypeForm := do
  let p ← typePath g
  if p.isQualified then return .path p
  else if p.isPlain && (← isMacroMark) then
    expect (.mark "!")
    discard delimited
    return .other
  else
    let isPlus := allowsPlus && (← isNext (.mark "+"))
    if isPlus then
      whileTrue do
        if ← accept (.mark "+") then
          if ← isOneOf boundStarts then
            discard (g.bound false false)
            return true
        return false
    return if isPlus || isBound then .bounds (!isPlus) else .path p

/-- Takes a parameter of a function type. Only the first one may be a receiver. -/
def bareParameter (isFirst : Bool) : TokenParser Unit := do
  attributes g
  discard <| verbatimIf id do
    let isMutSelf := isFirst && (← isNext (.word "mut")) && (← isSecond (.word "self"))
    if isMutSelf then expect (.word "mut")
    let isSelf := isFirst && (← isNext (.word "self"))
    let isNamed := (isSelf || (← isOneOf [.name, .word "_"])) && (← isSecond (.mark ":"))
      && !(← isSecond (.mark "::"))
    if isNamed then
      expect .anyName
      expect (.mark ":")
    if isFirst && !(isNamed && isSelf) && (← isNext (.word "mut"))
        && (← isSecond (.word "self")) then
      expect (.word "mut")
      expect (.word "self")
      return true
    else if isMutSelf && !isNamed then
      expect (.word "self")
      return true
    else
      discard (g.type true)
      return isMutSelf

/-- Whether an ellipsis comes next in a function type, perhaps with a name. -/
def isBareEllipsis : TokenParser Bool := do
  return (← isNext (.mark "...")) || ((← isOneOf [.name, .word "_"]) && (← isSecond (.mark ":"))
    && (← isThird (.mark "...")))

/-- Takes the parameters of a function type. -/
def bareParameters : TokenParser Unit := do
  discard <| iterate (fun isFirst => do
    if ← isOver then return (isFirst, false)
    attributes g
    if ← isBareEllipsis then
      if ← isOneOf [.name, .word "_"] then
        expect .anyName
        expect (.mark ":")
      expect (.mark "...")
      let _ ← accept (.mark ",")
      return (isFirst, false)
    bareParameter g isFirst
    if ← isOver then return (false, false)
    expect (.mark ",")
    return (false, true)) true

/-- Takes a function type. -/
def functionType : TokenParser Unit := do
  let _ ← accept (.word "unsafe")
  optionalConvention
  expect (.word "fn")
  let (_, isLeft) ← enter .paren (bareParameters g)
  discard (returnType g false)
  if isLeft then noteLeftover .paren

/-- The ways in which a type may go on after lifetimes that are bound by `for`. -/
def boundTypeStarts : List Start :=
  [.name, .word "fn", .word "unsafe", .word "extern", .word "super", .word "self", .word "Self",
   .word "crate"]

/-- The ways in which a type may start. -/
def typeStarts : List Start :=
  [.word "for", .group .paren, .word "fn", .word "unsafe", .word "extern", .name, .mark "::",
   .mark "<", .word "dyn", .group .bracket, .mark "*", .mark "&", .mark "!", .word "impl",
   .word "_", .lifetime]

/-- Takes a type. -/
def typeRule (allowsPlus : Bool) : TokenParser TypeForm := do
  let isBound ← optionalBinder g
  if isBound && !(← isOneOf boundTypeStarts) then failExpecting boundTypeStarts
  else if ← isNext (.group .paren) then parenType g allowsPlus
  else if ← isOneOf [.word "fn", .word "unsafe", .word "extern"] then
    functionType g
    return .other
  else if ← isOneOf (plainSegments ++ [.mark "::", .mark "<"]) then pathType g allowsPlus isBound
  else if ← isNext (.word "dyn") then
    discard <| verbatimIf id do
      expect (.word "dyn")
      let isStar ← accept (.mark "*")
      objectBounds g allowsPlus
      return isStar
    return .other
  else if ← isNext (.group .bracket) then
    within .bracket do
      discard (g.type true)
      if ← accept (.mark ";") then discard (g.expression true)
    return .other
  else if ← accept (.mark "*") then
    if !(← accept (.word "const")) then
      if !(← accept (.word "mut")) then failExpecting [.word "const", .word "mut"]
    discard (g.type false)
    return .other
  else if ← accept (.mark "&") then
    let _ ← accept .lifetime
    let _ ← accept (.word "mut")
    discard (g.type false)
    return .other
  else if ← accept (.mark "!") then return .other
  else if ← accept (.word "impl") then
    let l ← bounds g allowsPlus true true
    if !(l.contains .trait || l.contains .constTrait) then fail .unnamedWithoutTrait
    return .other
  else if ← accept (.word "_") then return .other
  else if ← isNext .lifetime then
    objectBounds g true
    return .other
  else failExpecting typeStarts

end BannerGen.FontAttribute.Grammar
