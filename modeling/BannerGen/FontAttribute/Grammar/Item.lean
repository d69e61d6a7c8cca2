import BannerGen.FontAttribute.Grammar.Operand
import BannerGen.FontAttribute.Grammar.Signature

/-!
# Items

The items that may stand in the body of a function: functions, imports, constants, types, traits,
implementations and the like. Items of an unusual form are written again as they were; the parsers
of items tell whether this is so.
-/

namespace BannerGen.FontAttribute.Grammar

open TokenParser

/-- The ways in which the path of a macro may start. -/
def macroStarts : List Start := [.name, .word "self", .word "super", .word "crate", .mark "::"]

/-- Takes a new name for something imported. -/
def rename : TokenParser Unit := do
  if ← accept (.word "_") then return else expect .name

/-- Takes the import of a library. -/
def externCrate : TokenParser Unit := do
  let _ ← visibility
  expect (.word "extern")
  expect (.word "crate")
  if !(← accept (.word "self")) then expect .name
  if ← accept (.word "as") then rename
  expect (.mark ";")

/-- Takes the use of a macro as an item. -/
def macroItem : TokenParser Unit := do
  plainPath
  expect (.mark "!")
  if (← delimited) ≠ .brace then expect (.mark ";")

/-- Takes the use of a macro as an item, perhaps with a name in front of the arguments. -/
def namedMacroItem : TokenParser Unit := do
  plainPath
  expect (.mark "!")
  if !(← accept (.word "try")) then discard (accept .name)
  if (← delimited) ≠ .brace then expect (.mark ";")

/-- Takes the definition of a macro. -/
def macroDefinition : TokenParser Unit := do
  let _ ← visibility
  expect (.word "macro")
  expect .name
  if ← isNext (.group .paren) then
    take 1
    expect (.group .brace)
  else if !(← accept (.group .brace)) then failExpecting [.group .paren, .group .brace]

/-- Takes the name of a constant. -/
def constName : TokenParser Unit := do
  if ← isOneOf [.name, .word "_"] then expect .anyName else failExpecting [.name, .word "_"]

variable (g : Grammar)

/-- Takes what is imported. -/
def importTreeRule (allowsRoot : Bool) : TokenParser Unit := do
  let names : List Start :=
    [.name, .word "self", .word "super", .word "crate", .word "try"]
  if ← isOneOf names then
    expect .anyName
    if ← accept (.mark "::") then g.importTree false
    else if ← accept (.word "as") then
      if ← isOneOf [.name, .word "_"] then expect .anyName
      else failHere (.expected ["identifier", "underscore"])
  else if ← accept (.mark "*") then return
  else if ← isNext (.group .brace) then
    within .brace <| terminated do
      let isRooted ← if allowsRoot then accept (.mark "::") else pure false
      g.importTree (allowsRoot && !isRooted)
  else failExpecting (names ++ [.mark "*", .group .brace])

/-- Takes an import. -/
def importItem : TokenParser Unit := do
  let _ ← visibility
  expect (.word "use")
  let isRooted ← accept (.mark "::")
  g.importTree (!isRooted)
  expect (.mark ";")

/-- Takes a global variable. -/
def staticItem : TokenParser Bool := do
  let _ ← visibility
  expect (.word "static")
  let _ ← accept (.word "mut")
  expect .name
  if ← accept (.mark "=") then
    discard (g.expression true)
    expect (.mark ";")
    return true
  else
    expect (.mark ":")
    discard (g.type true)
    if ← accept (.mark ";") then return true
    else
      expect (.mark "=")
      discard (g.expression true)
      expect (.mark ";")
      return false

/-- Takes a constant after its keyword, and tells whether it has a value and whether it has generic
parameters or conditions. -/
def constRest : TokenParser (Bool × Bool) := do
  constName
  let isGeneric ← isNext (.mark "<")
  discard (generics g)
  expect (.mark ":")
  discard (g.type true)
  let hasValue ← accept (.mark "=")
  if hasValue then discard (g.expression true)
  let isConditional ← conditions g
  expect (.mark ";")
  return (hasValue, isGeneric || isConditional)

/-- Takes a constant. -/
def constItem : TokenParser Bool := do
  expect (.word "const")
  let (hasValue, isGeneric) ← constRest g
  return isGeneric || !hasValue

/-- Takes bounds with plus signs in between until one of the given things comes next. -/
def boundsUntil (ends : List Start) (allowsConst : Bool) : TokenParser Unit :=
  listUntil (isOneOf ends) (.mark "+") (discard (g.bound false allowsConst))

/-- Takes the name of a type with its bounds and its definition, and tells whether it has either.
Conditions stand before or after the definition. -/
def typeDefinition (allowsDefault areBefore areAfter : Bool) : TokenParser (Bool × Bool) := do
  let _ ← visibility
  if allowsDefault then discard (accept (.word "default"))
  expect (.word "type")
  expect .name
  discard (generics g)
  let isBounded ← isNext (.mark ":")
  if isBounded then
    headed (expect (.mark ":")) (boundsUntil g [.word "where", .mark "=", .mark ";"] true)
  let isConditional ← if areBefore then conditions g else pure false
  let isDefined ← accept (.mark "=")
  if isDefined then discard (g.type true)
  if areAfter && !isConditional then discard (conditions g)
  expect (.mark ";")
  return (isBounded, isDefined)

/-- Takes a field without a name. -/
def unnamedField : TokenParser Unit := do
  attributes g
  let _ ← visibility
  discard (g.type true)

/-- Takes a field with a name. In place of a name there may be an underscore, and in place of a type
other fields then. -/
def namedField : TokenParser Unit := do
  attributes g
  let _ ← visibility
  let isBlank ← accept (.word "_")
  if !isBlank then expect .name
  expect (.mark ":")
  if isBlank && ((← isNext (.word "struct"))
      || ((← isNext (.word "union")) && (← isSecond (.group .brace)))) then
    verbatim do
      expect .anyName
      g.namedFields
  else discard (g.type true)

/-- Takes fields with names. -/
def namedFieldsRule : TokenParser Unit := within .brace (terminated (namedField g))

/-- Takes fields without names. -/
def unnamedFields : TokenParser Unit := within .paren (terminated (unnamedField g))

/-- Takes a structure. -/
def structItem : TokenParser Unit := do
  let _ ← visibility
  expect (.word "struct")
  expect .name
  discard (generics g)
  let isConditional ← conditions g
  if !isConditional && (← isNext (.group .paren)) then
    unnamedFields g
    let isConditional ← conditions g
    if !(← accept (.mark ";")) then
      failExpecting (if isConditional then [.mark ";"] else [.word "where", .mark ";"])
  else if ← isNext (.group .brace) then namedFieldsRule g
  else if !(← accept (.mark ";")) then
    failExpecting ((if isConditional then [] else [.word "where", .group .paren])
      ++ [.group .brace, .mark ";"])

/-- Takes a variant of an enumeration. Its visibility is not written again. -/
def variant : TokenParser Unit := do
  attributes g
  let (_, ts) ← recorded visibility
  if !ts.isEmpty then rewrite ts.length [] .visibility
  expect .name
  if ← isNext (.group .brace) then namedFieldsRule g
  else if ← isNext (.group .paren) then unnamedFields g
  if ← accept (.mark "=") then discard (g.expression true)

/-- Takes an enumeration. -/
def enumItem : TokenParser Unit := do
  let _ ← visibility
  expect (.word "enum")
  expect .name
  discard (generics g)
  discard (conditions g)
  within .brace (terminated (variant g))

/-- Takes a union. -/
def unionItem : TokenParser Unit := do
  let _ ← visibility
  expect (.word "union")
  expect .name
  discard (generics g)
  discard (conditions g)
  namedFieldsRule g

/-- Takes a module. -/
def moduleItem : TokenParser Unit := do
  let _ ← visibility
  let _ ← accept (.word "unsafe")
  expect (.word "mod")
  if !(← accept (.word "try")) then expect .name
  if ← accept (.mark ";") then return
  else if ← isNext (.group .brace) then
    within .brace do
      innerAttributes g
      untilOver g.item
  else failExpecting [.mark ";", .group .brace]

/-- Takes a function after its signature, and tells whether it has no body. -/
def functionRest : TokenParser Bool := do
  if ← accept (.mark ";") then return true
  else
    block g
    return false

/-- Takes a function of a trait. -/
def traitFunction : TokenParser Unit := do
  discard (signature g)
  if ← isNext (.group .brace) then block g
  else if !(← accept (.mark ";")) then failExpecting [.group .brace, .mark ";"]

/-- Takes an item of a trait after its attributes, visibility and mark. -/
def traitItemRest (isMarked : Bool) : TokenParser Bool := do
  let ts ← remaining
  if startsSignature false ts then
    traitFunction g
    return false
  else if ← isNext (.word "const") then
    if ← isSecondOf [.name, .word "_"] then
      expect (.word "const")
      return (← constRest g).2
    else if ← isSecondOf [.word "async", .word "unsafe", .word "extern", .word "fn"] then
      traitFunction g
      return false
    else
      failAt (afterFirst ts)
        [.name, .word "_", .word "async", .word "unsafe", .word "extern", .word "fn"]
  else if ← isNext (.word "type") then
    discard (typeDefinition g false false true)
    return false
  else if !isMarked && (← isOneOf macroStarts) then
    macroItem
    return false
  else
    failExpecting ([.word "fn", .word "const", .word "type"]
      ++ (if isMarked then [] else macroStarts))

/-- Takes an item of a trait. -/
def traitItem : TokenParser Unit :=
  discard <| verbatimIf id do
    attributes g
    let isVisible ← visibility
    let isDefault ← accept (.word "default")
    return (← traitItemRest g (isVisible || isDefault)) || isVisible || isDefault

/-- Takes a trait after its name and generic parameters. -/
def traitRest : TokenParser Unit := do
  if ← isNext (.mark ":") then
    headed (expect (.mark ":")) (boundsUntil g [.word "where", .group .brace] true)
  discard (conditions g)
  within .brace do
    innerAttributes g
    untilOver (traitItem g)

/-- Takes a trait with marks in front of its keyword. -/
def markedTrait : TokenParser Unit := do
  let _ ← visibility
  let _ ← accept (.word "unsafe")
  let _ ← accept (.word "auto")
  expect (.word "trait")
  expect .name
  discard (generics g)
  traitRest g

/-- Takes a trait, or another name for traits. -/
def plainTrait : TokenParser Unit := do
  let _ ← visibility
  expect (.word "trait")
  expect .name
  discard (generics g)
  if ← isOneOf [.group .brace, .mark ":", .word "where"] then traitRest g
  else if ← accept (.mark "=") then
    boundsUntil g [.word "where", .mark ";"] false
    discard (conditions g)
    expect (.mark ";")
  else failExpecting [.group .brace, .mark ":", .word "where", .mark "="]

/-- Takes an item of an implementation after its attributes. -/
def implItemRest : TokenParser Bool := do
  let (isVisible, ts) ← lookAhead do return (← visibility, (← remaining))
  let isDefault := Start.isAt (.word "default") ts && !Start.isAt (.mark "!") (afterFirst ts)
  let ts := if isDefault then afterFirst ts else ts
  if startsSignature false ts then
    let _ ← visibility
    let _ ← accept (.word "default")
    discard (signature g)
    functionRest g
  else if Start.isAt (.word "const") ts then
    let _ ← visibility
    if isDefault then expect (.word "default")
    constItem g
  else if Start.isAt (.word "type") ts then
    let (isBounded, isDefined) ← typeDefinition g true false true
    return isBounded || !isDefined
  else if !isVisible && !isDefault && macroStarts.any (fun s => s.isAt ts) then
    macroItem
    return false
  else
    failAt ts ((if isDefault then [] else [.word "default"])
      ++ [.word "fn", .word "const", .word "type"]
      ++ (if isVisible || isDefault then [] else macroStarts))

/-- Takes an item of an implementation. -/
def implItem : TokenParser Unit :=
  discard <| verbatimIf id do
    attributes g
    implItemRest g

/-- Takes an implementation. -/
def implementation : TokenParser Bool := do
  let isVisible ← visibility
  let _ ← accept (.word "default")
  let _ ← accept (.word "unsafe")
  expect (.word "impl")
  if startsGenerics (← remaining) then discard (generics g)
  let isConst := (← isNext (.word "const"))
    || ((← isNext (.mark "?")) && (← isSecond (.word "const")))
  if isConst then
    let _ ← accept (.mark "?")
    expect (.word "const")
  let isNegative ← if ← isSecond (.group .brace) then pure false else accept (.mark "!")
  let t ← g.type true
  let isFor ← accept (.word "for")
  if isFor then discard (g.type true)
  else if isNegative then fail .negativeImplementation
  discard (conditions g)
  within .brace do
    innerAttributes g
    untilOver (implItem g)
  let isTrait := match t with
    | .path p => !p.isQualified
    | _ => false
  return isVisible || isConst || (isFor && !isTrait)

/-- Takes a function of another language. -/
def foreignFunction : TokenParser Bool := do
  let _ ← visibility
  let (_, isSafe) ← anySignature g true
  if ← isNext (.group .brace) then
    block g
    return true
  else
    expect (.mark ";")
    return isSafe

/-- Takes a global variable of another language. -/
def foreignStatic : TokenParser Bool := do
  let _ ← visibility
  let isUnsafe ← accept (.word "unsafe")
  let isSafe ← if isUnsafe then pure false else accept (.word "safe")
  expect (.word "static")
  let _ ← accept (.word "mut")
  expect .name
  expect (.mark ":")
  discard (g.type true)
  let hasValue ← accept (.mark "=")
  if hasValue then discard (g.expression true)
  expect (.mark ";")
  return isUnsafe || isSafe || hasValue

/-- Takes an item of another language. -/
def foreignItem : TokenParser Unit :=
  discard <| verbatimIf id do
    attributes g
    let (isVisible, ts) ← lookAhead do return (← visibility, (← remaining))
    let isMarked := Start.isAt (.word "unsafe") ts || Start.isAt (.word "safe") ts
    if startsSignature true ts then foreignFunction g
    else if Start.isAt (.word "static") ts
        || (isMarked && Start.isAt (.word "static") (afterFirst ts)) then foreignStatic g
    else if Start.isAt (.word "type") ts then
      let (isBounded, isDefined) ← typeDefinition g false true true
      return isBounded || isDefined
    else if !isVisible && macroStarts.any (fun s => s.isAt ts) then
      macroItem
      return false
    else
      failAt ts ([.word "fn", .word "static", .word "type"]
        ++ (if isVisible then [] else macroStarts))

/-- Takes items of another language. -/
def foreignModule : TokenParser Unit := do
  let _ ← accept (.word "unsafe")
  convention
  within .brace do
    innerAttributes g
    untilOver (foreignItem g)

/-- Takes an item that starts with `extern`, which the tokens `ts` follow. -/
def externItem (ts : List Token) : TokenParser Unit := do
  if Start.isAt (.word "crate") ts then externCrate
  else if Start.isAt (.group .brace) ts then foreignModule g
  else if Start.isAt .text ts then
    if Start.isAt (.group .brace) (afterFirst ts) then foreignModule g
    else failAt (afterFirst ts) [.group .brace]
  else failAt ts [.word "crate", .group .brace, .text]

/-- Takes an item that starts with `unsafe`, which the tokens `ts` follow. -/
def unsafeItem (ts : List Token) : TokenParser Bool := do
  if Start.isAt (.word "trait") ts
      || (Start.isAt (.word "auto") ts && Start.isAt (.word "trait") (afterFirst ts)) then
    markedTrait g
    return false
  else if Start.isAt (.word "impl") ts then implementation g
  else if Start.isAt (.word "extern") ts then
    foreignModule g
    return false
  else if Start.isAt (.word "mod") ts then
    moduleItem g
    return false
  else failAt ts [.word "trait", .word "auto", .word "impl", .word "extern", .word "mod"]

/-- The ways in which an item may start after its visibility. -/
def itemStarts : List Start :=
  [.word "fn", .word "extern", .word "use", .word "static", .word "const", .word "unsafe",
   .word "mod", .word "type", .word "struct", .word "enum", .word "union", .word "trait",
   .word "auto", .word "impl", .word "default", .word "macro"]

/-- Takes an item after its attributes. -/
def itemRest : TokenParser Bool := do
  let (isVisible, ts) ← lookAhead do return (← visibility, (← remaining))
  let second := afterFirst ts
  let starts (s : String) : Bool := Start.isAt (.word s) ts
  if startsSignature false ts then
    let _ ← visibility
    discard (signature g)
    functionRest g
  else if starts "extern" then externItem g second; return false
  else if starts "use" then importItem g; return false
  else if starts "static" then staticItem g
  else if starts "const" then
    let _ ← visibility
    constItem g
  else if starts "unsafe" then unsafeItem g second
  else if starts "mod" then moduleItem g; return false
  else if starts "type" then
    let (isBounded, isDefined) ← typeDefinition g false true false
    return isBounded || !isDefined
  else if starts "struct" then structItem g; return false
  else if starts "enum" then enumItem g; return false
  else if starts "union" && Start.isAt .name second then unionItem g; return false
  else if starts "trait" then plainTrait g; return false
  else if starts "auto" && Start.isAt (.word "trait") second then markedTrait g; return false
  else if starts "impl" || (starts "default" && !Start.isAt (.mark "!") second) then
    implementation g
  else if starts "macro" then macroDefinition; return true
  else if !isVisible && macroStarts.any (fun s => s.isAt ts) then namedMacroItem; return false
  else failAt ts (itemStarts ++ if isVisible then [] else macroStarts)

/-- Takes an item. -/
def itemRule : TokenParser Unit :=
  discard <| verbatimIf id do
    attributes g
    itemRest g

end BannerGen.FontAttribute.Grammar
