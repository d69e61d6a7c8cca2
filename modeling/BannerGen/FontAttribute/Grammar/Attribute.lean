import BannerGen.FontAttribute.Grammar.Basic

/-!
# Attributes and blocks

An attribute is a path without arguments, perhaps with tokens between delimiters, which may be any,
or with a value. An *inner* attribute has a `!` and stands at the beginning of what it belongs to.
-/

namespace BannerGen.FontAttribute.Grammar

open TokenParser

/-- The ways in which a part of a path without arguments may start. -/
def plainSegments : List Start := [.name, .word "super", .word "self", .word "Self", .word "crate"]

/-- Takes a path without arguments. -/
def plainPath : TokenParser Unit := do
  let _ ← accept (.mark "::")
  if ← isOneOf plainSegments then
    whileTrue do
      if ← isOneOf plainSegments then
        expect .anyName
        accept (.mark "::")
      else failHere (.expected ["path segment after `::`"])
  else refuse .name

/-- Takes delimiters and any tokens between them. -/
def delimited : TokenParser Delimiter := do
  match ← remaining with
  | .group d _ :: _ =>
    take 1
    return d
  | _ => failHere (.expected ["delimiter"])

/-- Whether a mark comes next that follows the name of a macro. -/
def isMacroMark : TokenParser Bool := return (← isNext (.mark "!")) && !(← isNext (.mark "!="))

variable (g : Grammar)

/-- Takes the value of an attribute. -/
def attributeValue : TokenParser Unit := do
  let ts ← remaining
  if (Start.literal.length? ts).any fun n => (ts.drop n).isEmpty then expect .literal
  else if (← isNext (.mark "#")) && (← isSecond (.group .bracket)) then failHere .nestedAttribute
  else discard (g.expression true)

/-- Takes what stands between the brackets of an attribute. -/
def attributeContent : TokenParser Unit := do
  if !(← accept (.word "unsafe")) then plainPath
  if ← isOneOf [.group .paren, .group .bracket, .group .brace] then take 1
  else if ← accept (.mark "=") then attributeValue g

/-- Takes attributes. -/
def attributes : TokenParser Unit :=
  whileTrue do
    if ← accept (.mark "#") then
      within .bracket (attributeContent g)
      return true
    else return false

/-- Takes inner attributes. -/
def innerAttributes : TokenParser Unit :=
  whileTrue do
    if (← isNext (.mark "#")) && (← isSecond (.mark "!")) then
      expect (.mark "#")
      expect (.mark "!")
      within .bracket (attributeContent g)
      return true
    else return false

/-- Takes a block that has no attributes. -/
def plainBlock : TokenParser Unit := within .brace g.statements

/-- Takes a block, perhaps with inner attributes. -/
def block : TokenParser Unit :=
  within .brace do
    innerAttributes g
    g.statements

end BannerGen.FontAttribute.Grammar
