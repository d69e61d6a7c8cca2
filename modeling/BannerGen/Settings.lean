import BannerGen.Json.Record

/-!
# Settings

How fragments are written and in which order diagnostics are given. Every setting has a default.
-/

namespace BannerGen

open Json (Value ReaderOf)

/-- The accessibility of generated members. -/
inductive Accessibility where
  /-- Accessible everywhere. -/
  | publicAccess
  /-- Accessible in the assembly. -/
  | internalAccess
  /-- Accessible in the type. -/
  | privateAccess
  /-- Accessible in the type and in types derived from it. -/
  | protectedAccess
  /-- Accessible in the assembly and in derived types. -/
  | protectedInternal
deriving DecidableEq, Repr, Inhabited

namespace Accessibility

/-- The keywords of an accessibility. -/
def keyword : Accessibility → String
  | .publicAccess => "public"
  | .internalAccess => "internal"
  | .privateAccess => "private"
  | .protectedAccess => "protected"
  | .protectedInternal => "protected internal"

/-- The name of an accessibility in a settings file. -/
def label : Accessibility → String
  | .protectedInternal => "protected_internal"
  | a => a.keyword

/-- All accessibilities by name. -/
def choices : List (String × Accessibility) :=
  [Accessibility.publicAccess, .internalAccess, .privateAccess, .protectedAccess,
    .protectedInternal].map fun a => (a.label, a)

end Accessibility

/-- The shape of a generated member. -/
inductive MemberStyle where
  /-- A static property with a getter. -/
  | property
  /-- A static read-only field. -/
  | readonlyField
  /-- A constant. -/
  | const
deriving DecidableEq, Repr, Inhabited

namespace MemberStyle

/-- The name of a style in a settings file. -/
def label : MemberStyle → String
  | .property => "property"
  | .readonlyField => "readonly_field"
  | .const => "const"

/-- All styles by name. -/
def choices : List (String × MemberStyle) :=
  [MemberStyle.property, .readonlyField, .const].map fun s => (s.label, s)

end MemberStyle

/-- How the lines of a fragment end. The rendered texts in it are not affected. -/
inductive LineEnding where
  /-- A line feed. -/
  | lf
  /-- A carriage return and a line feed. -/
  | crlf
deriving DecidableEq, Repr, Inhabited

namespace LineEnding

/-- The characters of a line ending. -/
def chars : LineEnding → String
  | .lf => "\n"
  | .crlf => "\r\n"

/-- The name of a line ending in a settings file. -/
def label : LineEnding → String
  | .lf => "lf"
  | .crlf => "crlf"

/-- All line endings by name. -/
def choices : List (String × LineEnding) := [LineEnding.lf, .crlf].map fun e => (e.label, e)

end LineEnding

/-- In which order diagnostics are given. -/
inductive DiagnosticOrder where
  /-- In the order in which they were found. -/
  | discovery
  /-- In the order of their locations. -/
  | location
deriving DecidableEq, Repr, Inhabited

namespace DiagnosticOrder

/-- The name of an order in a settings file. -/
def label : DiagnosticOrder → String
  | .discovery => "discovery"
  | .location => "location"

/-- All orders by name. -/
def choices : List (String × DiagnosticOrder) :=
  [DiagnosticOrder.discovery, .location].map fun o => (o.label, o)

end DiagnosticOrder

/-- How fragments are written. -/
structure EmitSettings where
  /-- The accessibility of the members. -/
  accessibility : Accessibility := .publicAccess
  /-- The shape of the members. -/
  memberStyle : MemberStyle := .property
  /-- The number of spaces per level of indentation. -/
  indentWidth : Nat := 4
  /-- Whether a fragment starts with a comment that tells its origin. -/
  header : Bool := true
  /-- The last part of the name of a fragment. -/
  hintSuffix : String := "FiggleText.g.cs"
  /-- How lines end. -/
  lineEnding : LineEnding := .lf
deriving DecidableEq, Repr, Inhabited

namespace EmitSettings

/-- The fields in the order of their declaration. -/
def fieldNames : List String :=
  ["accessibility", "member_style", "indent_width", "header", "hint_suffix", "line_ending"]

/-- The JSON form. -/
def toJson (s : EmitSettings) : Value :=
  .record [("accessibility", .text s.accessibility.label),
    ("member_style", .text s.memberStyle.label), ("indent_width", .natural s.indentWidth),
    ("header", .bool s.header), ("hint_suffix", .text s.hintSuffix),
    ("line_ending", .text s.lineEnding.label)]

/-- Reads the settings; every field may be left out. -/
def ofJson? : ReaderOf EmitSettings
  | 0, _ => none
  | room + 1, v => do
    let f ← v.fields? fieldNames
    let usual : EmitSettings := {}
    let accessibility ← f.optional "accessibility" usual.accessibility
      (Value.asChoice? Accessibility.choices room)
    let memberStyle ← f.optional "member_style" usual.memberStyle
      (Value.asChoice? MemberStyle.choices room)
    let indentWidth ← f.optional "indent_width" usual.indentWidth (Value.asNat? 64)
    let header ← f.optional "header" usual.header Value.asBool?
    let hintSuffix ← f.optional "hint_suffix" usual.hintSuffix Value.asText?
    let lineEnding ← f.optional "line_ending" usual.lineEnding
      (Value.asChoice? LineEnding.choices room)
    return { accessibility, memberStyle, indentWidth, header, hintSuffix, lineEnding }

end EmitSettings

/-- How diagnostics are given. -/
structure DiagnosticSettings where
  /-- Their order. -/
  order : DiagnosticOrder := .discovery
deriving DecidableEq, Repr, Inhabited

namespace DiagnosticSettings

/-- The JSON form. -/
def toJson (s : DiagnosticSettings) : Value := .record [("order", .text s.order.label)]

/-- Reads the settings; the order may be left out. -/
def ofJson? : ReaderOf DiagnosticSettings
  | 0, _ => none
  | room + 1, v => do
    let f ← v.fields? ["order"]
    let order ← f.optional "order" .discovery (Value.asChoice? DiagnosticOrder.choices room)
    return { order }

end DiagnosticSettings

/-- The settings of a run. -/
structure Settings where
  /-- How fragments are written. -/
  emit : EmitSettings := {}
  /-- How diagnostics are given. -/
  diagnostics : DiagnosticSettings := {}
deriving DecidableEq, Repr, Inhabited

namespace Settings

/-- The JSON form. -/
def toJson (s : Settings) : Value :=
  .record [("emit", s.emit.toJson), ("diagnostics", s.diagnostics.toJson)]

/-- Reads the settings; both parts may be left out. -/
def ofJson? : ReaderOf Settings
  | 0, _ => none
  | room + 1, v => do
    let f ← v.fields? ["emit", "diagnostics"]
    let emit ← f.optional "emit" {} (EmitSettings.ofJson? room)
    let diagnostics ← f.optional "diagnostics" {} (DiagnosticSettings.ofJson? room)
    return { emit, diagnostics }

end Settings

end BannerGen
