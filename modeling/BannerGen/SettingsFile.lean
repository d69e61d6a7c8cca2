import BannerGen.Settings
import BannerGen.Toml.Document
import BannerGen.Toml.Record

/-!
# Settings files

Settings are kept in a TOML file next to the sources. Every setting may be left out.
-/

namespace BannerGen

open Toml (Value)

/-- Reads the settings of fragments from a TOML value. -/
def EmitSettings.ofToml? (v : Value) : Option EmitSettings := do
  let f ← v.fields? fieldNames
  let usual : EmitSettings := {}
  let accessibility ← f.optional "accessibility" usual.accessibility
    (Value.asChoice? Accessibility.choices)
  let memberStyle ← f.optional "member_style" usual.memberStyle
    (Value.asChoice? MemberStyle.choices)
  let indentWidth ← f.optional "indent_width" usual.indentWidth Value.asNat?
  let header ← f.optional "header" usual.header Value.asBool?
  let hintSuffix ← f.optional "hint_suffix" usual.hintSuffix Value.asText?
  let lineEnding ← f.optional "line_ending" usual.lineEnding (Value.asChoice? LineEnding.choices)
  return { accessibility, memberStyle, indentWidth, header, hintSuffix, lineEnding }

/-- Reads the settings of diagnostics from a TOML value. -/
def DiagnosticSettings.ofToml? (v : Value) : Option DiagnosticSettings := do
  let f ← v.fields? ["order"]
  let order ← f.optional "order" .discovery (Value.asChoice? DiagnosticOrder.choices)
  return { order }

namespace Settings

/-- The name of a settings file. -/
def fileName : String := "figgle.toml"

/-- Reads the settings from a TOML value. -/
def ofToml? (v : Value) : Option Settings := do
  let f ← v.fields? ["emit", "diagnostics"]
  let emit ← f.optional "emit" {} EmitSettings.ofToml?
  let diagnostics ← f.optional "diagnostics" {} DiagnosticSettings.ofToml?
  return { emit, diagnostics }

/-- Reads the settings from the text of a settings file. -/
def ofText? (s : String) : Option Settings := do
  ofToml? (.table .header (← Toml.parse? s))

end Settings

end BannerGen
