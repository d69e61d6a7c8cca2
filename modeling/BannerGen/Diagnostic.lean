import BannerGen.Source.Span
import BannerGen.Text.Replace

/-!
# Diagnostics

A problem with an annotation, reported with a location. Problems never stop a run. Every kind of
problem has a code that hosts may filter on and a message in which `{0}` stands for the name that
the problem is about.
-/

namespace BannerGen

open Json (Value ReaderOf)

/-- How serious a diagnostic is. -/
inductive Severity where
  /-- The annotation has no effect. -/
  | error
deriving DecidableEq, Repr, Inhabited

namespace Severity

/-- The word for a severity. -/
def label : Severity → String
  | .error => "error"

/-- The terminal control sequence for the color of a severity. -/
def color : Severity → String
  | .error => "\x1b[31m"

end Severity

/-- The kinds of problems. -/
inductive DiagnosticKind where
  /-- No font has the given name. -/
  | unknownFont
  /-- The given text is not the name of a member. -/
  | invalidMemberName
  /-- The type already has a member of the given name. -/
  | duplicateMemberName
  /-- The declaration of the type is not partial. -/
  | typeNotMergeable
  /-- The type is declared inside another one. -/
  | nestedTypeUnsupported
deriving DecidableEq, Repr, Inhabited

namespace DiagnosticKind

/-- All kinds in the order of their codes. -/
def all : List DiagnosticKind :=
  [.unknownFont, .invalidMemberName, .duplicateMemberName, .typeNotMergeable,
    .nestedTypeUnsupported]

/-- The code of a kind. -/
def code : DiagnosticKind → String
  | .unknownFont => "FGL0001"
  | .invalidMemberName => "FGL0002"
  | .duplicateMemberName => "FGL0003"
  | .typeNotMergeable => "FGL0004"
  | .nestedTypeUnsupported => "FGL0005"

/-- A short title. -/
def title : DiagnosticKind → String
  | .unknownFont => "Font not found"
  | .invalidMemberName => "Invalid member name"
  | .duplicateMemberName => "Duplicate member name"
  | .typeNotMergeable => "Type must be partial"
  | .nestedTypeUnsupported => "Nested types are not supported"

/-- The place of an argument in a message. -/
def placeholder (index : Nat) : String := "\x7b" ++ toString index ++ "\x7d"

/-- The message, with a placeholder for its argument. -/
def template : DiagnosticKind → String
  | .unknownFont => "A font with name '" ++ placeholder 0 ++ "' was not found"
  | .invalidMemberName => "The string '" ++ placeholder 0 ++ "' is not a valid member name"
  | .duplicateMemberName => "Member '" ++ placeholder 0 ++ "' has already been declared"
  | .typeNotMergeable => "Type '" ++ placeholder 0 ++ "' must be partial"
  | .nestedTypeUnsupported =>
    "Unable to generate Figgle text for nested type '" ++ placeholder 0
      ++ "'. Generation is only supported for non-nested types."

/-- The severity of a kind. -/
def severity : DiagnosticKind → Severity
  | _ => .error

/-- The category that all kinds belong to. -/
def category : String := "Figgle"

/-- The name of a kind in JSON. -/
def label : DiagnosticKind → String
  | .unknownFont => "unknown_font"
  | .invalidMemberName => "invalid_member_name"
  | .duplicateMemberName => "duplicate_member_name"
  | .typeNotMergeable => "type_not_mergeable"
  | .nestedTypeUnsupported => "nested_type_unsupported"

/-- All kinds by name. -/
def choices : List (String × DiagnosticKind) := all.map fun k => (k.label, k)

/-- Reads a kind. -/
def ofJson? : ReaderOf DiagnosticKind := Value.asChoice? choices

end DiagnosticKind

/-- A problem with an annotation. -/
structure Diagnostic where
  /-- What the problem is. -/
  kind : DiagnosticKind
  /-- Where the problem is. -/
  location : Span
  /-- What the placeholders of the message stand for. -/
  arguments : List String
deriving DecidableEq, Repr, Inhabited

namespace Diagnostic

/-- A problem that is about one name. -/
def about (kind : DiagnosticKind) (location : Span) (name : String) : Diagnostic :=
  { kind, location, arguments := [name] }

/-- The message. The placeholders are filled one after the other, so a placeholder in the text of
an argument is filled by a later argument. -/
def message (d : Diagnostic) : String :=
  d.arguments.zipIdx.foldl
    (fun text (argument, index) => Text.replace text (DiagnosticKind.placeholder index) argument)
    d.kind.template

/-- The diagnostic on one line: location, severity, code and message. -/
def format (d : Diagnostic) : String :=
  toString d.location ++ ": " ++ d.kind.severity.label ++ "[" ++ d.kind.code ++ "]: " ++ d.message

/-- The diagnostic on one line, with terminal control sequences for colors. -/
def formatColored (d : Diagnostic) : String :=
  let faint := "\x1b[2m"
  let reset := "\x1b[0m"
  faint ++ toString d.location ++ reset ++ ": " ++ d.kind.severity.color
    ++ d.kind.severity.label ++ reset ++ faint ++ "[" ++ d.kind.code ++ "]" ++ reset ++ ": "
    ++ d.message

/-- Whether one of the diagnostics is an error. -/
def anyError (ds : List Diagnostic) : Bool := ds.any (·.kind.severity = .error)

/-- The JSON form of a diagnostic. -/
def toJson (d : Diagnostic) : Value :=
  .record [("kind", .text d.kind.label), ("location", d.location.toJson),
    ("arguments", .array (d.arguments.map Value.text))]

/-- Reads a diagnostic; no field may be left out. -/
def ofJson? : ReaderOf Diagnostic
  | 0, _ => none
  | room + 1, v => do
    let f ← v.fields? ["kind", "location", "arguments"]
    let kind ← f.required "kind" (DiagnosticKind.ofJson? room)
    let location ← f.required "location" (Span.ofJson? room)
    let arguments ← f.required "arguments" (Value.asList? (fun _ v => v.asText?) room)
    return { kind, location, arguments }

end Diagnostic

end BannerGen
