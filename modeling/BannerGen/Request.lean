import BannerGen.Marker

/-!
# Requests

What a marker asks for: a member of a given name that holds a text rendered in a font.
-/

namespace BannerGen

open Json (Value ReaderOf)

/-- A request for a generated member. -/
structure Request where
  /-- The name of the member. -/
  memberName : String
  /-- Where the name of the member stands. -/
  memberNameLocation : Span
  /-- The name of the font. -/
  fontName : String
  /-- Where the name of the font stands. -/
  fontNameLocation : Span
  /-- The text to render. -/
  sourceText : String
  /-- Where the marker stands. -/
  location : Span
deriving DecidableEq, Repr, Inhabited

namespace Request

/-- The request of a marker at the given location. -/
def ofMarker (location : Span) (m : Marker) : Request :=
  { memberName := m.memberName.value
    memberNameLocation := m.memberName.span
    fontName := m.fontName.value
    fontNameLocation := m.fontName.span
    sourceText := m.sourceText.value
    location }

/-- The fields in the order of their declaration. -/
def fieldNames : List String :=
  ["member_name", "member_name_location", "font_name", "font_name_location", "source_text",
    "location"]

/-- The JSON form of a request. -/
def toJson (r : Request) : Value :=
  .record [("member_name", .text r.memberName),
    ("member_name_location", r.memberNameLocation.toJson), ("font_name", .text r.fontName),
    ("font_name_location", r.fontNameLocation.toJson), ("source_text", .text r.sourceText),
    ("location", r.location.toJson)]

/-- Reads a request; no field may be left out. -/
def ofJson? : ReaderOf Request
  | 0, _ => none
  | room + 1, v => do
    let f ← v.fields? fieldNames
    let memberName ← f.required "member_name" Value.asText?
    let memberNameLocation ← f.required "member_name_location" (Span.ofJson? room)
    let fontName ← f.required "font_name" Value.asText?
    let fontNameLocation ← f.required "font_name_location" (Span.ofJson? room)
    let sourceText ← f.required "source_text" Value.asText?
    let location ← f.required "location" (Span.ofJson? room)
    return { memberName, memberNameLocation, fontName, fontNameLocation, sourceText, location }

end Request

end BannerGen
