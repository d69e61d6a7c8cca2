import BannerGen.Text.Quoted

/-!
# Fonts

A font turns a text into block letters. Fonts are looked up by name without regard to the case of
ASCII letters. Of several fonts with the same name, the first one that was registered counts.
-/

namespace BannerGen

/-- A rendering service: given the name of a font and a text, the rendered text, or `none` if
there is no such font. -/
abbrev Renderer := String → String → Option String

/-- A table of fonts. -/
structure FontTable where
  /-- The fonts by lower-cased name, in order of registration, without repeated names. -/
  fonts : List (String × (String → String)) := []

namespace FontTable

/-- The name by which a font is looked up: ASCII letters in lower case, all else unchanged. -/
def foldName (name : String) : String := String.ofList (name.toList.map Char.toLower)

/-- The names of the fonts, lower-cased, in order of registration. -/
def names (t : FontTable) : List String := t.fonts.map Prod.fst

/-- The number of fonts. -/
def size (t : FontTable) : Nat := t.fonts.length

/-- The font of a given name. -/
def get? (t : FontTable) (name : String) : Option (String → String) :=
  t.fonts.lookup (foldName name)

/-- Whether there is a font of a given name. -/
def contains (t : FontTable) (name : String) : Bool := (t.get? name).isSome

/-- Adds a font, unless there is one of that name. -/
def register (t : FontTable) (name : String) (font : String → String) : FontTable :=
  if t.contains name then t else { fonts := t.fonts ++ [(foldName name, font)] }

/-- The table of the given fonts, registered in order. -/
def ofList (fonts : List (String × (String → String))) : FontTable :=
  fonts.foldl (fun t f => t.register f.1 f.2) {}

/-- Renders a text in a font of the table. -/
def render (t : FontTable) : Renderer := fun name text => (t.get? name).map fun font => font text

/-- A table shown by the names of its fonts. -/
def describe (t : FontTable) : String :=
  "FontRegistry \x7b fonts: [" ++ ", ".intercalate (t.names.map Text.quoted) ++ "] \x7d"

end FontTable

end BannerGen
