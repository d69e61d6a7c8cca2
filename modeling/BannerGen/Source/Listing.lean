import BannerGen.Source.Layout

/-!
# The imagined source text

The text that the layout of a unit describes: every attribute, header, brace and member on a line
of its own, each line ended by a line feed. Text arguments stand in plain quotes, as they are.
-/

namespace BannerGen

/-- The source text of an argument value. -/
def ArgumentValue.listing : ArgumentValue → String
  | .text content => "\"" ++ content ++ "\""
  | .expression source => source

/-- The source text of an argument. -/
def Argument.listing (a : Argument) : String :=
  match a.name with
  | some name => name ++ ": " ++ a.value.listing
  | none => a.value.listing

/-- The source text of an attribute. -/
def Attribute.listing (a : Attribute) : String :=
  "[" ++ a.name ++ "(" ++ ", ".intercalate (a.arguments.map Argument.listing) ++ ")]"

/-- The source text of the header of a declaration. -/
def Site.header (s : Site) : String :=
  (if s.isPartial then "partial " else "") ++ s.kind.keyword ++ " " ++ s.name

namespace Listing

/-- A line with the indentation of the given depth. -/
def indented (depth : Nat) (s : String) : String :=
  String.ofList (List.replicate (depth * indentWidth) ' ') ++ s

/-- The lines of a site up to its last member. -/
def site (depth : Nat) (s : Site) : List String :=
  s.attributes.map (fun a => indented depth a.listing)
    ++ [indented depth s.header, indented depth "\x7b"]
    ++ s.members.map fun m => indented (depth + 1) m.name

mutual

/-- The lines of a declaration. -/
def declaration (depth : Nat) : Declaration → List String
  | .mk s nested =>
    site depth s ++ declarations (depth + 1) nested ++ [indented depth "\x7d"]

/-- The lines of several declarations, one after the other. -/
def declarations (depth : Nat) : List Declaration → List String
  | [] => []
  | d :: ds => declaration depth d ++ declarations depth ds

end

end Listing

/-- The lines of a unit. -/
def SourceUnit.lines (u : SourceUnit) : List String := Listing.declarations 0 u.declarations

/-- The text of a unit. -/
def SourceUnit.listing (u : SourceUnit) : String := String.join (u.lines.map (· ++ "\n"))

end BannerGen
