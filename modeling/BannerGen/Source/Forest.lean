import BannerGen.Json.Printer
import BannerGen.Source.Declaration

/-!
# Forests

All source files of one compilation with the declarations in them.
-/

namespace BannerGen

open Json (Value ReaderOf)

/-- A source file with its declarations. -/
structure SourceUnit where
  /-- The path of the file. -/
  path : String
  /-- The declarations that are not inside another one, in source order. -/
  declarations : List Declaration := []
deriving DecidableEq, Repr, Inhabited

namespace SourceUnit

/-- The JSON form of a unit. -/
def toJson (u : SourceUnit) : Value :=
  .record [("path", .text u.path), ("declarations", .array (Declaration.toJsonAll u.declarations))]

/-- Reads a unit; the declarations may be left out. -/
def ofJson? : ReaderOf SourceUnit
  | 0, _ => none
  | room + 1, v => do
    let f ← v.fields? ["path", "declarations"]
    let path ← f.required "path" Value.asText?
    let declarations ← f.optional "declarations" [] (Value.asList? Declaration.ofJson? room)
    return { path, declarations }

end SourceUnit

/-- All source files of a compilation. -/
structure Forest where
  /-- The files in their order. -/
  units : List SourceUnit := []
deriving DecidableEq, Repr, Inhabited

namespace Forest

/-- The declarations that are not inside another one, unit after unit. -/
def declarations (f : Forest) : List Declaration := f.units.flatMap SourceUnit.declarations

/-- All sites, depth first in source order. -/
def walk (f : Forest) : List Site := Declaration.walkAll f.declarations

/-- All declarations with what is inside them, depth first in source order. -/
def subtrees (f : Forest) : List Declaration := Declaration.subtreesAll f.declarations

/-- The walk passes the sites of the declarations. -/
theorem map_site_subtrees (f : Forest) : f.subtrees.map Declaration.site = f.walk :=
  Declaration.map_site_subtreesAll f.declarations

theorem site_mem_walk {f : Forest} {d : Declaration} (h : d ∈ f.subtrees) : d.site ∈ f.walk := by
  rw [← map_site_subtrees]
  exact List.mem_map_of_mem h

/-- The number of sites. -/
def size (f : Forest) : Nat := f.walk.length

/-- Whether no unit declares anything. -/
def isEmpty (f : Forest) : Bool := f.declarations.isEmpty

/-- The JSON form of a forest. -/
def toJson (f : Forest) : Value := .record [("units", .array (f.units.map SourceUnit.toJson))]

/-- The text of the JSON form. -/
def pretty (f : Forest) : String := f.toJson.pretty

/-- Reads a forest. -/
def ofJson? : ReaderOf Forest
  | 0, _ => none
  | room + 1, v => do
    let f ← v.fields? ["units"]
    let units ← f.required "units" (Value.asList? SourceUnit.ofJson? room)
    return { units }

end Forest

end BannerGen
