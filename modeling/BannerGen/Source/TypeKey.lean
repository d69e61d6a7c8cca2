import BannerGen.Json.Record
import BannerGen.Text.Blank

/-!
# Type keys

The identity of a type that may be declared in several places: its simple name and the path of its
namespace. A host may hand over a namespace with blanks around it, and a blank one for the global
namespace; `TypeKey.normalized` is the key that counts.
-/

namespace BannerGen

/-- A namespace path without surrounding blanks; a blank path is the global namespace. -/
def normalizeScope (scope : Option String) : Option String :=
  scope.bind fun s =>
    let trimmed := Text.trim s
    if trimmed = "" then none else some trimmed

/-- The identity of a type. -/
structure TypeKey where
  /-- The simple name. -/
  name : String
  /-- The path of the namespace; `none` for the global one. -/
  scope : Option String := none
deriving DecidableEq, Repr, Inhabited

namespace TypeKey

/-- The key with a given name in a given namespace, which is normalized. -/
def of (name : String) (scope : Option String) : TypeKey :=
  { name, scope := normalizeScope scope }

/-- The same key with its namespace normalized. -/
def normalized (k : TypeKey) : TypeKey := of k.name k.scope

/-- The path of the namespace as it is written in source text. -/
def path (k : TypeKey) : Option String := normalizeScope k.scope

/-- Compares by name, then by namespace, the global namespace first. -/
protected def compare (a b : TypeKey) : Ordering :=
  (compareOfLessAndEq a.name b.name).then <|
    match a.scope, b.scope with
    | none, none => .eq
    | none, some _ => .lt
    | some _, none => .gt
    | some s, some t => compareOfLessAndEq s t

/-- Whether `a` comes before `b` or is `b`. -/
def le (a b : TypeKey) : Bool := (a.compare b).isLE

instance : ToString TypeKey where
  toString k := match k.path with
    | some p => p ++ "." ++ k.name
    | none => k.name

/-- The JSON form of a key. -/
def toJson (k : TypeKey) : Json.Value :=
  .record [("name", .text k.name), ("namespace", .ofText? k.scope)]

/-- Reads the path of a namespace, normalizing it. -/
def scopeOfJson? (v : Json.Value) : Option (Option String) :=
  v.asOptionalText?.map normalizeScope

/-- Reads a key; the namespace may be left out. -/
def ofJson? : Json.ReaderOf TypeKey
  | 0, _ => none
  | _ + 1, v => do
    let f ← v.fields? ["name", "namespace"]
    let name ← f.required "name" Json.Value.asText?
    let scope ← f.optional "namespace" none scopeOfJson?
    return { name, scope }

@[simp] theorem path_normalized_scope (k : TypeKey) : k.normalized.scope = k.path := rfl

@[simp] theorem name_normalized (k : TypeKey) : k.normalized.name = k.name := rfl

end TypeKey

end BannerGen
