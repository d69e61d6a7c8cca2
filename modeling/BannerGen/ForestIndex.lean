import BannerGen.Assoc
import BannerGen.Resolver
import BannerGen.Source.Forest

/-!
# Resolution from a forest

The declarations of a forest resolved from the forest alone. Declarations that are not inside
another one and have the same name and namespace are declarations of one type. The members of that
type are the members and the nested types of all these declarations; what is declared inside a
nested type does not count.

An index of the forest is made in one pass, and the answers are looked up in it. What the pass
comes to is also said without it: `Forest.resolve?`, `Forest.existingMembers` and `Forest.typeKeys`
read the same off the declarations.
-/

namespace BannerGen

/-- A list of texts in increasing order and without repetition. -/
def sortedNames (l : List String) : List String :=
  (l.mergeSort fun a b => decide (¬ b < a)).eraseDups

namespace Declaration

mutual

/-- The resolution of the declarations of a tree inside `container`, depth first. -/
def resolutions (container : Option TypeKey) : Declaration → List (Nat × ResolvedType)
  | mk s nested =>
    (s.id, { key := s.key, container }) :: resolutionsAll (some s.key) nested

/-- The resolution of the declarations of several trees inside `container`. -/
def resolutionsAll (container : Option TypeKey) : List Declaration → List (Nat × ResolvedType)
  | [] => []
  | d :: ds => resolutions container d ++ resolutionsAll container ds

end

/-- The names of the members and of the nested types of a declaration. -/
def memberNames (d : Declaration) : List String :=
  d.site.members.map Member.name ++ d.nested.map fun n => n.site.name

end Declaration

/-- What is known of the declarations of a forest. -/
structure ForestIndex where
  /-- The type of every declaration, by the identity of the declaration. -/
  types : List (Nat × ResolvedType) := []
  /-- The names of the members of every type that is not nested, in increasing order. -/
  members : List (TypeKey × List String) := []
deriving DecidableEq, Repr

namespace ForestIndex

/-- The names that are known for a type. -/
def membersOf (index : ForestIndex) (key : TypeKey) : List String :=
  (index.members.lookup key).getD []

/-- Adds names to those of a type. -/
def addMembers (index : ForestIndex) (key : TypeKey) (names : List String) : ForestIndex :=
  { index with
    members := Assoc.put key (sortedNames (index.membersOf key ++ names)) index.members }

/-- Notes the type of the declaration with an identity. -/
def addType (index : ForestIndex) (id : Nat) (type : ResolvedType) : ForestIndex :=
  { index with types := Assoc.put id type index.types }

mutual

/-- Adds a declaration inside `container`, and then what is inside it. Only one that is not inside
another one has members to add. -/
def add (container : Option TypeKey) (index : ForestIndex) : Declaration → ForestIndex
  | .mk s nested =>
    let index := match container with
      | none => index.addMembers s.key (Declaration.memberNames (.mk s nested))
      | some _ => index
    addAll (some s.key) (index.addType s.id { key := s.key, container }) nested

/-- Adds declarations inside `container`, one after the other. -/
def addAll (container : Option TypeKey) (index : ForestIndex) : List Declaration → ForestIndex
  | [] => index
  | d :: ds => addAll container (add container index d) ds

end

end ForestIndex

namespace Forest

/-- The index of a forest. -/
def index (f : Forest) : ForestIndex := ForestIndex.addAll none {} f.declarations

/-- The answers that a forest gives about itself. -/
def resolver (f : Forest) : Resolver Id :=
  let index := f.index
  { resolve := fun d => match index.types.lookup d.id with
      | some type => .ok type
      | none => .error (.unknownSite d.id)
    existingMembers := index.membersOf }

/-- The number of types that are not nested. -/
def typeCount (f : Forest) : Nat := f.index.members.length

/-! ### The answers without an index -/

/-- The resolution of every declaration, depth first. -/
def resolutions (f : Forest) : List (Nat × ResolvedType) :=
  Declaration.resolutionsAll none f.declarations

/-- The resolution of the declaration with a given identity. Of several declarations with the same
identity the last one counts. -/
def resolve? (f : Forest) (id : Nat) : Option ResolvedType := f.resolutions.reverse.lookup id

/-- The names of the members of a type, in increasing order. -/
def existingMembers (f : Forest) (key : TypeKey) : List String :=
  sortedNames ((f.declarations.filter fun d => d.site.key = key).flatMap Declaration.memberNames)

/-- The types that are not nested, in the order of their first declaration. -/
def typeKeys (f : Forest) : List TypeKey := (f.declarations.map fun d => d.site.key).eraseDups

end Forest

end BannerGen
