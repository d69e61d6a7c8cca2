import BannerGen.Source.Declaration

/-!
# Resolution

A host compiler knows to which type a declaration belongs and which members that type has, from
all of its declarations. Generation asks for both through a `Resolver`, whose answers are given in
a monad, so that the asking itself can be observed.
-/

namespace BannerGen

/-- The type that a declaration belongs to. -/
structure ResolvedType where
  /-- The identity of the type. -/
  key : TypeKey
  /-- The type that it is declared in, if it is nested. -/
  container : Option TypeKey := none
deriving DecidableEq, Repr, Inhabited

namespace ResolvedType

/-- Whether the type is declared inside another one. -/
def isNested (t : ResolvedType) : Bool := t.container.isSome

end ResolvedType

/-- Why a declaration cannot be resolved. -/
inductive ResolutionFailure where
  /-- No declaration has this identity. -/
  | unknownSite (id : Nat)
  /-- The host gives a reason of its own. -/
  | host (reason : String)
deriving DecidableEq, Repr

instance : ToString ResolutionFailure where
  toString
    | .unknownSite id => s!"declaration #{id} is not part of the compilation"
    | .host reason => reason

/-- A declaration with a marker that could not be resolved. -/
structure Unresolved where
  /-- The identity of the declaration. -/
  id : Nat
  /-- The name of the declaration. -/
  name : String
  /-- Why it could not be resolved. -/
  failure : ResolutionFailure
deriving DecidableEq, Repr

instance : ToString Unresolved where
  toString u :=
    s!"Failed to resolve merged type for declaration '{u.name}' (#{u.id}): {u.failure}"

/-- The answers of a host. -/
structure Resolver (m : Type → Type) where
  /-- The type that a declaration belongs to. The host sees everything about the declaration. -/
  resolve : Declaration → m (Except ResolutionFailure ResolvedType)
  /-- The names of the members that a type has, over all of its declarations. -/
  existingMembers : TypeKey → m (List String)

end BannerGen
