import BannerGen.Assoc
import BannerGen.Identifier
import BannerGen.Request

/-!
# The ledger of member names

For every type that members are generated for, the ledger holds the requests accepted so far and
the names that are taken: those of the members that the type had from the start, and those that
were claimed since. Names are compared in their canonical form. Types are listed in the order in
which they were first met.
-/

namespace BannerGen

/-- The outcome of claiming a name. -/
inductive Registration where
  /-- The name was free and is taken now. -/
  | accepted
  /-- The name was taken already. -/
  | duplicate
deriving DecidableEq, Repr, Inhabited

/-- What the ledger holds for one type. -/
structure Entry where
  /-- The kind of the type, from the first declaration met. -/
  kind : TypeKind
  /-- The accepted requests, in order of acceptance. -/
  requests : List Request := []
  /-- The canonical forms of the names that are taken. -/
  taken : List String
deriving DecidableEq, Repr

namespace Entry

/-- An entry for a type that has members of the given names. -/
def seeded (kind : TypeKind) (names : List String) : Entry :=
  { kind, taken := names.map Identifier.canonical }

/-- Whether a name is taken. -/
def IsTaken (e : Entry) (name : String) : Prop := Identifier.canonical name ∈ e.taken

instance (e : Entry) (name : String) : Decidable (e.IsTaken name) :=
  inferInstanceAs (Decidable (_ ∈ _))

/-- Claims a name. -/
def register (e : Entry) (name : String) : Entry × Registration :=
  if e.IsTaken name then (e, .duplicate)
  else ({ e with taken := Identifier.canonical name :: e.taken }, .accepted)

/-- Claims the name of a request, and keeps the request if the name was free. -/
def accept (e : Entry) (r : Request) : Entry × Registration :=
  match e.register r.memberName with
  | (e, .accepted) => ({ e with requests := e.requests ++ [r] }, .accepted)
  | (e, .duplicate) => (e, .duplicate)

end Entry

/-- The entries of all types met so far. -/
structure Ledger where
  /-- The entries in the order in which their types were first met. -/
  entries : List (TypeKey × Entry) := []
deriving DecidableEq, Repr

namespace Ledger

/-- The types that have an entry, in the order in which they were first met. -/
def keys (l : Ledger) : List TypeKey := l.entries.map Prod.fst

/-- The number of types that have an entry. -/
def size (l : Ledger) : Nat := l.entries.length

/-- The entry of a type. -/
def get? (l : Ledger) (key : TypeKey) : Option Entry := l.entries.lookup key

/-- Sets the entry of a type. A type that had none comes last. -/
def insert (l : Ledger) (key : TypeKey) (e : Entry) : Ledger :=
  { entries := Assoc.put key e l.entries }

/-- The entry of a type, or a new one. The names of its members are asked for only if it has no
entry yet. -/
def entryOrSeed {m : Type → Type} [Monad m] (l : Ledger) (key : TypeKey) (kind : TypeKind)
    (existing : m (List String)) : m Entry :=
  match l.get? key with
  | some e => pure e
  | none => do return .seeded kind (← existing)

/-- A type has an entry exactly if it is listed. -/
theorem isSome_get?_iff {l : Ledger} {key : TypeKey} : (l.get? key).isSome ↔ key ∈ l.keys := by
  simp [get?, keys, List.lookup_isSome_iff]

@[simp]
theorem get?_insert_self (l : Ledger) (key : TypeKey) (e : Entry) :
    (l.insert key e).get? key = some e :=
  Assoc.lookup_put_self key e l.entries

/-- Setting the entry of a type leaves the others as they are. -/
theorem get?_insert_of_ne {key other : TypeKey} (h : other ≠ key) (l : Ledger) (e : Entry) :
    (l.insert key e).get? other = l.get? other :=
  Assoc.lookup_put_of_ne h e l.entries

/-- A type that has an entry keeps its place, and one that has none comes last. -/
theorem keys_insert (l : Ledger) (key : TypeKey) (e : Entry) :
    (l.insert key e).keys = if key ∈ l.keys then l.keys else l.keys ++ [key] :=
  Assoc.map_fst_put key e l.entries

end Ledger

end BannerGen
