/-!
# Site identities

Identities of declaration sites are numbers from one to `2 ^ 32 - 1`; zero marks a site that has
none yet. An allocator hands out identities that are not in use. It goes upwards from the greatest
one in use and starts again at one after the last, so identities given by a host are kept and new
ones lie above them as long as there is room.
-/

namespace BannerGen.SiteId

/-- The greatest identity. -/
def last : Nat := 0xFFFFFFFF

/-- The identity after `n`; after the last one comes the first. -/
def next (n : Nat) : Nat := if n < last then n + 1 else 1

/-- Hands out identities that are not in use. -/
structure Allocator where
  /-- The identities in use, without repetition. -/
  used : List Nat
  /-- Where the search for a free identity starts. -/
  candidate : Nat
deriving DecidableEq, Repr

namespace Allocator

/-- An allocator that avoids the given identities. It starts above the greatest of them. -/
def ofUsed (ids : List Nat) : Allocator :=
  let used := (ids.filter (· ≠ 0)).eraseDups
  { used, candidate := if used = [] then 1 else next (used.foldl max 0) }

/-- The first identity from `candidate` on that is not used. One of any `used.length + 1`
identities is free, so as many steps are enough. -/
def search (used : List Nat) : (steps : Nat) → (candidate : Nat) → Nat
  | 0, candidate => candidate
  | steps + 1, candidate =>
    if candidate ∈ used then search used steps (next candidate) else candidate

/-- Takes a free identity; `none` if all of them are in use. -/
def allocate (a : Allocator) : Option (Nat × Allocator) :=
  if last ≤ a.used.length then none
  else
    let id := search a.used a.used.length a.candidate
    some (id, { used := id :: a.used, candidate := next id })

end Allocator

end BannerGen.SiteId
