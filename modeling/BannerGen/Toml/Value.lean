import BannerGen.Assoc

/-!
# TOML values

A table maps keys to values. The same table may be written in several places, and whether that is
allowed depends on how the table came about, its *origin*. A table may be named by a header once.
A table that only lay on the way to another one, in a header, may get its own header later. A
table that came about on the way of a dotted key may be extended by dotted keys only, and those may
extend no other table. Tables in braces are complete as they are.
-/

namespace BannerGen.Toml

/-- How a table came about. -/
inductive Origin where
  /-- It has a header, or it is the outermost table. -/
  | header
  /-- It lies on the way to a table with a header. -/
  | onTheWay
  /-- It lies on the way of a dotted key. -/
  | dotted
deriving DecidableEq, Repr, Inhabited

/-- A TOML value. -/
inductive Value where
  /-- A text. -/
  | text (s : String)
  /-- An integer. -/
  | integer (n : Int)
  /-- A number of double precision. -/
  | floating
  /-- A truth value. -/
  | bool (b : Bool)
  /-- A date, a time or both. -/
  | moment
  /-- An array. -/
  | array (items : List Value)
  /-- A table in braces. -/
  | inline (entries : List (String × Value))
  /-- A table that is not in braces. -/
  | table (origin : Origin) (entries : List (String × Value))
  /-- Tables that share a header, the last one apart. -/
  | tables (earlier : List (List (String × Value))) (last : List (String × Value))
deriving Inhabited

/-- The entries of a table. -/
abbrev Entries := List (String × Value)

namespace Entries

/-- Changes the table at the end of a path, with its origin at hand. Tables that are missing on the
way come about with the origin `made`, and of tables that share a header the last one is meant. -/
def change (made : Origin) (f : Origin → Entries → Option Entries) :
    (path : List String) → Origin → Entries → Option Entries
  | [], origin, entries => f origin entries
  | k :: path, _, entries =>
    match entries.lookup k with
    | none => do
      let inner ← change made f path made []
      return Assoc.put k (.table made inner) entries
    | some (.table origin inner) =>
      if made = .dotted ∧ origin = .header then none
      else do
        let inner ← change made f path origin inner
        return Assoc.put k (.table origin inner) entries
    | some (.tables earlier last) => do
      let last ← change made f path .header last
      return Assoc.put k (.tables earlier last) entries
    | some _ => none

/-- Defines a dotted key, which must be new. Its last part is `key`; the parts before it lead to a
table that is only extended by dotted keys. -/
def define (path : List String) (key : String) (v : Value) (origin : Origin)
    (entries : Entries) : Option Entries :=
  change .dotted (fun origin entries =>
    if (origin = .dotted ↔ path = []) ∨ (entries.lookup key).isSome then none
    else some (entries ++ [(key, v)])) path origin entries

/-- The table with the given dotted keys, defined in order. -/
def ofKeyValues (l : List (List String × String × Value)) : Option Entries :=
  l.foldlM (fun entries (path, key, v) => define path key v .header entries) []

/-- Opens the table with the given header. -/
def openTable (path : List String) (key : String) (root : Entries) : Option Entries :=
  change .onTheWay (fun _ entries =>
    match entries.lookup key with
    | none => some (entries ++ [(key, .table .header [])])
    | some (.table .onTheWay inner) => some (Assoc.put key (.table .header inner) entries)
    | some _ => none) path .header root

/-- Opens one more of the tables with the given header. -/
def openNext (path : List String) (key : String) (root : Entries) : Option Entries :=
  change .onTheWay (fun _ entries =>
    match entries.lookup key with
    | none => some (entries ++ [(key, .tables [] [])])
    | some (.tables earlier last) => some (Assoc.put key (.tables (earlier ++ [last]) []) entries)
    | some _ => none) path .header root

end Entries

end BannerGen.Toml
