import BannerGen.Json.Parser

/-!
# Reading records from JSON values

A record is an object whose members are its fields, in any order, or an array of its fields in the
order of their declaration. In an object, members that are not fields are passed over, a field may
not be given twice, and every key must denote a text. In an array, fields at the end may be left
out and nothing may follow the last one. What a missing field means depends on the field: it takes
its default, or the record is refused.

Every container that a record is read from counts towards a limit on nesting, and values that are
passed over do not. A reader is given the number of containers that may still be entered, its
*room*; `Json.room` is what a text starts with.
-/

namespace BannerGen.Json

/-- A reader of values of type `α`: the room and the value give the result, if there is one. -/
abbrev ReaderOf (α : Type) := Nat → Value → Option α

/-- The fields of a record by name. -/
abbrev Fields := String → Option Value

/-- How many containers may be nested in the text of a record. -/
def room : Nat := 127

namespace Fields

/-- The fields among the members of an object, unless one is given twice or a key has no text. -/
def ofMembers? (names : List String) (members : List (Option String × Value)) : Option Fields :=
  if members.all (·.1.isSome) ∧
      names.all fun n => decide ((members.filter (·.1 = some n)).length ≤ 1) then
    some fun n => members.lookup (some n)
  else none

/-- The fields among the items of an array, unless there are more items than fields. -/
def ofItems? (names : List String) (items : List Value) : Option Fields :=
  if items.length ≤ names.length then some fun n => (names.zip items).lookup n else none

/-- Reads a field that must be given. -/
def required {α : Type} (f : Fields) (name : String) (read : Value → Option α) : Option α :=
  (f name).bind read

/-- Reads a field that has a default. -/
def optional {α : Type} (f : Fields) (name : String) (default : α) (read : Value → Option α) :
    Option α :=
  match f name with
  | some v => read v
  | none => some default

end Fields

namespace Value

/-- The fields of a record with the given field names, in the order of their declaration. -/
def fields? (names : List String) : Value → Option Fields
  | .object members => Fields.ofMembers? names members
  | .array items => Fields.ofItems? names items
  | _ => none

/-- The text of a string. -/
def asText? : Value → Option String
  | .string s => s
  | _ => none

/-- The text of a string, or `none` for `null`. -/
def asOptionalText? : Value → Option (Option String)
  | .null => some none
  | .string (some s) => some (some s)
  | _ => none

/-- A truth value. -/
def asBool? : Value → Option Bool
  | .bool b => some b
  | _ => none

/-- A natural number below `2 ^ bits`. -/
def asNat? (bits : Nat) : Value → Option Nat
  | .natural n => if n < Nat.pow 2 bits then some n else none
  | _ => none

/-- The items of an array, each read with the room that is left. -/
def asList? {α : Type} (read : ReaderOf α) : ReaderOf (List α)
  | room + 1, .array items => items.mapM (read room)
  | _, _ => none

/-- A choice among named alternatives by its name. -/
def asName? {α : Type} (alternatives : List (String × α)) (v : Value) : Option α :=
  v.asText?.bind fun s => alternatives.lookup s

/-- A choice among named alternatives: its name, or an object with `null` under its name. -/
def asChoice? {α : Type} (alternatives : List (String × α)) : ReaderOf α
  | _ + 1, .object [(some s, .null)] => alternatives.lookup s
  | _, v => v.asName? alternatives

/-- Reads a value from a text. -/
def read? {α : Type} (read : ReaderOf α) (s : String) : Option α :=
  (parse? s).bind (read Json.room)

end Value

end BannerGen.Json
