import BannerGen.Toml.Value

/-!
# Reading records from TOML values

A record is a table whose entries are its fields, in any order, or an array of its fields in the
order of their declaration. Whatever else is in the table or comes after the last field in the
array is passed over. A date or time is a record without any of the fields.
-/

namespace BannerGen.Toml

/-- The fields of a record by name. -/
abbrev Fields := String → Option Value

/-- Reads a field that has a default. -/
def Fields.optional {α : Type} (f : Fields) (name : String) (default : α)
    (read : Value → Option α) : Option α :=
  match f name with
  | some v => read v
  | none => some default

namespace Value

/-- The entries of a table of any kind. -/
def entries? : Value → Option Entries
  | .inline entries | .table _ entries => some entries
  | _ => none

/-- The items of an array of any kind. Of tables that share a header, each is an item. -/
def items? : Value → Option (List Value)
  | .array items => some items
  | .tables earlier last => some ((earlier ++ [last]).map (.table .header))
  | _ => none

/-- The fields of a record with the given field names, in the order of their declaration. -/
def fields? (names : List String) (v : Value) : Option Fields :=
  match v.entries?, v.items?, v with
  | some entries, _, _ => some fun n => entries.lookup n
  | none, some items, _ => some fun n => (names.zip items).lookup n
  | none, none, .moment => some fun _ => none
  | none, none, _ => none

/-- A text. -/
def asText? : Value → Option String
  | .text s => some s
  | _ => none

/-- A truth value. -/
def asBool? : Value → Option Bool
  | .bool b => some b
  | _ => none

/-- An integer that is not negative. -/
def asNat? : Value → Option Nat
  | .integer (.ofNat n) => some n
  | _ => none

/-- Whether a table or an array holds nothing. -/
def isEmpty (v : Value) : Bool := v.entries? matches some [] || v.items? matches some []

/-- A choice among named alternatives: its name, or a table with an empty table or array under its
name. -/
def asChoice? {α : Type} (alternatives : List (String × α)) (v : Value) : Option α :=
  match v.asText?, v.entries? with
  | some s, _ => alternatives.lookup s
  | none, some [(s, w)] => if w.isEmpty then alternatives.lookup s else none
  | none, _ => none

end Value

end BannerGen.Toml
