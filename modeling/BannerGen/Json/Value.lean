/-!
# JSON values

The shape of a JSON text once its layout and its spelling are forgotten. Objects keep their
members in order and keep repeated keys, since what a repeated key means is for the reader of a
record to decide.

Two literal classes carry no payload. A number that is not a plain natural numeral is kept only as
`Value.number`, since no record of this library holds a signed, fractional or scaled number. A
string literal with an unpaired surrogate escape is well formed but denotes no text; it is kept as
`none`, so that such a literal can still be skipped over where its content does not matter.
-/

namespace BannerGen.Json

/-- A JSON value. -/
inductive Value where
  /-- The literal `null`. -/
  | null
  /-- The literals `true` and `false`. -/
  | bool (b : Bool)
  /-- A numeral without sign, fraction and exponent. -/
  | natural (n : Nat)
  /-- Any other number. -/
  | number
  /-- A string; `none` if its escapes leave a surrogate unpaired. -/
  | string (s : Option String)
  /-- An array. -/
  | array (items : List Value)
  /-- An object with its members in order, repeated keys included. -/
  | object (members : List (Option String × Value))
deriving Inhabited, Repr

namespace Value

/-- A string that denotes the text `s`. -/
abbrev text (s : String) : Value := .string (some s)

/-- An object with the given keys and values. -/
def record (fields : List (String × Value)) : Value :=
  .object (fields.map fun f => (some f.1, f.2))

/-- The text of an optional string, or `null`. -/
def ofText? : Option String → Value
  | some s => text s
  | none => .null

mutual

/-- The number of containers on the deepest path into the value. -/
def depth : Value → Nat
  | .array items => depthItems items + 1
  | .object members => depthMembers members + 1
  | _ => 0

/-- The greatest depth among the items of an array. -/
def depthItems : List Value → Nat
  | [] => 0
  | v :: vs => max (depth v) (depthItems vs)

/-- The greatest depth among the members of an object. -/
def depthMembers : List (Option String × Value) → Nat
  | [] => 0
  | (_, v) :: ms => max (depth v) (depthMembers ms)

end

end Value

end BannerGen.Json
