import BannerGen.Json.Token

/-!
# Reading JSON

`Value.parse?` reads a text that holds exactly one value. Like the scanner, the reader is a left
fold: it keeps the containers that are still open on a stack, so the depth of a text is not
limited by it. Limits on nesting are a matter of the records that are read from a value.
-/

namespace BannerGen.Json

/-- A container that is still open, with what it holds so far in reverse order. -/
inductive Frame where
  /-- An array. -/
  | array (items : List Value)
  /-- An object that waits for the value of `key`. -/
  | object (members : List (Option String × Value)) (key : Option String)
deriving Inhabited, Repr

/-- What the reader expects next. The last frame opened comes first. -/
inductive Reader where
  /-- A value. -/
  | value (stack : List Frame)
  /-- The first item of an array, or its end. -/
  | firstItem (stack : List Frame)
  /-- The first key of an object, or its end. -/
  | firstKey (stack : List Frame)
  /-- A further key of an object. -/
  | nextKey (members : List (Option String × Value)) (stack : List Frame)
  /-- The colon after a key. -/
  | colon (members : List (Option String × Value)) (key : Option String) (stack : List Frame)
  /-- Nothing, a comma or the end of a container: the value `v` is complete. -/
  | complete (v : Value) (stack : List Frame)
deriving Inhabited, Repr

namespace Reader

/-- Starts a value at the given token. -/
def beginValue (stack : List Frame) : Token → Option Reader
  | .scalar v => some (.complete v stack)
  | .openArray => some (.firstItem stack)
  | .openObject => some (.firstKey stack)
  | _ => none

/-- Reads a key at the given token. -/
def beginKey (members : List (Option String × Value)) (stack : List Frame) :
    Token → Option Reader
  | .scalar (.string key) => some (.colon members key stack)
  | _ => none

/-- Reads one token; `none` if it cannot stand here. -/
def step : Reader → Token → Option Reader
  | .value stack, t => beginValue stack t
  | .firstItem stack, .closeArray => some (.complete (.array []) stack)
  | .firstItem stack, t => beginValue (.array [] :: stack) t
  | .firstKey stack, .closeObject => some (.complete (.object []) stack)
  | .firstKey stack, t => beginKey [] stack t
  | .nextKey members stack, t => beginKey members stack t
  | .colon members key stack, .colon => some (.value (.object members key :: stack))
  | .colon .., _ => none
  | .complete v (.array items :: stack), .comma => some (.value (.array (v :: items) :: stack))
  | .complete v (.array items :: stack), .closeArray =>
    some (.complete (.array (v :: items).reverse) stack)
  | .complete v (.object members key :: stack), .comma =>
    some (.nextKey ((key, v) :: members) stack)
  | .complete v (.object members key :: stack), .closeObject =>
    some (.complete (.object ((key, v) :: members).reverse) stack)
  | .complete .., _ => none

/-- Reads a run of tokens. -/
def run (r : Reader) (ts : List Token) : Option Reader := ts.foldlM step r

/-- Reading a concatenation is reading its parts in turn. -/
theorem run_append (r : Reader) (ts us : List Token) :
    r.run (ts ++ us) = (r.run ts).bind fun q => q.run us := by
  simp only [run, List.foldlM_append]
  rfl

/-- The value read, provided that no container is open. -/
def finish : Reader → Option Value
  | .complete v [] => some v
  | _ => none

end Reader

/-- The value that a list of tokens spells. -/
def Value.ofTokens? (ts : List Token) : Option Value :=
  ((Reader.value []).run ts).bind Reader.finish

/-- The value that a text spells, or `none` if it is not one JSON value. -/
def Value.parse? (s : String) : Option Value :=
  (Token.scan s.toList).bind Value.ofTokens?

end BannerGen.Json
