import BannerGen.Toml.Moment
import BannerGen.Toml.Number
import BannerGen.Toml.Value

/-!
# TOML documents

A document is a list of statements, which are headers and keys with values, and denotes a table.
A key belongs to the table of the header before it.
-/

namespace BannerGen.Toml

open Text (Reader)
open Text.Reader

/-- Takes a value that is not a container. -/
def scalar : Reader Value :=
  Value.text <$> anyText
    <|> (do word "true"; return .bool true)
    <|> (do word "false"; return .bool false)
    <|> (do moment; return .moment)
    <|> (do floating; return .floating)
    <|> Value.integer <$> integer

/-- Takes an array with the given items. Line ends and comments may stand between them, and a comma
after the last one. -/
def array (item : Reader Value) : Reader Value := do
  word "["
  let items ← optional do
    let items ← separated (do blanks; let v ← item; blanks; return v) (word ",")
    let _ ← optional (word ",")
    return items
  blanks
  word "]"
  return .array (items.getD [])

/-- Takes a key and a value: the key without its last part, the last part, and the value. -/
def keyValue (value : Reader Value) : Reader (List String × String × Value) := do
  let k ← key
  word "="
  spaces
  let v ← value
  let name ← ofOption k.getLast?
  return (k.dropLast, name, v)

/-- Takes a table in braces. It stands on one line and has no comma after its last entry. -/
def inlineTable (value : Reader Value) : Reader Value := do
  word "\x7b"
  let entries ← optional (separated (do let e ← keyValue value; spaces; return e) (word ","))
  spaces
  word "\x7d"
  Value.inline <$> ofOption (Entries.ofKeyValues (entries.getD []))

/-- Takes a value with at most `room` containers nested in each other. -/
def value : (room : Nat) → Reader Value
  | 0 => scalar
  | room + 1 => array (value room) <|> inlineTable (value room) <|> scalar

/-- How many containers may be nested in a value. -/
def room : Nat := 79

/-- A statement of a document. -/
inductive Statement where
  /-- Gives a value to a key. -/
  | keyValue (path : List String) (key : String) (v : Value)
  /-- The header of a table. -/
  | table (path : List String) (key : String)
  /-- The header of one of several tables. -/
  | tables (path : List String) (key : String)
deriving Inhabited

namespace Statement

/-- Takes a header. -/
def header : Reader Statement :=
  (do
    word "[["
    let k ← key
    word "]]"
    return .tables k.dropLast (← ofOption k.getLast?)) <|> do
    word "["
    let k ← key
    word "]"
    return .table k.dropLast (← ofOption k.getLast?)

/-- Takes a line with at most one statement. -/
def line : Reader (Option Statement) := do
  spaces
  let s ← optional (header <|> do
    let (path, k, v) ← Toml.keyValue (value room)
    return .keyValue path k v)
  lineEnd
  return s

/-- The statements of a text. A byte order mark in front of it is passed over. -/
def read? (s : String) : Option (List Statement) :=
  readAll? (do
    let _ ← optional (word "\uFEFF")
    let lines ← repeated line
    return lines.filterMap id) s.toList

end Statement

/-- A table that is being built: the path of the last header, and the outermost table. -/
structure Document where
  /-- The path of the table that keys belong to. -/
  current : List String := []
  /-- The outermost table. -/
  root : Entries := []
deriving Inhabited

namespace Document

/-- Carries out a statement. -/
def add (d : Document) : Statement → Option Document
  | .keyValue path k v => do
    let root ← Entries.change .onTheWay (Entries.define path k v) d.current .header d.root
    return { d with root }
  | .table path k => do
    let root ← Entries.openTable path k d.root
    return { current := path ++ [k], root }
  | .tables path k => do
    let root ← Entries.openNext path k d.root
    return { current := path ++ [k], root }

end Document

/-- The table that a text denotes. -/
def parse? (s : String) : Option Entries := do
  let d ← (← Statement.read? s).foldlM Document.add {}
  return d.root

end BannerGen.Toml
