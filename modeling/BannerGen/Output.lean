import BannerGen.Diagnostic
import BannerGen.Fragment
import BannerGen.Json.Printer
import BannerGen.Text.LowerCase

/-!
# Outputs

What a run produces: fragments and diagnostics. Before fragments are written to files, their names
are checked: each must be a plain file name, and no two may name the same file where the case of
letters does not count.
-/

namespace BannerGen

open Json (Value ReaderOf)

/-- Why the fragments of an output cannot be written to files. -/
inductive HintNameError where
  /-- This name is not a plain file name. -/
  | invalid (name : String)
  /-- These names differ only in case. -/
  | collision (first second : String)
deriving DecidableEq, Repr

instance : ToString HintNameError where
  toString
    | .invalid name => s!"Fragment id '{name}' is not a valid file name"
    | .collision first second => s!"Fragment ids '{first}' and '{second}' differ only in case"

/-- Whether a name is that of a file in a directory: not empty, no path, and not one of the names
that stand for directories. -/
def isPlainFileName (name : String) : Bool :=
  !name.toList.any (fun c => c = '/' || c = '\\' || c = ':')
    && name ≠ "" && name ≠ "." && name ≠ ".."

/-- The first name in order that is not plain, or that has the same lower case as an earlier
one. -/
def checkNames (lower : String → String) : (earlier names : List String) →
    Except HintNameError Unit
  | _, [] => pure ()
  | earlier, name :: names =>
    if isPlainFileName name then
      match earlier.find? fun e => lower e = lower name with
      | some first => throw (.collision first name)
      | none => checkNames lower (earlier ++ [name]) names
    else throw (.invalid name)

/-- What a run produces. -/
structure Output where
  /-- The fragments in their order. -/
  fragments : List Fragment := []
  /-- The diagnostics in their order. -/
  diagnostics : List Diagnostic := []
deriving DecidableEq, Repr, Inhabited

namespace Output

/-- The first fragment of a type. -/
def fragment? (o : Output) (key : TypeKey) : Option Fragment := o.fragments.find? (·.key = key)

/-- The diagnostics with a given code. -/
def diagnosticsWithCode (o : Output) (code : String) : List Diagnostic :=
  o.diagnostics.filter (·.kind.code = code)

/-- Whether one of the diagnostics is an error. -/
def hasErrors (o : Output) : Bool := Diagnostic.anyError o.diagnostics

/-- The names of the fragments. -/
def hintNames (o : Output) : List String := o.fragments.map Fragment.hintName

/-- Checks the names of the fragments. -/
def checkHintNames (o : Output) : Except HintNameError Unit :=
  checkNames Text.lowerCase [] o.hintNames

/-- The JSON form of an output. -/
def toJson (o : Output) : Value :=
  .record [("fragments", .array (o.fragments.map Fragment.toJson)),
    ("diagnostics", .array (o.diagnostics.map Diagnostic.toJson))]

/-- The text of the JSON form. -/
def pretty (o : Output) : String := o.toJson.pretty

/-- Reads an output; no field may be left out. -/
def ofJson? : ReaderOf Output
  | 0, _ => none
  | room + 1, v => do
    let f ← v.fields? ["fragments", "diagnostics"]
    let fragments ← f.required "fragments" (Value.asList? Fragment.ofJson? room)
    let diagnostics ← f.required "diagnostics" (Value.asList? Diagnostic.ofJson? room)
    return { fragments, diagnostics }

end Output

end BannerGen
