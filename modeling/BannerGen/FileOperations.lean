import BannerGen.FileTree
import BannerGen.Generator
import BannerGen.SettingsFile

/-!
# Reading and writing files

Settings and forests are read from files, and the fragments of an output are written to files in
one directory. The names of all fragments are checked before anything is written.
-/

namespace BannerGen

/-- Why an operation on files failed. -/
inductive FileError where
  /-- A file could not be read or written. -/
  | io
  /-- There is nothing at the end of this route. -/
  | notFound (route : String)
  /-- The file does not hold settings. -/
  | settings
  /-- The file does not hold a forest. -/
  | forest (e : Forest.ReadError)
  /-- A fragment cannot be written under its name. -/
  | hintName (e : HintNameError)
  /-- A site could not be resolved. -/
  | unresolved (u : Unresolved)
deriving DecidableEq, Repr

namespace FileError

/-- The text of a failure. That of a file that cannot be read or written, or does not hold what it
should, is left to whoever reads the file. -/
def message? : FileError → Option String
  | .notFound route => some s!"File not found: {route}"
  | .forest e => e.message?
  | .hintName e => some (toString e)
  | .unresolved u => some (toString u)
  | .io | .settings => none

end FileError

/-- An operation on files, which may fail half-way; what it did before stays done. -/
abbrev FileOperation := ExceptT FileError (StateM FileTree)

namespace FileOperation

/-- Carries out an action of the file tree. -/
def ofAction {α : Type} (a : FileTree.Action α) : FileOperation α := fun t =>
  match a.run t with
  | (some r, t) => (.ok r, t)
  | (none, t) => (.error .io, t)

/-- The text of the file at the end of a route. -/
def readText (r : Route) : FileOperation String := do
  match (← get).find? r with
  | none => throw (.notFound r.text)
  | some n =>
    match n.text? with
    | some s => return s
    | none => throw .io

end FileOperation

namespace Settings

/-- Reads the settings from a file. -/
def ofFile (r : Route) : FileOperation Settings := do
  match ofText? (← FileOperation.readText r) with
  | some s => return s
  | none => throw .settings

/-- Reads the settings from the settings file in a directory; without one they are the default. -/
def load (directory : Route) : FileOperation Settings := do
  let r := directory.child fileName
  if ((← get).find? r).isSome then ofFile r else return {}

end Settings

/-- Reads a forest from a file. -/
def Forest.ofFile (r : Route) : FileOperation Forest := do
  match Forest.ofText (← FileOperation.readText r) with
  | .ok f => return f
  | .error e => throw (.forest e)

namespace Output

/-- Writes fragments to files in a directory, in order, and gives the routes to the files. -/
def writeFragments (directory : Route) : List Fragment → FileTree.Action (List Route)
  | [] => return []
  | f :: fs => do
    FileTree.writeFile (directory.child f.hintName) f.source.toUTF8
    let routes ← writeFragments directory fs
    return directory.child f.hintName :: routes

/-- Writes the fragments of an output to files in a directory, and gives the routes to the files.
Nothing is written unless all names can be used. -/
def writeTo (o : Output) (directory : Route) : FileOperation (List Route) := do
  match o.checkHintNames with
  | .error e => throw (.hintName e)
  | .ok _ => .ofAction do
    FileTree.createDirectories directory
    writeFragments directory o.fragments

end Output

/-- Reads a forest from a file, generates the members that it asks for, and writes the fragments to
files in a directory. -/
def Forest.generateTo (settings : Settings) (render : Renderer) (source directory : Route) :
    FileOperation Output := do
  let f ← Forest.ofFile source
  match f.generate settings render with
  | .error u => throw (.unresolved u)
  | .ok o => do
    let _ ← o.writeTo directory
    return o

end BannerGen
