import BannerGen.Assoc
import BannerGen.Route

/-!
# File trees

The files below a root directory, as far as they can be read and written. The place of a file is
the list of the names that lead to it, and a route is followed from directory to directory. Of the
directories around the root directory it is only known that they are there. An action may fail
half-way, and what it did before stays done.
-/

namespace BannerGen

/-- The names on the way from the root directory. The directory around the root directory has the
path `[".."]`, and so on. -/
abbrev Path := List String

namespace Path

/-- The text of a path. -/
def text (p : Path) : String := "/".intercalate p

/-- The order of a listing: a directory comes before what is in it, and the files in a directory
are ordered by name. -/
def le : Path → Path → Bool
  | [], _ => true
  | _ :: _, [] => false
  | a :: p, b :: q => a < b || (a = b && le p q)

/-- Whether a path is that of the root directory or of a directory around it. -/
def isAroundRoot (p : Path) : Bool := p.all (· = "..")

/-- Whether a path is that of something outside the root directory. -/
def isOutside (p : Path) : Bool := p.head? = some ".."

/-- The path of the directory around. -/
def around (p : Path) : Path := if p.isAroundRoot then p ++ [".."] else p.dropLast

end Path

/-- What is found at a path. -/
inductive FileNode where
  /-- A directory. -/
  | directory
  /-- A file with its bytes. -/
  | file (content : ByteArray)
deriving Inhabited

namespace FileNode

/-- Whether this is a directory. -/
def isDirectory : FileNode → Bool
  | .directory => true
  | .file _ => false

/-- The text of a file, if its bytes are one. -/
def text? : FileNode → Option String
  | .directory => none
  | .file content => String.fromUTF8? content

end FileNode

/-- The files and directories below a root directory. -/
structure FileTree where
  /-- The files and directories by path. -/
  nodes : List (Path × FileNode) := []
deriving Inhabited

namespace FileTree

/-- What is found at a path. The root and what is around it are directories. -/
def get? (t : FileTree) (p : Path) : Option FileNode :=
  if p.isAroundRoot then some .directory else t.nodes.lookup p

/-- Puts something at a path. -/
def put (t : FileTree) (p : Path) (n : FileNode) : FileTree := { nodes := Assoc.put p n t.nodes }

/-- Whether there is a directory at a path. -/
def hasDirectory (t : FileTree) (p : Path) : Bool := (t.get? p).any FileNode.isDirectory

/-- The files and directories below the root directory in the order of a listing. -/
def listing (t : FileTree) : List (Path × FileNode) :=
  (t.nodes.filter fun n => !n.1.isOutside).mergeSort fun a b => Path.le a.1 b.1

/-- The path that one part of a route leads to from a path, which must be that of a directory. -/
def step? (t : FileTree) (p : Path) (part : String) : Option Path :=
  if !t.hasDirectory p then none
  else if Route.isIdle part then some p
  else if part = ".." then some p.around
  else some (p ++ [part])

/-- The path that the parts of a route lead to. There need not be anything at it. -/
def follow? (t : FileTree) (parts : List String) : Option Path := parts.foldlM t.step? []

/-- The path that a route leads to. -/
def locate? (t : FileTree) (r : Route) : Option Path :=
  if r.isUsable then t.follow? r.parts else none

/-- What is found at the end of a route. -/
def find? (t : FileTree) (r : Route) : Option FileNode := (t.locate? r).bind t.get?

/-- The path of the file that can be written at the end of a route: a name in a directory that is
not the name of a directory. -/
def target? (t : FileTree) (r : Route) : Option Path := do
  let name ← r.parts.getLast?
  let directory ← t.follow? r.parts.dropLast
  if r.isUsable && Route.isName name && t.hasDirectory directory
      && !t.hasDirectory (directory ++ [name]) then
    return directory ++ [name]
  else none

/-- The file tree after an action, and whether it was done; `none` says that it failed. -/
abbrev Action := OptionT (StateM FileTree)

/-- Makes a directory in a directory, unless there is one of that name. -/
def createDirectory (parent : Path) (name : String) : Action Unit := do
  let t ← get
  match t.get? (parent ++ [name]) with
  | some .directory => return
  | some (.file _) => failure
  | none =>
    if Route.isName name then set (t.put (parent ++ [name]) .directory) else failure

/-- Makes the directories that are missing on the way from a directory along the given steps. -/
def createDirectoriesFrom (p : Path) : (steps : List String) → Action Unit
  | [] => return
  | step :: steps =>
    if step = ".." then createDirectoriesFrom p.around steps
    else do
      createDirectory p step
      createDirectoriesFrom (p ++ [step]) steps

/-- Makes the directory at the end of a route and those on the way to it that are missing. A dot at
the end stays in a directory that must be there before. -/
def createDirectories (r : Route) : Action Unit := do
  if r.isUsable then
    createDirectoriesFrom [] (if r.endsInDot then r.steps.dropLast else r.steps)
    if ((← get).find? r).any FileNode.isDirectory then return else failure
  else failure

/-- Writes the file at the end of a route. A file that is there is replaced. -/
def writeFile (r : Route) (content : ByteArray) : Action Unit := do
  let t ← get
  match t.target? r with
  | some p => set (t.put p (.file content))
  | none => failure

end FileTree

end BannerGen
