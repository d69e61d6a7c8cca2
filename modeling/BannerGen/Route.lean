/-!
# Routes

The name of a file as it is written, relative to a root directory: parts with slashes between them.
An empty part and `.` stay in a directory, `..` goes to the directory around it, and any other part
is the name of something in it. A route is kept as it is written, since where `..` leads to is known
only from the files that are there.
-/

namespace BannerGen

/-- A way to a file as it is written. -/
structure Route where
  /-- The parts between the slashes. -/
  parts : List String
deriving DecidableEq, Repr, Inhabited

namespace Route

/-- The route that a text denotes. -/
def ofText (s : String) : Route := ⟨s.splitOn "/"⟩

/-- The text of a route. -/
def text (r : Route) : String := "/".intercalate r.parts

/-- The route to something in the directory at the end of a route. No slash is written after
another one. -/
def child (r : Route) (name : String) : Route :=
  if r.parts.getLast? = some "" then ⟨r.parts.dropLast ++ [name]⟩ else ⟨r.parts ++ [name]⟩

/-- Whether a part stays in a directory. -/
def isIdle (part : String) : Bool := part = "" || part = "."

/-- The parts that do not stay in a directory. -/
def steps (r : Route) : List String := r.parts.filter fun part => !isIdle part

/-- Whether the last part that is not empty is a dot. -/
def endsInDot (r : Route) : Bool :=
  (r.parts.filter fun part => part ≠ "").getLast? = some "."

/-- The route to the directory that something is in, without parts at the end that stay there. -/
def parent (r : Route) : Route :=
  ⟨((r.parts.reverse.dropWhile isIdle).drop 1).dropWhile isIdle |>.reverse⟩

/-- The number of bytes that a name has at most. -/
def nameLimit : Nat := 255

/-- The number of bytes that the text of a route has at most. -/
def lengthLimit : Nat := 4095

/-- Whether a part can be the name of a file. -/
def isName (part : String) : Bool :=
  !isIdle part && part ≠ ".." && part.utf8ByteSize ≤ nameLimit

/-- Whether a route starts with a slash, and so does not start at the root directory. -/
def isAbsolute : Route → Bool
  | ⟨"" :: _ :: _⟩ => true
  | _ => false

/-- Whether a route can be followed at all. -/
def isUsable (r : Route) : Bool :=
  !r.isAbsolute && r.text.utf8ByteSize ≤ lengthLimit
    && r.parts.all fun part => !part.toList.contains '\x00'

end Route

end BannerGen
