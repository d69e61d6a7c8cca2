import BannerGen.Source.Forest
import BannerGen.Source.SiteId

/-!
# Layout

Sites may come without an identity, and attributes, arguments, headers and members without a
location. `Forest.layout` fills in what is missing, so that every diagnostic can point somewhere.

Locations are those of an imagined source text, in which each attribute, each header, each brace
and each member stands on a line of its own, indented by four spaces per level of nesting:

```text
[Name(argument, label: argument)]
partial class Name
{
    Member
    class Inner
    {
    }
}
```

What a host has given is kept, and has no influence on what is filled in elsewhere.
-/

namespace BannerGen

/-- The number of spaces per level of nesting. -/
def indentWidth : Nat := 4

/-- The beginning of a line in the imagined text of a file. -/
structure Cursor where
  /-- The path of the file. -/
  file : String
  /-- The line, counted from one. -/
  line : Nat := 1
  /-- The number of bytes before the line. -/
  offset : Nat := 0
deriving DecidableEq, Repr

namespace Cursor

/-- The region of `width` bytes after the first `column` bytes of the line. -/
def span (c : Cursor) (column width : Nat) : Span :=
  { file := c.file
    start := c.offset + column
    stop := c.offset + column + width
    line := c.line
    column := column + 1 }

/-- The beginning of the next line, after a line of `width` bytes and a line feed. -/
def advance (c : Cursor) (width : Nat) : Cursor :=
  { c with line := c.line + 1, offset := c.offset + width + 1 }

end Cursor

/-- The location `s`, or `filled` if `s` is not known. -/
def Span.orElse (s filled : Span) : Span := if s.IsUnassigned then filled else s

namespace Layout

/-- Places arguments from the given column on, with a comma and a space after each. -/
def placeArguments (c : Cursor) : (column : Nat) → List Argument → List Argument
  | _, [] => []
  | column, a :: as =>
    { a with span := a.span.orElse (c.span (column + a.labelWidth) a.value.width) }
      :: placeArguments c (column + a.width + 2) as

/-- Places an attribute on the line of the cursor. -/
def placeAttribute (c : Cursor) (indent : Nat) (a : Attribute) : Attribute :=
  { a with
    arguments := placeArguments c (indent + a.name.utf8ByteSize + 2) a.arguments
    span := a.span.orElse (c.span indent a.width) }

/-- Places attributes on consecutive lines, and gives the line after them. -/
def placeAttributes (indent : Nat) : Cursor → List Attribute → List Attribute × Cursor
  | c, [] => ([], c)
  | c, a :: as =>
    let (placed, c') := placeAttributes indent (c.advance (indent + a.width)) as
    (placeAttribute c indent a :: placed, c')

/-- Places members on consecutive lines, and gives the line after them. -/
def placeMembers (indent : Nat) : Cursor → List Member → List Member × Cursor
  | c, [] => ([], c)
  | c, m :: ms =>
    let (placed, c') := placeMembers indent (c.advance (indent + m.name.utf8ByteSize)) ms
    ({ m with span := m.span.orElse (c.span indent m.name.utf8ByteSize) } :: placed, c')

/-- Places the lines of a site up to its last member, and gives the line after them. -/
def placeSite (depth : Nat) (c : Cursor) (s : Site) : Site × Cursor :=
  let indent := depth * indentWidth
  let (attributes, header) := placeAttributes indent c s.attributes
  let brace := header.advance (indent + s.headerWidth)
  let (members, after) := placeMembers (indent + indentWidth) (brace.advance (indent + 1)) s.members
  let span := s.span.orElse (header.span indent s.headerWidth)
  ({ s with attributes, members, span }, after)

mutual

/-- Fills in what the sites of a declaration are missing, depth first, and gives the line after its
closing brace and the allocator after its last site. The pass stops at a site that no identity is
left for; that site and everything after it stay as they are. -/
def layOutDeclaration (depth : Nat) (c : Cursor) (ids : SiteId.Allocator) :
    Declaration → Declaration × Option (Cursor × SiteId.Allocator)
  | .mk s nested =>
    match if s.id = 0 then ids.allocate else some (s.id, ids) with
    | none => (.mk s nested, none)
    | some (id, ids) =>
      let (s, inner) := placeSite depth c { s with id }
      let (nested, rest) := layOutDeclarations (depth + 1) inner ids nested
      (.mk s nested, rest.map fun (closing, ids) =>
        (closing.advance (depth * indentWidth + 1), ids))

/-- Fills in what the sites of several declarations are missing, one after the other. -/
def layOutDeclarations (depth : Nat) (c : Cursor) (ids : SiteId.Allocator) :
    List Declaration → List Declaration × Option (Cursor × SiteId.Allocator)
  | [] => ([], some (c, ids))
  | d :: ds =>
    match layOutDeclaration depth c ids d with
    | (d, none) => (d :: ds, none)
    | (d, some (next, ids)) =>
      let (ds, rest) := layOutDeclarations depth next ids ds
      (d :: ds, rest)

end

/-- Fills in what the units are missing, one after the other. The lines of every unit are counted
from its beginning, and the identities go on from one unit to the next. -/
def layOutUnits (ids : SiteId.Allocator) :
    List SourceUnit → List SourceUnit × Option SiteId.Allocator
  | [] => ([], some ids)
  | u :: us =>
    match layOutDeclarations 0 { file := u.path } ids u.declarations with
    | (declarations, none) => ({ u with declarations } :: us, none)
    | (declarations, some (_, ids)) =>
      let (us, rest) := layOutUnits ids us
      ({ u with declarations } :: us, rest)

end Layout

namespace Forest

/-- The identities that sites of the forest have, zeros included. -/
def ids (f : Forest) : List Nat := f.walk.map Site.id

/-- Fills in what is missing, as far as there are identities, and tells whether there were enough of
them. -/
def layOut (f : Forest) : Forest × Bool :=
  let (units, rest) := Layout.layOutUnits (.ofUsed f.ids) f.units
  ({ units }, rest.isSome)

/-- Fills in what is missing; `none` if there are more sites than identities. -/
def layout (f : Forest) : Option Forest :=
  match f.layOut with
  | (g, true) => some g
  | (_, false) => none

/-- Adds a unit at the end and fills in what is missing, as far as there are identities. -/
def addUnit (f : Forest) (u : SourceUnit) : Forest := (layOut { units := f.units ++ [u] }).1

end Forest

end BannerGen
