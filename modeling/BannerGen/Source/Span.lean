import BannerGen.Json.Record

/-!
# Source spans

A region of a source file. The offsets count bytes of UTF-8 and delimit the region; the line and
the column are only shown. A span with an empty file name stands for a location that is not known
yet.

Spans are ordered by file name, then by offsets, then by line and column, so sorting groups them
by file and lists them by position within a file.
-/

namespace BannerGen

/-- A region of a source file. -/
structure Span where
  /-- The path of the file; empty if the location is not known yet. -/
  file : String := ""
  /-- The offset of the first byte. -/
  start : Nat := 0
  /-- The offset just past the last byte. -/
  stop : Nat := 0
  /-- The line, counted from one. -/
  line : Nat := 0
  /-- The column, counted from one. -/
  column : Nat := 0
deriving DecidableEq, Repr, Inhabited

namespace Span

/-- Whether the location is not known yet. -/
def IsUnassigned (s : Span) : Prop := s.file = ""

instance (s : Span) : Decidable s.IsUnassigned := inferInstanceAs (Decidable (_ = _))

/-- The number of bytes in the region; zero if the offsets are reversed. -/
def size (s : Span) : Nat := s.stop - s.start

/-- Compares by file, then start, stop, line and column. -/
protected def compare (a b : Span) : Ordering :=
  (compareOfLessAndEq a.file b.file).then <| (Ord.compare a.start b.start).then <|
    (Ord.compare a.stop b.stop).then <| (Ord.compare a.line b.line).then <|
      Ord.compare a.column b.column

/-- Whether `a` comes before `b` or is `b`. -/
def le (a b : Span) : Bool := (a.compare b).isLE

/-- Sorts by location. Elements at the same location keep their order. -/
def sortBy {α : Type} (location : α → Span) (l : List α) : List α :=
  l.mergeSort fun a b => (location a).le (location b)

instance : ToString Span where
  toString s := s!"{s.file}:{s.line}:{s.column}"

/-- The fields of a span in the order of their declaration. -/
def fieldNames : List String := ["file", "start", "end", "line", "column"]

/-- The JSON form of a span. -/
def toJson (s : Span) : Json.Value :=
  .record [("file", .text s.file), ("start", .natural s.start), ("end", .natural s.stop),
    ("line", .natural s.line), ("column", .natural s.column)]

/-- Reads a span; every field may be left out. -/
def ofJson? : Json.ReaderOf Span
  | 0, _ => none
  | _ + 1, v => do
    let f ← v.fields? fieldNames
    let file ← f.optional "file" "" Json.Value.asText?
    let start ← f.optional "start" 0 (Json.Value.asNat? 64)
    let stop ← f.optional "end" 0 (Json.Value.asNat? 64)
    let line ← f.optional "line" 0 (Json.Value.asNat? 64)
    let column ← f.optional "column" 0 (Json.Value.asNat? 64)
    return { file, start, stop, line, column }

end Span

end BannerGen
