/-!
# Readers

A reader takes something from the beginning of a text and leaves the rest, or it refuses the text.
Readers are put together in the usual ways: one after the other, one or else another, and one over
and over again. A reader that refuses takes nothing, so an alternative starts where it started.
-/

namespace BannerGen.Text

/-- A reader of values of type `α`: from the characters of a text it gives a value and the
characters that are left, or nothing if it refuses the text. -/
abbrev Reader := StateT (List Char) Option

namespace Reader

variable {α β : Type}

/-- The value that the whole of a text denotes. -/
def readAll? (r : Reader α) (cs : List Char) : Option α :=
  match r cs with
  | some (a, []) => some a
  | _ => none

/-- Takes one character with the property `p`. -/
def one (p : Char → Bool) : Reader Char := fun
  | c :: cs => if p c then some (c, cs) else none
  | [] => none

/-- Takes one character of any kind. -/
def next : Reader Char := one fun _ => true

/-- Takes the given word. -/
def word (w : String) : Reader Unit := fun cs =>
  if w.toList.isPrefixOf cs then some ((), cs.drop w.length) else none

/-- Takes the characters up to the first one without the property `p`. -/
def takeWhile (p : Char → Bool) : Reader (List Char) := fun cs =>
  some (cs.takeWhile p, cs.dropWhile p)

/-- Takes at least one character, up to the first one without the property `p`. -/
def takeWhile1 (p : Char → Bool) : Reader (List Char) := fun cs =>
  if cs.takeWhile p = [] then none else some (cs.takeWhile p, cs.dropWhile p)

/-- Takes `n` characters with the property `p`. -/
def exactly (n : Nat) (p : Char → Bool) : Reader (List Char) := fun cs =>
  if (cs.take n).length = n ∧ (cs.take n).all p then some (cs.take n, cs.drop n) else none

/-- Takes nothing, and refuses a text that has anything left. -/
def atEnd : Reader Unit := fun cs => if cs = [] then some ((), []) else none

/-- Takes nothing, and refuses a text that `r` refuses. -/
def ahead (r : Reader α) : Reader Unit := fun cs => (r cs).map fun _ => ((), cs)

/-- Takes nothing, and refuses a text that `r` does not refuse. -/
def notAhead (r : Reader α) : Reader Unit := fun cs =>
  if (r cs).isSome then none else some ((), cs)

/-- Takes nothing and gives the value, if there is one. -/
def ofOption (o : Option α) : Reader α := fun cs => o.map fun a => (a, cs)

/-- Takes what `r` takes as often as it takes anything. -/
def many (r : Reader α) (cs : List Char) : List α × List Char :=
  match r cs with
  | some (a, rest) =>
    if rest.length < cs.length then
      let (as, rest) := many r rest
      (a :: as, rest)
    else ([], cs)
  | none => ([], cs)
termination_by cs.length

/-- Takes what `r` takes as often as it takes anything, which may be never. -/
def repeated (r : Reader α) : Reader (List α) := fun cs => some (many r cs)

/-- Takes what `r` takes at least once, with what `separator` takes in between. -/
def separated (r : Reader α) (separator : Reader β) : Reader (List α) := do
  let first ← r
  let others ← repeated do
    let _ ← separator
    r
  return first :: others

end Reader

end BannerGen.Text
