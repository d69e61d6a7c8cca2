import BannerGen.FontAttribute.Grammar.Start
import BannerGen.FontAttribute.SyntaxError

/-!
# Token parsers

A parser takes tokens from the beginning of a row and writes tokens again, mostly those that it
takes, or it fails. It also notes the first pair of delimiters between which tokens were left: that
is an error too, but one that gives way to any other.

How far a row was read is kept together with two facts about it: what is left is an end of the row,
and what was written and what is left make up the row, unless something was written in another form
than it was taken. The few parsers that do so leave a note of it.
-/

namespace BannerGen.FontAttribute.Grammar

/-- The ways in which tokens are written in another form than they were taken. -/
inductive Rewriting where
  /-- An empty list is left out, with what introduces it. -/
  | emptyList
  /-- Lifetimes come before other entries of a list. -/
  | lifetimesFirst
  /-- The attributes of an expression or a pattern are lost. -/
  | attributes
  /-- The visibility of a variant is lost. -/
  | visibility
  /-- The limits of a range are written in the usual form. -/
  | limits
  /-- The numbers of fields are written one by one in decimal digits. -/
  | fieldNumber
  /-- What stands between a path and its arguments in parentheses is left out. -/
  | pathArguments
  /-- A parameter without a pattern gets one. -/
  | unnamedParameter
deriving DecidableEq, Repr

/-- How far the tokens `start` were read. -/
structure Reading (start : List Token) where
  /-- The tokens that are left. -/
  rest : List Token
  /-- The tokens that were written again, the last one first. -/
  written : List Token
  /-- The first delimiters between which tokens were left. -/
  leftover : Option Delimiter
  /-- The ways in which tokens were written in another form than they were taken. -/
  rewritings : List Rewriting
  /-- What is left is an end of the tokens. -/
  isEnd : rest <:+ start
  /-- If nothing is in another form, the tokens that were taken are those that were written. -/
  isKept : rewritings = [] → written.reverse ++ rest = start

namespace Reading

variable {start : List Token}

/-- Nothing was read yet. -/
def nothing (start : List Token) (leftover : Option Delimiter) : Reading start where
  rest := start
  written := []
  leftover
  rewritings := []
  isEnd := List.suffix_rfl
  isKept _ := rfl

/-- Another `n` tokens were taken, and written again. -/
def take (r : Reading start) (n : Nat) : Reading start where
  rest := r.rest.drop n
  written := (r.rest.take n).reverse ++ r.written
  leftover := r.leftover
  rewritings := r.rewritings
  isEnd := (List.drop_suffix n r.rest).trans r.isEnd
  isKept h := by
    rw [List.reverse_append, List.reverse_reverse, List.append_assoc, List.take_append_drop]
    exact r.isKept h

/-- Another `n` tokens were taken, and the tokens `ts` were written for them. -/
def replace (r : Reading start) (n : Nat) (ts : List Token) (why : Rewriting) :
    Reading start where
  rest := r.rest.drop n
  written := ts.reverse ++ r.written
  leftover := r.leftover
  rewritings := why :: r.rewritings
  isEnd := (List.drop_suffix n r.rest).trans r.isEnd
  isKept := nofun

/-- In place of the last `n` tokens that were written come the tokens `ts`. -/
def rewrite (r : Reading start) (n : Nat) (ts : List Token) (why : Rewriting) :
    Reading start where
  rest := r.rest
  written := ts.reverse ++ r.written.drop n
  leftover := r.leftover
  rewritings := why :: r.rewritings
  isEnd := r.isEnd
  isKept := nofun

/-- After delimiters between which was read as far as `s` says. -/
def leave {d : Delimiter} {inner rest : List Token} (r : Reading start)
    (h : r.rest = .group d inner :: rest) (s : Reading inner) : Reading start where
  rest
  written := .group d (s.written.reverse ++ s.rest) :: r.written
  leftover := s.leftover
  rewritings := s.rewritings ++ r.rewritings
  isEnd := (List.suffix_cons _ rest).trans (h ▸ r.isEnd)
  isKept hnone := by
    obtain ⟨hs, hr⟩ := List.append_eq_nil_iff.mp hnone
    rw [s.isKept hs, List.reverse_cons, List.append_assoc, List.singleton_append, ← h]
    exact r.isKept hr

end Reading

/-- A parser that gives a value of type `α`. -/
def TokenParser (α : Type) : Type :=
  (start : List Token) → Reading start → Except SyntaxError (α × Reading start)

namespace TokenParser

variable {α β : Type}

instance : Monad TokenParser where
  pure a := fun _ r => .ok (a, r)
  bind p k := fun start r => do
    let (a, s) ← p start r
    k a start s

/-- Fails, wherever the tokens end. -/
def fail (fault : Fault) : TokenParser α := fun _ _ => .error ⟨fault, false⟩

/-- Fails at the tokens that are left. -/
def failHere (fault : Fault) : TokenParser α := fun _ r => .error ⟨fault, r.rest.isEmpty⟩

/-- Fails at the given tokens, where one of the given things is needed. Those that are there, and
cannot be used, are not mentioned. -/
def failAt (ts : List Token) (what : List Start) : TokenParser α :=
  let missing := what.filter fun s => !s.isAt ts
  fun _ _ => .error ⟨.expected (missing.map Start.description), ts.isEmpty⟩

/-- The tokens that are left. -/
def remaining : TokenParser (List Token) := fun _ r => .ok (r.rest, r)

/-- Fails at the tokens that are left, where one of the given things is needed. -/
def failExpecting (what : List Start) : TokenParser α := do failAt (← remaining) what

/-- Whether no tokens are left. -/
def isOver : TokenParser Bool := return (← remaining).isEmpty

/-- Whether the tokens that are left start with this. -/
def isNext (s : Start) : TokenParser Bool := return s.isAt (← remaining)

/-- Whether the tokens after the next one start with this. -/
def isSecond (s : Start) : TokenParser Bool := return s.isAt (afterFirst (← remaining))

/-- Whether the tokens after the next two start with this. -/
def isThird (s : Start) : TokenParser Bool := return s.isAt (afterFirst (afterFirst (← remaining)))

/-- Whether the tokens that are left start with one of these. -/
def isOneOf (l : List Start) : TokenParser Bool := do
  let ts ← remaining
  return l.any fun s => s.isAt ts

/-- Whether the tokens after the next one start with one of these. -/
def isSecondOf (l : List Start) : TokenParser Bool := do
  let ts := afterFirst (← remaining)
  return l.any fun s => s.isAt ts

/-- The last token that was written. -/
def lastWritten? : TokenParser (Option Token) := fun _ r => .ok (r.written.head?, r)

/-- Takes `n` tokens and writes them. -/
def take (n : Nat) : TokenParser Unit := fun _ r => .ok ((), r.take n)

/-- Takes `n` tokens and writes the tokens `ts` for them. -/
def replace (n : Nat) (ts : List Token) (why : Rewriting) : TokenParser Unit :=
  fun _ r => .ok ((), r.replace n ts why)

/-- Writes the tokens `ts` in place of the last `n` tokens that were written. -/
def rewrite (n : Nat) (ts : List Token) (why : Rewriting) : TokenParser Unit :=
  fun _ r => .ok ((), r.rewrite n ts why)

/-- Takes this, if it comes next, and tells whether it did. -/
def accept (s : Start) : TokenParser Bool := do
  match s.length? (← remaining) with
  | some n =>
    take n
    return true
  | none => return false

/-- Fails where this does not come next. -/
def refuse (s : Start) : TokenParser α := do
  match s, ← remaining with
  | .mark _, _ => fail (.expected [s.description])
  | .name, .name _ w :: _ => fail (.keyword w)
  | _, _ => failExpecting [s]

/-- Takes this. -/
def expect (s : Start) : TokenParser Unit := do
  if ← accept s then return else refuse s

/-- Takes everything that is left. -/
def takeRest : TokenParser Unit := do take (← remaining).length

/-- Takes what `p` takes, and gives what `p` writes too. -/
def recorded (p : TokenParser α) : TokenParser (α × List Token) := fun start r =>
  match p start r with
  | .ok (a, s) => .ok ((a, (s.written.take (s.written.length - r.written.length)).reverse), s)
  | .error e => .error e

/-- Takes what `p` takes, and writes it as it was if this holds of what `p` gives. -/
def verbatimIf (isVerbatim : α → Bool) (p : TokenParser α) : TokenParser α := fun start r =>
  match p start r with
  | .ok (a, s) =>
    let asBefore := { r with leftover := s.leftover }.take (r.rest.length - s.rest.length)
    .ok (a, if isVerbatim a then asBefore else s)
  | .error e => .error e

/-- Takes what `p` takes, and writes it as it was. -/
def verbatim (p : TokenParser α) : TokenParser α := verbatimIf (fun _ => true) p

/-- Takes what `p` takes, if it does not fail. -/
def attempt (p : TokenParser α) : TokenParser (Option α) := fun start r =>
  match p start r with
  | .ok (a, s) => .ok (some a, s)
  | .error _ => .ok (none, r)

/-- Gives what `p` gives, and takes nothing. -/
def lookAhead (p : TokenParser α) : TokenParser α := fun start r =>
  match p start r with
  | .ok (a, _) => .ok (a, r)
  | .error e => .error e

/-- Notes that tokens were left between delimiters, unless this was noted before. -/
def noteLeftover (d : Delimiter) : TokenParser Unit :=
  fun _ r => .ok ((), { r with leftover := r.leftover <|> some d })

/-- Takes delimiters and what `p` takes between them, and tells whether tokens were left there. -/
def enter (d : Delimiter) (p : TokenParser α) : TokenParser (α × Bool) := fun start r =>
  match h : r.rest with
  | .group e inner :: _ =>
    if d = e then
      match p inner (.nothing inner r.leftover) with
      | .ok (a, s) => .ok ((a, !s.rest.isEmpty), r.leave h s)
      | .error e => .error e
    else refuse (.group d) start r
  | _ => refuse (.group d) start r

/-- Takes delimiters and what `p` takes between them. -/
def within (d : Delimiter) (p : TokenParser α) : TokenParser α := do
  let (a, isLeft) ← enter d p
  if isLeft then noteLeftover d
  return a

/-- Takes what `p` takes, over and over again, as long as `p` says so and takes anything. -/
def whileTrue (p : TokenParser Bool) : TokenParser Unit := fun start r =>
  match p start r with
  | .error e => .error e
  | .ok (false, s) => .ok ((), s)
  | .ok (true, s) => if s.rest.length < r.rest.length then whileTrue p start s else .ok ((), s)
termination_by _ r => r.rest.length

/-- Takes what `step` takes, over and over again, as long as it gives another value to go on with
and takes anything. In the end it gives the last of these values. -/
def iterate (step : α → TokenParser (α × Bool)) (a : α) : TokenParser α := fun start r =>
  match step a start r with
  | .error e => .error e
  | .ok ((b, false), s) => .ok (b, s)
  | .ok ((b, true), s) =>
    if s.rest.length < r.rest.length then iterate step b start s else .ok (b, s)
termination_by _ r => r.rest.length

/-- Takes what `item` takes until `isEnd` holds, with separators in between. The last item may be
followed by a separator too. -/
def listUntil (isEnd : TokenParser Bool) (separator : Start) (item : TokenParser Unit) :
    TokenParser Unit :=
  whileTrue do
    if ← isEnd then return false
    item
    if ← isEnd then return false
    expect separator
    return true

/-- Takes what `item` takes as long as a separator follows and `isEnd` does not hold. -/
def listWhile (isEnd : TokenParser Bool) (separator : Start) (item : TokenParser Unit) :
    TokenParser Unit :=
  whileTrue do
    if ← isEnd then return false
    item
    accept separator

/-- Takes what `item` takes up to the end, with commas in between. -/
def terminated (item : TokenParser Unit) : TokenParser Unit := listUntil isOver (.mark ",") item

/-- Takes what `item` takes up to the end. -/
def untilOver (item : TokenParser Unit) : TokenParser Unit :=
  whileTrue do
    if ← isOver then return false
    item
    return true

/-- Takes what `head` and `body` take, and writes neither if `body` writes nothing. -/
def headed (head body : TokenParser Unit) : TokenParser Unit := do
  let (_, h) ← recorded head
  let (_, b) ← recorded body
  if b.isEmpty then rewrite h.length [] .emptyList

/-- Takes the attributes `before` back that were written before the tokens `ts`. -/
def loseAttributes (before ts : List Token) : TokenParser Unit := do
  if !before.isEmpty then rewrite (before.length + ts.length) ts .attributes

end TokenParser

end BannerGen.FontAttribute.Grammar
