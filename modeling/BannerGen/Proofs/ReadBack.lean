import BannerGen.Fragment
import BannerGen.Identifier
import BannerGen.Text.Reader

/-!
# Reading fragments back

A fragment can be read back, whatever texts its members hold. `EmitSettings.readFragment` is a
reader that knows the settings, the key and the kind of a type, but not its members. It takes what
a fragment opens with, then members as long as there are any, and leaves what a fragment closes
with. The text of a member is read by the rule of verbatim literals: it ends at the first quote
that is not doubled.

Nothing in a text can be taken for the end of its literal, since every quote of the text is doubled
and the quote at the end is followed by a semicolon (`Verbatim.read?_escapeChars`). The closing line
cannot be taken for a member, since it has a brace where a member has a space or a letter
(`EmitSettings.readMember_closing`).
-/

namespace BannerGen

open Text (Reader)

/-- The literal of a text, followed by anything but a quote, is read as the text. -/
theorem Verbatim.read?_escapeChars {rest : List Char} (h : rest.head? ≠ some '"')
    (cs : List Char) : read? (escapeChars cs ++ '"' :: rest) = some (cs, rest) := by
  induction cs with
  | nil =>
    cases rest with
    | nil => rfl
    | cons c rest =>
      have hc : c ≠ '"' := by simpa using h
      rw [escapeChars, List.nil_append, read?]
      · rw [if_pos rfl]
      · intro cs _ heq
        exact hc (List.cons.inj heq).1
  | cons c cs ih =>
    by_cases hc : c = '"'
    · simp [escapeChars, read?, hc, ih]
    · rw [escapeChars, if_neg hc, List.cons_append, read?, if_neg hc, ih]
      · rfl
      · intro cs' heq _
        exact hc heq

namespace Text.Reader

variable {α : Type}

/-- A word is taken from a text that starts with it. -/
theorem run_word_append (w : String) (rest : List Char) :
    (word w).run (w.toList ++ rest) = some ((), rest) := by
  have hdrop : (w.toList ++ rest).drop w.length = rest := by
    rw [← String.length_toList, List.drop_left]
  simp [word, StateT.run, List.isPrefixOf_iff_prefix, hdrop]

/-- A word is not taken from a text that does not start with it. -/
theorem run_word_eq_none {w : String} {cs : List Char} (h : ¬ w.toList <+: cs) :
    (word w).run cs = none := by
  simp [word, StateT.run, List.isPrefixOf_iff_prefix, h]

/-- What has the property is taken up to the first character that does not have it. -/
theorem run_takeWhile_append {p : Char → Bool} {cs rest : List Char} (hcs : ∀ c ∈ cs, p c = true)
    (hrest : ∀ c ∈ rest.head?, p c = false) :
    (takeWhile p).run (cs ++ rest) = some (cs, rest) := by
  have htake : (cs ++ rest).takeWhile p = cs ∧ (cs ++ rest).dropWhile p = rest := by
    rw [List.takeWhile_append_of_pos hcs, List.dropWhile_append_of_pos hcs]
    cases rest with
    | nil => simp
    | cons c rest => simp [hrest c rfl]
  simp [takeWhile, StateT.run, htake]

/-- If what is written for each item is read back as the item, and what comes after them is
refused, then all items are read back and the rest is left. -/
theorem many_flatMap {r : Reader α} {write : α → List Char} {items : List α} {rest : List Char}
    (hread : ∀ a ∈ items, ∀ cs, r.run (write a ++ cs) = some (a, cs))
    (hwrite : ∀ a ∈ items, write a ≠ []) (hrest : r.run rest = none) :
    many r (items.flatMap write ++ rest) = (items, rest) := by
  induction items with
  | nil =>
    rw [List.flatMap_nil, List.nil_append, many]
    simp only [show r rest = none from hrest]
  | cons a items ih =>
    obtain ⟨ha, hitems⟩ := List.forall_mem_cons.mp hread
    obtain ⟨hpos, hwrite⟩ := List.forall_mem_cons.mp hwrite
    have hlt : (items.flatMap write ++ rest).length <
        (write a ++ (items.flatMap write ++ rest)).length := by
      have := List.length_pos_iff.mpr hpos
      simp only [List.length_append]
      omega
    -- Something is taken for the first item, so the reader goes on after it.
    rw [List.flatMap_cons, List.append_assoc, many]
    simp only [show r (write a ++ (items.flatMap write ++ rest)) = _ from ha _, if_pos hlt,
      ih hitems hwrite]

end Text.Reader

/-- A valid name has no space in it. -/
theorem Identifier.ne_space_of_isValid {name : String} (h : isValid name = true) :
    ∀ c ∈ name.toList, c ≠ ' ' := by
  have hpart : isPart ' ' = false := by decide +kernel
  have hstart : isStart ' ' = false := by decide +kernel
  have hword : ∀ cs, isWord cs = true → ∀ c ∈ cs, c ≠ ' ' := by
    intro cs hcs c hc
    cases cs with
    | nil => cases hc
    | cons d ds =>
      obtain ⟨hd, hds⟩ : isStart d = true ∧ ∀ e ∈ ds, isPart e = true := by
        simpa [isWord] using hcs
      rintro rfl
      rcases List.mem_cons.mp hc with rfl | hc
      · simp [hstart] at hd
      · simpa [hpart] using hds ' ' hc
  rw [isValid] at h
  split at h
  next body heq =>
    intro c hc
    rw [heq, List.mem_cons] at hc
    rcases hc with rfl | hc
    · decide
    · exact hword body h c hc
  · exact hword name.toList (by simp_all)

namespace EmitSettings

variable (s : EmitSettings)

/-- The level at which the declaration of a type stands. -/
def typeLevel (key : TypeKey) : Nat := if key.path.isSome then 1 else 0

/-- What the fragment of a type opens with. -/
def opening (key : TypeKey) (kind : TypeKind) : String :=
  String.join <| s.headerLines ++ (match key.path with
    | some path => [s.line 0 ("namespace " ++ path), s.line 0 "\x7b"]
    | none => []) ++
    [s.line (typeLevel key) ("partial " ++ kind.keyword ++ " " ++ key.name),
      s.line (typeLevel key) "\x7b"]

/-- What the fragment of a type closes with. -/
def closing (key : TypeKey) : String :=
  match key.path with
  | some _ => s.line 1 "\x7d" ++ s.line 0 "\x7d"
  | none => s.line 0 "\x7d"

/-- Reads a member that stands at the given level. -/
def readMember (level : Nat) : Reader RenderedMember := do
  Reader.word (s.indent level ++ s.beforeName)
  let name ← Reader.takeWhile (· ≠ ' ')
  Reader.word (s.afterName ++ "@\"")
  let value ← Verbatim.read?
  Reader.word (";" ++ s.lineEnding.chars)
  return { name := String.ofList name, value := String.ofList value }

/-- Reads a fragment of a type of the given key and kind, and leaves what it closes with. -/
def readFragment (key : TypeKey) (kind : TypeKind) : Reader (List RenderedMember) := do
  Reader.word (s.opening key kind)
  Reader.repeated (s.readMember (typeLevel key + 1))

/-- A fragment is what it opens with, a line for each member, and what it closes with. -/
theorem source_eq (key : TypeKey) (kind : TypeKind) (members : List RenderedMember) :
    s.source key kind members =
      s.opening key kind ++
        String.join (members.map fun m => s.line (typeLevel key + 1) (s.memberDeclaration m)) ++
        s.closing key := by
  rw [source, opening, closing, typeLevel]
  cases key.path <;> simp [typeLines, String.append_assoc]

/-! ### One member -/

/-- The characters of the line of a member, in the pieces in which they are read. -/
theorem toList_memberLine (level : Nat) (m : RenderedMember) :
    (s.line level (s.memberDeclaration m)).toList =
      (s.indent level ++ s.beforeName).toList ++ (m.name.toList ++
        ((s.afterName ++ "@\"").toList ++ (Verbatim.escapeChars m.value.toList ++
          '"' :: (";" ++ s.lineEnding.chars).toList))) := by
  simp [line, memberDeclaration, Verbatim.literal, Verbatim.escape]

/-- What stands after the name of a member starts with a space. -/
theorem head?_afterName (rest : List Char) : (s.afterName.toList ++ rest).head? = some ' ' := by
  rw [afterName]
  cases s.memberStyle <;> rfl

/-- The line of a member is read back as the member. -/
theorem run_readMember_append {m : RenderedMember} (h : Identifier.isValid m.name = true)
    (level : Nat) (rest : List Char) :
    (s.readMember level).run ((s.line level (s.memberDeclaration m)).toList ++ rest) =
      some (m, rest) := by
  have hname : ∀ c ∈ m.name.toList, (decide (c ≠ ' ')) = true := fun c hc =>
    decide_eq_true (Identifier.ne_space_of_isValid h c hc)
  -- The name ends at the space after it.
  have hspace : ∀ cs, ∀ c ∈ ((s.afterName ++ "@\"").toList ++ cs).head?,
      (decide (c ≠ ' ')) = false := by
    intro cs c hc
    rw [String.toList_append, List.append_assoc, head?_afterName, Option.mem_some_iff] at hc
    simp [← hc]
  -- The literal ends at the quote before the semicolon.
  have hsemicolon : ((";" ++ s.lineEnding.chars).toList ++ rest).head? ≠ some '"' := by
    simp
  have hvalue : StateT.run (m := Option) Verbatim.read? _ = _ :=
    Verbatim.read?_escapeChars hsemicolon m.value.toList
  rw [toList_memberLine]
  simp only [List.append_assoc, List.cons_append, readMember, StateT.run_bind,
    Reader.run_word_append, Option.bind_eq_bind, Option.bind_some,
    Reader.run_takeWhile_append hname (hspace _), hvalue]
  simp

/-! ### The closing line -/

/-- What stands before the name of a member does not start with a brace. -/
theorem head?_beforeName : ∃ c, s.beforeName.toList.head? = some c ∧ c ≠ '\x7d' := by
  rw [beforeName, String.toList_append]
  cases s.accessibility
  all_goals exact ⟨_, rfl, by decide⟩

/-- A closing line at one level does not start like a member at the next. -/
theorem not_prefix_brace (level : Nat) (rest : List Char) :
    ¬ (s.indent (level + 1) ++ s.beforeName).toList <+:
      (s.indent level).toList ++ '\x7d' :: rest := by
  obtain ⟨c, hc, hne⟩ := s.head?_beforeName
  obtain ⟨cs, hcs⟩ := List.head?_eq_some_iff.mp hc
  rw [String.toList_append, indent, indent, String.toList_ofList, String.toList_ofList, hcs,
    Nat.mul_succ, ← List.replicate_append_replicate, List.append_assoc,
    List.prefix_append_right_inj]
  -- After the indentation of the closing line, the member has a space or a letter.
  cases s.indentWidth with
  | zero => simp [hne]
  | succ width => simp [List.replicate_succ]

/-- What a fragment closes with is not read as a member. -/
theorem run_readMember_closing (key : TypeKey) :
    (s.readMember (typeLevel key + 1)).run (s.closing key).toList = none := by
  have hnot : ¬ (s.indent (typeLevel key + 1) ++ s.beforeName).toList <+:
      (s.closing key).toList := by
    rw [closing, typeLevel]
    cases key.path with
    | none =>
      simpa [line] using s.not_prefix_brace 0 s.lineEnding.chars.toList
    | some path =>
      simpa [line] using s.not_prefix_brace 1 _
  rw [readMember, StateT.run_bind, Reader.run_word_eq_none hnot]
  rfl

/-! ### The whole fragment -/

/-- A fragment is read back as its members, and what it closes with is left. -/
theorem run_readFragment (key : TypeKey) (kind : TypeKind) {members : List RenderedMember}
    (h : ∀ m ∈ members, Identifier.isValid m.name = true) :
    (s.readFragment key kind).run (s.source key kind members).toList =
      some (members, (s.closing key).toList) := by
  have hmany : Reader.many (s.readMember (typeLevel key + 1))
      (members.flatMap (fun m => (s.line (typeLevel key + 1) (s.memberDeclaration m)).toList) ++
        (s.closing key).toList) = (members, (s.closing key).toList) := by
    refine Reader.many_flatMap (fun m hm => ?_) (fun m _ => ?_) (s.run_readMember_closing key)
    · exact s.run_readMember_append (h m hm) (typeLevel key + 1)
    · simp [line, memberDeclaration]
  rw [source_eq, String.toList_append, String.toList_append, String.toList_join,
    List.flatMap_map, List.append_assoc, readFragment, StateT.run_bind, Reader.run_word_append]
  exact congrArg some hmany

/-- Whatever texts the members hold, the fragment of a type is read back, by a reader that knows
only the settings, the key and the kind, as the list of its members, and exactly what it closes
with is left. So no other members give the same fragment, and the line ending has no influence on
the members that are read. -/
theorem readFragment_source (s : EmitSettings) (key : TypeKey) (kind : TypeKind)
    (members : List RenderedMember) (h : ∀ m ∈ members, Identifier.isValid m.name = true) :
    (s.readFragment key kind).run (s.source key kind members).toList =
      some (members, (s.closing key).toList) ∧
    (∀ others : List RenderedMember, (∀ m ∈ others, Identifier.isValid m.name = true) →
      s.source key kind others = s.source key kind members → others = members) ∧
    ∀ lineEnding, let t := { s with lineEnding }
      (t.readFragment key kind).run (t.source key kind members).toList =
        some (members, (t.closing key).toList) := by
  refine ⟨s.run_readFragment key kind h, fun others hothers heq => ?_,
    fun lineEnding => run_readFragment _ key kind h⟩
  have hread := s.run_readFragment key kind hothers
  rw [heq, s.run_readFragment key kind h, Option.some_inj, Prod.mk.injEq] at hread
  exact hread.1.symm

/-- A text that looks like the end of its own literal, of its member and of its type is read back
between two other members, without indentation and with the long line ending. -/
theorem readFragment_source_lookalike :
    let s : EmitSettings := { indentWidth := 0, lineEnding := .crlf, memberStyle := .const }
    let key : TypeKey := { name := "A", scope := some "Demo" }
    let members : List RenderedMember := [{ name := "@class", value := "\"" },
      { name := "B", value := "\";\r\n\x7d\r\npublic const string C = @\"" },
      { name := "_c", value := "" }]
    (∀ m ∈ members, Identifier.isValid m.name = true) ∧
      (s.readFragment key .structType).run (s.source key .structType members).toList =
        some (members, (s.closing key).toList) := by
  intro s key members
  have hvalid : ∀ m ∈ members, Identifier.isValid m.name = true := by decide +kernel
  exact ⟨hvalid, (readFragment_source s key .structType members hvalid).1⟩

end EmitSettings

end BannerGen
