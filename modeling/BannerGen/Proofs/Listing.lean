import BannerGen.Proofs.Row
import Mathlib.Data.List.Forall2

/-!
# Where the locations of a layout point to

The rows of a unit stand one below the other from the first line on, so the lines before a row say
where its parts are (`Layout.Stand.standsIn`). The bytes at a location are found by cutting the text
before the line of the part and within that line (`Part.StandsIn.isAt`), and that parts are in order
follows from where their lines begin.

Only the arguments of an attribute share a line. They are kept apart by the commas between them
(`Layout.bounds_placeArguments`).
-/

namespace BannerGen

/-! ### Lines in the text -/

namespace Listing

variable {lines : List String} {line : String} {i j : Nat}

/-- The text of lines, each of which is ended by a line feed. -/
def text (lines : List String) : String := String.join (lines.map (· ++ "\n"))

/-- The number of bytes before a line, where lines are counted from zero. -/
def lineStart (lines : List String) (i : Nat) : Nat := (text (lines.take i)).utf8ByteSize

theorem text_cons (line : String) (lines : List String) :
    text (line :: lines) = line ++ "\n" ++ text lines := String.join_cons

theorem text_append (lines lines' : List String) :
    text (lines ++ lines') = text lines ++ text lines' := by
  unfold text
  rw [List.map_append, String.join_append]

/-- The text is what is before a line, the line, a line feed and what is after it. -/
theorem text_eq_of_getElem? (h : lines[i]? = some line) :
    text lines = text (lines.take i) ++ (line ++ "\n" ++ text (lines.drop (i + 1))) := by
  obtain ⟨hi, rfl⟩ := List.getElem?_eq_some_iff.mp h
  rw [← text_cons, ← List.drop_eq_getElem_cons hi, ← text_append, List.take_append_drop]

theorem lineStart_succ (h : lines[i]? = some line) :
    lineStart lines (i + 1) = lineStart lines i + line.utf8ByteSize + 1 := by
  obtain ⟨hi, rfl⟩ := List.getElem?_eq_some_iff.mp h
  have hfeed : "\n".utf8ByteSize = 1 := rfl
  have hnil : text [] = "" := rfl
  unfold lineStart
  rw [List.take_succ_eq_append_getElem hi, text_append, text_cons, hnil, String.append_empty,
    String.utf8ByteSize_append, String.utf8ByteSize_append, hfeed, Nat.add_assoc]

theorem lineStart_le_lineStart (h : i ≤ j) : lineStart lines i ≤ lineStart lines j := by
  obtain ⟨k, rfl⟩ := Nat.exists_eq_add_of_le h
  unfold lineStart
  rw [List.take_add, text_append, String.utf8ByteSize_append]
  exact Nat.le_add_right _ _

/-- The bytes of a text between two others. -/
theorem extract_toUTF8_append (a b c : String) :
    (a ++ b ++ c).toUTF8.extract a.utf8ByteSize (a.utf8ByteSize + b.utf8ByteSize) = b.toUTF8 := by
  show (a ++ b ++ c).toByteArray.extract _ _ = b.toByteArray
  -- Nothing is taken from the last text, since the cut ends where it begins.
  have hrest : c.toByteArray.extract (a.utf8ByteSize - (a ++ b).utf8ByteSize)
      (a.utf8ByteSize + b.utf8ByteSize - (a ++ b).utf8ByteSize) = ByteArray.empty := by
    simp
  rw [String.toByteArray_append, ByteArray.extract_append, String.size_toByteArray, hrest,
    ByteArray.append_empty, String.toByteArray_append]
  exact ByteArray.extract_append_eq_right rfl rfl

end Listing

/-- The cursor after the given lines. -/
def Cursor.skip (c : Cursor) (lines : List String) : Cursor :=
  { c with
    line := c.line + lines.length
    offset := c.offset + (Listing.text lines).utf8ByteSize }

theorem Cursor.skip_cons (c : Cursor) (line : String) (lines : List String) :
    c.skip (line :: lines) = (c.advance line.utf8ByteSize).skip lines := by
  have hfeed : "\n".utf8ByteSize = 1 := rfl
  simp only [skip, advance, Listing.text_cons, String.utf8ByteSize_append, hfeed, List.length_cons,
    mk.injEq, true_and]
  omega

/-- The lines before a row say where its parts stand. -/
theorem Layout.Stand.standsIn {c c' : Cursor} {rows : List Row} (h : Stand c rows c') {i : Nat}
    {row : Row} (hrow : rows[i]? = some row) :
    ∀ part ∈ row.parts, part.StandsIn (c.skip ((rows.map Row.text).take i)) row.text := by
  -- The cursor moves by one line for each row, and the index of the row counts down.
  induction h generalizing i with
  | nil c => cases hrow
  | @cons c c' first rows hfirst _ ih =>
    rcases i with _ | i
    · obtain rfl : first = row := by simpa using hrow
      exact hfirst
    · rw [List.map_cons, List.take_succ_cons, Cursor.skip_cons]
      exact ih (by simpa using hrow)

/-- The part is in a line of the text of a unit, where lines are counted from zero, and its location
says where. -/
structure Part.IsAt (u : SourceUnit) (i : Nat) (part : Part) : Prop where
  /-- The file is that of the unit. -/
  file_eq : part.span.file = u.path
  /-- Lines are counted from one. -/
  line_eq : part.span.line = i + 1
  /-- The part does not begin before its line. -/
  lineStart_le : Listing.lineStart u.lines i ≤ part.span.start
  /-- Columns are counted from one, from the beginning of the line. -/
  column_eq : part.span.column = part.span.start - Listing.lineStart u.lines i + 1
  /-- The location is as wide as the part. -/
  stop_eq : part.span.stop = part.span.start + part.text.utf8ByteSize
  /-- The part ends before the next line begins. -/
  stop_lt : part.span.stop < Listing.lineStart u.lines (i + 1)
  /-- The bytes at the location are those of the part. -/
  bytes_eq : u.listing.toUTF8.extract part.span.start part.span.stop = part.text.toUTF8

theorem Part.StandsIn.isAt {u : SourceUnit} {i : Nat} {line : String} {part : Part}
    (hline : u.lines[i]? = some line)
    (h : part.StandsIn (Cursor.skip { file := u.path } (u.lines.take i)) line) :
    part.IsAt u i := by
  obtain ⟨before, after, hcut, hspan⟩ := h
  have hlength : (u.lines.take i).length = i :=
    List.length_take_of_le (Nat.le_of_lt (List.getElem?_eq_some_iff.mp hline).1)
  have hstart : part.span.start = Listing.lineStart u.lines i + before.utf8ByteSize := by
    rw [hspan]
    simp [Cursor.span, Cursor.skip, Listing.lineStart]
  have hstop : part.span.stop = part.span.start + part.text.utf8ByteSize := by
    rw [hspan]
    rfl
  have hcolumn : part.span.column = before.utf8ByteSize + 1 := by
    rw [hspan]
    rfl
  -- What is left of the line after the part, and the line feed, come before the next line.
  have hnext := Listing.lineStart_succ hline
  rw [hcut, String.utf8ByteSize_append, String.utf8ByteSize_append] at hnext
  refine ⟨?_, ?_, by omega, by omega, hstop, by omega, ?_⟩
  · rw [hspan]
    rfl
  · rw [hspan]
    simp [Cursor.span, Cursor.skip, hlength, Nat.add_comm]
  · -- The text is cut before the part and after it.
    have htext : u.listing = Listing.text (u.lines.take i) ++ before ++ part.text ++
        (after ++ "\n" ++ Listing.text (u.lines.drop (i + 1))) := by
      show Listing.text u.lines = _
      rw [Listing.text_eq_of_getElem? hline, hcut]
      simp only [String.append_assoc]
    have hsize : (Listing.text (u.lines.take i) ++ before).utf8ByteSize = part.span.start := by
      rw [String.utf8ByteSize_append, hstart]
      rfl
    rw [htext, hstop, ← hsize]
    exact Listing.extract_toUTF8_append _ _ _

/-! ### Arguments in their attribute -/

namespace Attribute

/-- The arguments are inside the attribute, in order and apart from each other. -/
structure HasApartArguments (a : Attribute) : Prop where
  /-- Each argument is inside the attribute. -/
  inside : ∀ x ∈ a.arguments, a.span.start < x.span.start ∧ x.span.stop < a.span.stop
  /-- Each argument ends before the next one begins. -/
  apart : a.arguments.Pairwise fun x y => x.span.stop < y.span.start

/-- The column at which placing the arguments of an attribute ends, after a comma and a space. -/
def endColumn (indent : Nat) (a : Attribute) : Nat :=
  a.arguments.foldl (fun column x => column + x.width + 2) (indent + a.name.utf8ByteSize + 2)

/-- The width of an argument comes once in the width of arguments. -/
theorem argumentsWidth_cons (a : Argument) (as : List Argument) :
    argumentsWidth (a :: as) = a.width + if as = [] then 0 else 2 + argumentsWidth as := by
  rcases as with _ | ⟨b, as⟩
  · rfl
  · rw [argumentsWidth, if_neg (List.cons_ne_nil b as), Nat.add_assoc]

theorem foldl_width_eq (column : Nat) (as : List Argument) :
    as.foldl (fun column x => column + x.width + 2) column =
      column + if as = [] then 0 else argumentsWidth as + 2 := by
  induction as generalizing column with
  | nil => rfl
  | cons a as ih =>
    rw [List.foldl_cons, ih, argumentsWidth_cons, if_neg (List.cons_ne_nil a as)]
    split <;> omega

/-- The width of an attribute is found from the column after its arguments, less the comma and the
space after the last one. -/
theorem max_endColumn_eq (indent : Nat) (a : Attribute) :
    max (a.endColumn indent - 2) (indent + a.name.utf8ByteSize + 2) + 2 = indent + a.width := by
  unfold endColumn width
  rw [foldl_width_eq]
  rcases a.arguments with _ | ⟨x, xs⟩
  · simp only [if_true, argumentsWidth]
    omega
  · rw [if_neg (List.cons_ne_nil x xs)]
    omega

end Attribute

namespace Layout

/-- Arguments are placed between the column and the end of their text. -/
theorem bounds_placeArguments (c : Cursor) (column : Nat) {as : List Argument}
    (h : ∀ a ∈ as, a.span.IsUnassigned) :
    (∀ x ∈ placeArguments c column as, c.offset + column ≤ x.span.start ∧
      x.span.stop ≤ c.offset + column + Attribute.argumentsWidth as) ∧
    (placeArguments c column as).Pairwise fun x y => x.span.stop < y.span.start := by
  induction as generalizing column with
  | nil => simp [placeArguments]
  | cons a as ih =>
    rw [List.forall_mem_cons] at h
    obtain ⟨hbounds, hapart⟩ := ih (column + a.width + 2) h.2
    have hwidth := Attribute.argumentsWidth_cons a as
    have hspan : a.span.orElse (c.span (column + a.labelWidth) a.value.width) =
        c.span (column + a.labelWidth) a.value.width := Span.orElse_of_isUnassigned h.1 _
    rw [placeArguments, List.forall_mem_cons, List.pairwise_cons, hspan]
    simp only [Cursor.span, Argument.width] at hbounds hwidth ⊢
    -- The first argument begins after its label and ends with its width.
    refine ⟨⟨by omega, fun x hx => ?_⟩, fun x hx => ?_, hapart⟩
    · -- There is another argument, so a comma and a space come before it.
      have hne : as ≠ [] := by
        rintro rfl
        cases hx
      rw [if_neg hne] at hwidth
      have hx := hbounds x hx
      omega
    · have hx := hbounds x hx
      omega

theorem hasApartArguments_placeAttribute (c : Cursor) (indent : Nat) {a : Attribute}
    (h : a.span.IsUnassigned) (hargs : ∀ x ∈ a.arguments, x.span.IsUnassigned) :
    (placeAttribute c indent a).HasApartArguments := by
  obtain ⟨hbounds, hapart⟩ :=
    bounds_placeArguments c (indent + a.name.utf8ByteSize + 2) hargs
  refine ⟨fun x hx => ?_, hapart⟩
  have hx := hbounds x hx
  simp only [placeAttribute, Span.orElse_of_isUnassigned h, Cursor.span, Attribute.width]
  omega

theorem hasApartArguments_placeAttributes (indent : Nat) (c : Cursor) {as : List Attribute}
    (h : ∀ a ∈ as, a.span.IsUnassigned ∧ ∀ x ∈ a.arguments, x.span.IsUnassigned) :
    ∀ a ∈ (placeAttributes indent c as).1, a.HasApartArguments := by
  induction as generalizing c with
  | nil => simp [placeAttributes]
  | cons a as ih =>
    rw [List.forall_mem_cons] at h
    rw [placeAttributes, List.forall_mem_cons]
    exact ⟨hasApartArguments_placeAttribute c indent h.1.1 h.1.2, ih _ h.2⟩

mutual

theorem forall_walk_placeDeclaration {P Q : Site → Prop}
    (hP : ∀ depth c s, P s → Q (placeSite depth c s).1) (depth : Nat) (c : Cursor) :
    ∀ d, (∀ s ∈ Declaration.walk d, P s) →
      ∀ s ∈ Declaration.walk (placeDeclaration depth c d).1, Q s
  | .mk s nested, h => by
    rw [Declaration.walk, List.forall_mem_cons] at h
    rw [placeDeclaration, Declaration.walk, List.forall_mem_cons]
    exact ⟨hP depth c s h.1, forall_walkAll_placeDeclarations hP (depth + 1) _ nested h.2⟩

/-- What placing does to a site of some kind, it does to all sites of that kind. -/
theorem forall_walkAll_placeDeclarations {P Q : Site → Prop}
    (hP : ∀ depth c s, P s → Q (placeSite depth c s).1) (depth : Nat) (c : Cursor) :
    ∀ ds, (∀ s ∈ Declaration.walkAll ds, P s) →
      ∀ s ∈ Declaration.walkAll (placeDeclarations depth c ds).1, Q s
  | [], _ => by simp [placeDeclarations, Declaration.walkAll]
  | d :: ds, h => by
    rw [Declaration.walkAll, List.forall_mem_append] at h
    rw [placeDeclarations, Declaration.walkAll, List.forall_mem_append]
    exact ⟨forall_walk_placeDeclaration hP depth c d h.1,
      forall_walkAll_placeDeclarations hP depth _ ds h.2⟩

end

end Layout

/-! ### Whole units -/

namespace SourceUnit

open Declaration

/-- The rows of a unit. -/
def rows (u : SourceUnit) : List Row := Listing.declarationsRows 0 u.declarations

/-- No location in the unit is known. -/
def IsUnplaced (u : SourceUnit) : Prop := ∀ s ∈ walkAll u.declarations, s.IsUnplaced

instance (u : SourceUnit) : Decidable u.IsUnplaced :=
  inferInstanceAs (Decidable (∀ s ∈ walkAll u.declarations, s.IsUnplaced))

/-- The parts on each row of `v` are found at their locations in the text of `u`. -/
def FindsParts (v u : SourceUnit) : Prop :=
  ∀ (i : Nat) (row : Row), v.rows[i]? = some row → ∀ part ∈ row.parts, part.IsAt u i

/-- The locations in `v` are those of its parts in the text of `u`. -/
structure PointsInto (v u : SourceUnit) : Prop where
  /-- The rows have the lines of the text. -/
  text_eq : v.rows.map Row.text = u.lines
  /-- The parts on the rows are all parts of all sites. -/
  parts_eq : v.rows.flatMap Row.parts = (walkAll v.declarations).flatMap Site.parts
  /-- The parts are written as before. -/
  source_eq : (walkAll v.declarations).map (fun s => s.parts.map Part.text) =
    (walkAll u.declarations).map fun s => s.parts.map Part.text
  /-- The parts on the rows are found at their locations. -/
  findsParts : v.FindsParts u
  /-- What is on a row ends before what is on a later row begins. -/
  rows_apart : v.rows.Pairwise fun row row' =>
    ∀ part ∈ row.parts, ∀ part' ∈ row'.parts, part.span.stop < part'.span.start
  /-- Arguments are inside their attributes, in order and apart from each other. -/
  arguments_apart : ∀ s ∈ walkAll v.declarations, ∀ a ∈ s.attributes, a.HasApartArguments

theorem FindsParts.rows_apart {v u : SourceUnit} (h : v.FindsParts u) :
    v.rows.Pairwise fun row row' =>
      ∀ part ∈ row.parts, ∀ part' ∈ row'.parts, part.span.stop < part'.span.start := by
  rw [List.pairwise_iff_getElem]
  intro i j hi hj hij part hpart part' hpart'
  calc part.span.stop
      < Listing.lineStart u.lines (i + 1) :=
        (h i _ (List.getElem?_eq_getElem hi) part hpart).stop_lt
    _ ≤ Listing.lineStart u.lines j := Listing.lineStart_le_lineStart hij
    _ ≤ part'.span.start := (h j _ (List.getElem?_eq_getElem hj) part' hpart').lineStart_le

/-- A location that points into the text of a unit is that of a part in some line. -/
theorem PointsInto.exists_isAt {v u : SourceUnit} (h : v.PointsInto u) {x : Span}
    (hx : x ∈ v.spans) : ∃ (i : Nat) (part : Part), part.span = x ∧ part.IsAt u i := by
  obtain ⟨s, hs, hx⟩ := List.mem_flatMap.mp hx
  rw [s.spans_perm_map_span.mem_iff] at hx
  obtain ⟨part, hpart, rfl⟩ := List.mem_map.mp hx
  -- The part is on some row of the unit.
  have hrows : part ∈ v.rows.flatMap Row.parts := by
    rw [h.parts_eq]
    exact List.mem_flatMap.mpr ⟨s, hs, hpart⟩
  obtain ⟨row, hrow, hpart⟩ := List.mem_flatMap.mp hrows
  obtain ⟨i, hi⟩ := List.mem_iff_getElem?.mp hrow
  exact ⟨i, part, rfl, h.findsParts i row hi part hpart⟩

/-- Locations that point into the text of a unit have its path as their file. -/
theorem PointsInto.file_eq {v u : SourceUnit} (h : v.PointsInto u) :
    ∀ x ∈ v.spans, x.file = u.path := by
  intro x hx
  obtain ⟨i, part, rfl, hat⟩ := h.exists_isAt hx
  exact hat.file_eq

/-- Placing a unit makes its locations point into its text. -/
theorem pointsInto_placeUnit {u : SourceUnit} (h : u.IsUnplaced) :
    (Layout.placeUnit u).PointsInto u := by
  have htext : (Layout.placeUnit u).rows.map Row.text = u.lines := by
    unfold rows lines
    rw [Listing.map_text_declarationsRows]
    exact Layout.declarations_placeDeclarations 0 _ u.declarations
  have hstand := Layout.stand_placeDeclarations 0 { file := u.path } u.declarations h
  have hfinds : (Layout.placeUnit u).FindsParts u := by
    intro i row hrow part hpart
    have hline : u.lines[i]? = some row.text := by
      rw [← htext, List.getElem?_map, hrow, Option.map_some]
    -- The lines of the rows are those of the unit, so the cursor is known from the unit alone.
    have hstands := hstand.standsIn hrow part hpart
    change part.StandsIn (Cursor.skip _ (((Layout.placeUnit u).rows.map Row.text).take i)) _
      at hstands
    rw [htext] at hstands
    exact hstands.isAt hline
  refine ⟨htext, Listing.flatMap_parts_declarationsRows 0 _, ?_, hfinds, hfinds.rows_apart,
    ?_⟩
  · exact Layout.map_walkAll_placeDeclarations Layout.map_text_parts_placeSite 0 _ u.declarations
  · refine Layout.forall_walkAll_placeDeclarations (fun depth c s hs => ?_) 0 _ u.declarations h
    exact Layout.hasApartArguments_placeAttributes _ c (Site.isUnplaced_iff.mp hs).2.1

/-- A unit that only differs in identities has the same text, so pointing into one is pointing into
the other. -/
theorem PointsInto.of_identifyAll {v u : SourceUnit} {ids : SiteId.Allocator}
    {r : List Declaration × SiteId.Allocator}
    (hr : Layout.identifyAll ids u.declarations = some r)
    (h : v.PointsInto { u with declarations := r.1 }) : v.PointsInto u := by
  have hlines : lines { u with declarations := r.1 } = u.lines :=
    Layout.declarations_identifyAll 0 u.declarations ids r hr
  have hsource := Layout.map_walkAll_identifyAll (g := fun s => s.parts.map Part.text)
    (fun _ _ => rfl) u.declarations ids r hr
  refine ⟨h.text_eq.trans hlines, h.parts_eq, h.source_eq.trans hsource, ?_, h.rows_apart,
    h.arguments_apart⟩
  -- Whatever is said about a part depends on the unit through its path and its lines.
  intro i row hrow part hpart
  obtain ⟨hfile, hline, hstart, hcolumn, hstop, hnext, hbytes⟩ := h.findsParts i row hrow part hpart
  unfold listing at hbytes
  rw [hlines] at hstart hcolumn hnext hbytes
  exact ⟨hfile, hline, hstart, hcolumn, hstop, hnext, hbytes⟩

theorem IsUnplaced.of_identifyAll {u : SourceUnit} {ids : SiteId.Allocator}
    {r : List Declaration × SiteId.Allocator}
    (hr : Layout.identifyAll ids u.declarations = some r) (h : u.IsUnplaced) :
    IsUnplaced { u with declarations := r.1 } := by
  have hspans := Layout.map_walkAll_identifyAll (g := Site.spans) (fun _ _ => rfl)
    u.declarations ids r hr
  intro s hs
  -- A site of the unit before has the same locations.
  have hmem : s.spans ∈ (walkAll u.declarations).map Site.spans :=
    hspans ▸ List.mem_map_of_mem hs
  obtain ⟨s', hs', heq⟩ := List.mem_map.mp hmem
  unfold Site.IsUnplaced
  rw [← heq]
  exact h s' hs'

end SourceUnit

theorem Layout.forall₂_identifyUnits (us : List SourceUnit) (ids : SiteId.Allocator)
    (r : List SourceUnit × SiteId.Allocator) (h : identifyUnits ids us = some r) :
    List.Forall₂ (fun u v => ∃ ids r, identifyAll ids u.declarations = some r ∧
      v = { u with declarations := r.1 }) us r.1 := by
  induction us generalizing ids r with
  | nil =>
    cases h
    exact .nil
  | cons u us ih =>
    rw [identifyUnits_cons, Option.bind_eq_some_iff] at h
    obtain ⟨first, hfirst, h⟩ := h
    obtain ⟨rest, hrest, rfl⟩ := Option.map_eq_some_iff.mp h
    exact .cons ⟨ids, first, hfirst, rfl⟩ (ih first.2 rest hrest)

/-- A forest with no more sites than identities can be laid out. In a forest that is laid out, the
locations of each unit that came without any point into the text of the unit. The widths that this
takes are found without going below zero: that of the value of an argument from the width of the
argument, and that of an attribute from the column after its arguments. -/
theorem Forest.layout_points_into_listing (f : Forest) :
    (f.size ≤ SiteId.last → ∃ g, f.layout = some g) ∧
    (∀ g, f.layout = some g →
      List.Forall₂ (fun u v => u.IsUnplaced → v.path = u.path ∧ v.PointsInto u) f.units g.units) ∧
    (∀ x : Argument, x.labelWidth ≤ x.width ∧
      x.width - x.labelWidth = x.value.listing.utf8ByteSize) ∧
    (∀ (indent : Nat) (a : Attribute),
      indent ≤ max (a.endColumn indent - 2) (indent + a.name.utf8ByteSize + 2) + 2 ∧
      max (a.endColumn indent - 2) (indent + a.name.utf8ByteSize + 2) + 2 - indent =
        a.listing.utf8ByteSize) := by
  refine ⟨exists_layout, fun g hg => ?_, fun x => ?_, fun indent a => ?_⟩
  · -- Identities are filled in first, then locations.
    rw [layout_eq] at hg
    obtain ⟨e, he, rfl⟩ := Option.map_eq_some_iff.mp hg
    obtain ⟨r, hr, rfl⟩ := Option.map_eq_some_iff.mp he
    show List.Forall₂ _ f.units (r.1.map Layout.placeUnit)
    rw [List.forall₂_map_right_iff]
    refine (Layout.forall₂_identifyUnits f.units _ r hr).imp ?_
    rintro u _ ⟨ids, r, hr, rfl⟩ hu
    exact ⟨rfl, .of_identifyAll hr (SourceUnit.pointsInto_placeUnit (.of_identifyAll hr hu))⟩
  · rw [ArgumentValue.utf8ByteSize_listing, Argument.width]
    omega
  · rw [Attribute.max_endColumn_eq, Attribute.utf8ByteSize_listing]
    omega

/-- A unit with a nested declaration. One attribute has an argument without a text of its own and
one with a label, and the other attribute has none; some names and texts are not plain ASCII. -/
theorem Forest.layout_points_into_listing_nested :
    let inner : Site := { name := "Inner", attributes := [{ name := "Plain" }] }
    let outer : Site :=
      { name := "Ä", isPartial := true, members := [{ name := "Größe" }]
        attributes := [{ name := "Banner", arguments :=
          [{ value := .expression "" }, { name := some "text", value := .text "é" }] }] }
    let u : SourceUnit := { path := "src/Ä.cs", declarations := [.mk outer [.mk inner []]] }
    u.listing = "[Banner(, text: \"é\")]\npartial class Ä\n\x7b\n    Größe\n    [Plain()]\n" ++
      "    class Inner\n    \x7b\n    \x7d\n\x7d\n" ∧
    u.IsUnplaced ∧ size { units := [u] } ≤ SiteId.last ∧
    ∃ g v, layout { units := [u] } = some g ∧ g.units = [v] ∧ v.path = u.path ∧
      v.PointsInto u := by
  intro inner outer u
  have hunplaced : u.IsUnplaced := by decide +kernel
  have hsize : size { units := [u] } ≤ SiteId.last := by decide +kernel
  obtain ⟨hexists, hpoints, -, -⟩ := layout_points_into_listing { units := [u] }
  obtain ⟨g, hg⟩ := hexists hsize
  have hunits := hpoints g hg
  rw [List.forall₂_cons_left_iff] at hunits
  obtain ⟨v, vs, hv, hvs, hunits⟩ := hunits
  rw [List.forall₂_nil_left_iff] at hvs
  subst hvs
  exact ⟨by decide +kernel, hunplaced, hsize, g, v, hg, hunits, hv hunplaced⟩

end BannerGen
