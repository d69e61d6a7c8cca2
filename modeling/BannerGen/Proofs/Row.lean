import BannerGen.Proofs.Layout
import BannerGen.Source.Listing

/-!
# Rows of the imagined source text

The layout of a unit counts bytes and never writes the text that it imagines. Here the things that
it gives locations to are put back into the lines of that text. A row is a line together with the
parts on it that have a location (`Row`), and a part stands in its line if the line is cut at the
location of the part (`Part.StandsIn`).

Placing something puts its rows on the lines from one cursor to the next (`Layout.Stand`). This is
shown for attributes, members, sites and whole declarations in the order in which they are placed.
-/

namespace BannerGen

/-! ### Rows and their parts -/

/-- Something in a source text that has a location. -/
structure Part where
  /-- Where it stands. -/
  span : Span
  /-- How it is written. -/
  text : String

/-- A line of a source text and the parts on it. -/
structure Row where
  /-- The line without its line feed. -/
  text : String
  /-- The parts on the line. -/
  parts : List Part := []

/-- The value of an argument as a part; its label does not belong to it. -/
def Argument.part (a : Argument) : Part := ⟨a.span, a.value.listing⟩

/-- An attribute as a part, and the parts in it. -/
def Attribute.parts (a : Attribute) : List Part :=
  ⟨a.span, a.listing⟩ :: a.arguments.map Argument.part

/-- The header of a site as a part. -/
def Site.headerPart (s : Site) : Part := ⟨s.span, s.header⟩

/-- A member as a part. -/
def Member.part (m : Member) : Part := ⟨m.span, m.name⟩

/-- The parts of a site in the order of the text: attributes, header and members. -/
def Site.parts (s : Site) : List Part :=
  s.attributes.flatMap Attribute.parts ++ s.headerPart :: s.members.map Member.part

/-- The locations in a site are those of its parts. -/
theorem Site.spans_perm_map_span (s : Site) : s.spans.Perm (s.parts.map Part.span) := by
  have hattribute : (fun a : Attribute => a.parts.map Part.span) = Attribute.spans := by
    funext a
    simp [Attribute.parts, Attribute.spans, Argument.part, Function.comp_def]
  simp only [spans, parts, List.map_append, List.map_flatMap, hattribute, List.map_cons,
    List.map_map]
  -- The location of the header comes first in one list and after the attributes in the other.
  exact List.perm_middle.symm

namespace Listing

/-- The rows of a site up to its last member. -/
def siteRows (depth : Nat) (s : Site) : List Row :=
  s.attributes.map (fun a => ⟨indented depth a.listing, a.parts⟩)
    ++ [⟨indented depth s.header, [s.headerPart]⟩, ⟨indented depth "\x7b", []⟩]
    ++ s.members.map fun m => ⟨indented (depth + 1) m.name, [m.part]⟩

mutual

/-- The rows of a declaration. -/
def declarationRows (depth : Nat) : Declaration → List Row
  | .mk s nested =>
    siteRows depth s ++ declarationsRows (depth + 1) nested ++ [⟨indented depth "\x7d", []⟩]

/-- The rows of several declarations, one after the other. -/
def declarationsRows (depth : Nat) : List Declaration → List Row
  | [] => []
  | d :: ds => declarationRows depth d ++ declarationsRows depth ds

end

@[simp]
theorem map_text_siteRows (depth : Nat) (s : Site) :
    (siteRows depth s).map Row.text = site depth s := by
  simp [siteRows, site, Function.comp_def]

/-- What is taken from each row of a site comes from its attributes, its header and its members. -/
theorem flatMap_siteRows {α : Type} {take : List Part → List α} (h : take [] = []) (depth : Nat)
    (s : Site) :
    (siteRows depth s).flatMap (fun row => take row.parts) =
      s.attributes.flatMap (fun a => take a.parts) ++
        (take [s.headerPart] ++ s.members.flatMap fun m => take [m.part]) := by
  simp [siteRows, List.flatMap_append, List.flatMap_map, h]

mutual

theorem map_text_declarationRows (depth : Nat) :
    ∀ d, (declarationRows depth d).map Row.text = declaration depth d
  | .mk s nested => by
    rw [declarationRows, declaration, List.map_append, List.map_append, map_text_siteRows,
      map_text_declarationsRows]
    rfl

/-- The rows of declarations have the lines of the declarations. -/
theorem map_text_declarationsRows (depth : Nat) :
    ∀ ds, (declarationsRows depth ds).map Row.text = declarations depth ds
  | [] => by rw [declarationsRows, declarations, List.map_nil]
  | d :: ds => by
    rw [declarationsRows, declarations, List.map_append, map_text_declarationRows,
      map_text_declarationsRows]

end

mutual

theorem flatMap_declarationRows {α : Type} {take : List Part → List α} (h : take [] = [])
    (depth : Nat) :
    ∀ d, (declarationRows depth d).flatMap (fun row => take row.parts) =
      (Declaration.walk d).flatMap fun s => s.attributes.flatMap (fun a => take a.parts) ++
        (take [s.headerPart] ++ s.members.flatMap fun m => take [m.part])
  | .mk s nested => by
    rw [declarationRows, Declaration.walk, List.flatMap_append, List.flatMap_append,
      flatMap_siteRows h, flatMap_declarationsRows h, List.flatMap_cons]
    simp [h]

/-- What is taken from each row of declarations comes from their sites. -/
theorem flatMap_declarationsRows {α : Type} {take : List Part → List α} (h : take [] = [])
    (depth : Nat) :
    ∀ ds, (declarationsRows depth ds).flatMap (fun row => take row.parts) =
      (Declaration.walkAll ds).flatMap fun s => s.attributes.flatMap (fun a => take a.parts) ++
        (take [s.headerPart] ++ s.members.flatMap fun m => take [m.part])
  | [] => by simp [declarationsRows, Declaration.walkAll]
  | d :: ds => by
    rw [declarationsRows, Declaration.walkAll, List.flatMap_append, List.flatMap_append,
      flatMap_declarationRows h, flatMap_declarationsRows h]

end

/-- The parts on the rows of declarations are those of their sites. -/
theorem flatMap_parts_declarationsRows (depth : Nat) (ds : List Declaration) :
    (declarationsRows depth ds).flatMap Row.parts =
      (Declaration.walkAll ds).flatMap Site.parts := by
  have hnone : id [] = ([] : List Part) := rfl
  have hrows := flatMap_declarationsRows hnone depth ds
  have hsite : (fun s : Site => s.attributes.flatMap (fun a => id a.parts) ++
      (id [s.headerPart] ++ s.members.flatMap fun m => id [m.part])) = Site.parts := by
    funext s
    exact congrArg (s.attributes.flatMap Attribute.parts ++ s.headerPart :: ·)
      List.map_eq_flatMap.symm
  rwa [hsite] at hrows

end Listing

/-! ### Widths -/

@[simp]
theorem ArgumentValue.utf8ByteSize_listing (v : ArgumentValue) :
    v.listing.utf8ByteSize = v.width := by
  cases v with
  | text content =>
    simp only [listing, width, String.utf8ByteSize_append]
    have hquote : "\"".utf8ByteSize = 1 := rfl
    omega
  | expression source => rfl

namespace Argument

/-- What stands before the value of an argument. -/
def label (a : Argument) : String :=
  match a.name with
  | some name => name ++ ": "
  | none => ""

theorem listing_eq (a : Argument) : a.listing = a.label ++ a.value.listing := by
  unfold listing label
  cases a.name <;> simp

@[simp]
theorem utf8ByteSize_label (a : Argument) : a.label.utf8ByteSize = a.labelWidth := by
  have hcolon : ": ".utf8ByteSize = 2 := rfl
  unfold label labelWidth
  cases a.name <;> simp [hcolon]

@[simp]
theorem utf8ByteSize_listing (a : Argument) : a.listing.utf8ByteSize = a.width := by
  rw [listing_eq, String.utf8ByteSize_append, utf8ByteSize_label,
    ArgumentValue.utf8ByteSize_listing, width]

end Argument

/-- The width of arguments is that of their text. -/
theorem Attribute.utf8ByteSize_intercalate (as : List Argument) :
    (", ".intercalate (as.map Argument.listing)).utf8ByteSize = argumentsWidth as := by
  have hcomma : ", ".utf8ByteSize = 2 := rfl
  induction as with
  | nil => rfl
  | cons a as ih =>
    rcases as with _ | ⟨b, as⟩
    · simp [argumentsWidth]
    · rw [List.map_cons, List.map_cons, String.intercalate_cons_cons, ← List.map_cons,
        String.utf8ByteSize_append, ih, String.utf8ByteSize_append, hcomma,
        Argument.utf8ByteSize_listing, argumentsWidth]

@[simp]
theorem Attribute.utf8ByteSize_listing (a : Attribute) : a.listing.utf8ByteSize = a.width := by
  have hopen : "[".utf8ByteSize = 1 := rfl
  have hparen : "(".utf8ByteSize = 1 := rfl
  have hclose : ")]".utf8ByteSize = 2 := rfl
  simp only [listing, width, String.utf8ByteSize_append, utf8ByteSize_intercalate]
  omega

@[simp]
theorem Site.utf8ByteSize_header (s : Site) : s.header.utf8ByteSize = s.headerWidth := by
  have hspace : " ".utf8ByteSize = 1 := rfl
  have hpartial : "partial ".utf8ByteSize = 8 := rfl
  simp only [header, headerWidth, String.utf8ByteSize_append, hspace]
  cases s.isPartial <;> simp [hpartial]

/-- The spaces before a line at the given depth. -/
def Listing.indentation (depth : Nat) : String :=
  String.ofList (List.replicate (depth * indentWidth) ' ')

theorem Listing.indented_eq (depth : Nat) (s : String) :
    indented depth s = indentation depth ++ s := rfl

@[simp]
theorem Listing.utf8ByteSize_indentation (depth : Nat) :
    (indentation depth).utf8ByteSize = depth * indentWidth := by
  unfold indentation
  induction depth * indentWidth with
  | zero => rfl
  | succ n ih =>
    have hspace : (String.singleton ' ').utf8ByteSize = 1 := rfl
    rw [List.replicate_succ, String.ofList_cons, String.utf8ByteSize_append, ih, hspace,
      Nat.add_comm]

@[simp]
theorem Listing.utf8ByteSize_indented (depth : Nat) (s : String) :
    (indented depth s).utf8ByteSize = depth * indentWidth + s.utf8ByteSize := by
  rw [indented_eq, String.utf8ByteSize_append, utf8ByteSize_indentation]

/-! ### What placing keeps of the text -/

namespace Layout

open Listing

@[simp]
theorem listing_placeAttribute (c : Cursor) (indent : Nat) (a : Attribute) :
    (placeAttribute c indent a).listing = a.listing := by
  simp only [Attribute.listing, placeAttribute]
  rw [map_placeArguments fun _ _ => rfl]

/-- The parts of a site are written as before. -/
theorem map_text_parts_placeSite (depth : Nat) (c : Cursor) (s : Site) :
    (placeSite depth c s).1.parts.map Part.text = s.parts.map Part.text := by
  have hattribute (c : Cursor) (indent : Nat) (a : Attribute) :
      (placeAttribute c indent a).parts.map Part.text = a.parts.map Part.text := by
    simp only [Attribute.parts, List.map_cons, List.map_map, listing_placeAttribute]
    simp only [placeAttribute]
    rw [map_placeArguments fun _ _ => rfl]
  -- The texts of the parts do not depend on where the site stands.
  have hparts (s : Site) : s.parts.map Part.text =
      (s.attributes.map fun a => a.parts.map Part.text).flatten
        ++ s.header :: s.members.map Member.name := by
    simp [Site.parts, Site.headerPart, Function.comp_def, Member.part, List.flatMap_def]
  rw [hparts, hparts]
  simp only [placeSite]
  rw [map_placeAttributes fun c a => hattribute c _ a, map_placeMembers fun _ _ => rfl]
  rfl

/-- The lines of a site come from the texts of its attributes and the names of its members. -/
theorem site_placeSite (depth depth' : Nat) (c : Cursor) (s : Site) :
    site depth (placeSite depth' c s).1 = site depth s := by
  have hsite (s : Site) : site depth s =
      (s.attributes.map Attribute.listing).map (indented depth)
        ++ [indented depth s.header, indented depth "\x7b"]
        ++ (s.members.map Member.name).map (indented (depth + 1)) := by
    simp only [site, List.map_map, Function.comp_def]
  rw [hsite, hsite]
  simp only [placeSite]
  rw [map_placeAttributes fun c a => listing_placeAttribute c _ a,
    map_placeMembers fun _ _ => rfl]
  rfl

mutual

theorem declaration_placeDeclaration (depth : Nat) (c : Cursor) :
    ∀ d, declaration depth (placeDeclaration depth c d).1 = declaration depth d
  | .mk s nested => by
    rw [placeDeclaration, declaration, declaration, site_placeSite,
      declarations_placeDeclarations]

/-- Placing declarations keeps their lines. -/
theorem declarations_placeDeclarations (depth : Nat) (c : Cursor) :
    ∀ ds, declarations depth (placeDeclarations depth c ds).1 = declarations depth ds
  | [] => by rw [placeDeclarations]
  | d :: ds => by
    rw [placeDeclarations, declarations, declarations, declaration_placeDeclaration,
      declarations_placeDeclarations]

end

mutual

theorem declaration_identify (depth : Nat) :
    ∀ d a r, identify a d = some r → declaration depth r.1 = declaration depth d
  | .mk s nested, a, r, h => by
    rw [identify_mk, Option.bind_eq_some_iff] at h
    obtain ⟨first, _, h⟩ := h
    obtain ⟨rest, hrest, rfl⟩ := Option.map_eq_some_iff.mp h
    rw [declaration, declaration, declarations_identifyAll (depth + 1) nested first.2 rest hrest]
    rfl

/-- Giving identities to declarations keeps their lines. -/
theorem declarations_identifyAll (depth : Nat) :
    ∀ ds a r, identifyAll a ds = some r → declarations depth r.1 = declarations depth ds
  | [], a, r, h => by
    cases h
    rfl
  | d :: ds, a, r, h => by
    rw [identifyAll_cons, Option.bind_eq_some_iff] at h
    obtain ⟨first, hfirst, h⟩ := h
    obtain ⟨rest, hrest, rfl⟩ := Option.map_eq_some_iff.mp h
    rw [declarations, declarations, declaration_identify depth d a first hfirst,
      declarations_identifyAll depth ds first.2 rest hrest]

end

end Layout

/-! ### Parts in their lines -/

/-- The part stands in a line that begins at the cursor: the line is what comes before the part, the
part and what comes after it. -/
def Part.StandsIn (c : Cursor) (line : String) (p : Part) : Prop :=
  ∃ before after, line = before ++ p.text ++ after ∧
    p.span = c.span before.utf8ByteSize p.text.utf8ByteSize

/-- A part that is a whole line begins after the indentation. -/
theorem Part.standsIn_of_eq_indented {c : Cursor} {depth : Nat} {line : String} {p : Part}
    (hline : line = Listing.indented depth p.text)
    (hspan : p.span = c.span (depth * indentWidth) p.text.utf8ByteSize) : p.StandsIn c line := by
  refine ⟨Listing.indentation depth, "", ?_, ?_⟩
  · rw [hline, String.append_empty, Listing.indented_eq]
  · rw [hspan, Listing.utf8ByteSize_indentation]

theorem Span.orElse_of_isUnassigned {s : Span} (h : s.IsUnassigned) (filled : Span) :
    s.orElse filled = filled := if_pos h

/-- No location in the site is known. -/
def Site.IsUnplaced (s : Site) : Prop := ∀ span ∈ s.spans, span.IsUnassigned

instance (s : Site) : Decidable s.IsUnplaced :=
  inferInstanceAs (Decidable (∀ span ∈ s.spans, span.IsUnassigned))

theorem Site.isUnplaced_iff {s : Site} :
    s.IsUnplaced ↔ s.span.IsUnassigned ∧
      (∀ a ∈ s.attributes, a.span.IsUnassigned ∧ ∀ x ∈ a.arguments, x.span.IsUnassigned) ∧
      ∀ m ∈ s.members, m.span.IsUnassigned := by
  simp only [IsUnplaced, spans, Attribute.spans, List.forall_mem_cons, List.forall_mem_append,
    List.forall_mem_flatMap, List.forall_mem_map]

namespace Layout

open Listing

/-- The rows stand on the lines from one cursor up to another one, with all their parts. -/
inductive Stand : Cursor → List Row → Cursor → Prop
  /-- No rows take no lines. -/
  | nil (c : Cursor) : Stand c [] c
  /-- The first row stands on the line of the cursor and the others on the lines after it. -/
  | cons {c c' : Cursor} {row : Row} {rows : List Row}
    (hrow : ∀ part ∈ row.parts, part.StandsIn c row.text)
    (hrows : Stand (c.advance row.text.utf8ByteSize) rows c') : Stand c (row :: rows) c'

theorem Stand.append {c c' c'' : Cursor} {rows rows' : List Row} (h : Stand c rows c')
    (h' : Stand c' rows' c'') : Stand c (rows ++ rows') c'' := by
  induction h with
  | nil c => exact h'
  | cons hrow _ ih => exact .cons hrow (ih h')

/-- A line without parts takes one line. -/
theorem Stand.bare (c : Cursor) (depth : Nat) (s : String) :
    Stand c [⟨indented depth s, []⟩] (c.advance (depth * indentWidth + s.utf8ByteSize)) := by
  refine .cons (by simp) ?_
  rw [utf8ByteSize_indented]
  exact .nil _

/-- Arguments stand where they are placed, whatever is before and after them on the line. -/
theorem standsIn_placeArguments {c : Cursor} {as : List Argument}
    (h : ∀ a ∈ as, a.span.IsUnassigned) (before after : String) :
    ∀ a ∈ placeArguments c before.utf8ByteSize as, a.part.StandsIn c
      (before ++ ", ".intercalate (as.map Argument.listing) ++ after) := by
  -- What is before the arguments grows by an argument and a separator in each step.
  induction as generalizing before with
  | nil => simp [placeArguments]
  | cons a as ih =>
    rw [List.forall_mem_cons] at h
    rw [placeArguments, List.forall_mem_cons]
    constructor
    · -- The label belongs to what comes before the value.
      obtain ⟨rest, hrest⟩ :
          ∃ rest, ", ".intercalate ((a :: as).map Argument.listing) = a.listing ++ rest := by
        rcases as with _ | ⟨b, as⟩
        · exact ⟨"", by simp⟩
        · exact ⟨_, by
            rw [List.map_cons, List.map_cons, String.intercalate_cons_cons, String.append_assoc]⟩
      refine ⟨before ++ a.label, rest ++ after, ?_, ?_⟩
      · simp only [hrest, Argument.listing_eq, Argument.part, String.append_assoc]
      · simp [Argument.part, Span.orElse_of_isUnassigned h.1]
    · rcases as with _ | ⟨b, as⟩
      · simp [placeArguments]
      · -- The text up to the comma and the space comes before the other arguments.
        have hsize : (before ++ a.listing ++ ", ").utf8ByteSize =
            before.utf8ByteSize + a.width + 2 := by
          have hcomma : ", ".utf8ByteSize = 2 := rfl
          simp [hcomma]
        have hrest := ih h.2 (before ++ a.listing ++ ", ")
        rw [hsize] at hrest
        rw [List.map_cons, List.map_cons, String.intercalate_cons_cons]
        simpa only [String.append_assoc, List.map_cons] using hrest

/-- An attribute and its arguments stand where they are placed. -/
theorem standsIn_placeAttribute {c : Cursor} {a : Attribute} (depth : Nat)
    (h : a.span.IsUnassigned) (hargs : ∀ x ∈ a.arguments, x.span.IsUnassigned) :
    ∀ part ∈ (placeAttribute c (depth * indentWidth) a).parts,
      part.StandsIn c (indented depth a.listing) := by
  rw [Attribute.parts, List.forall_mem_cons, List.forall_mem_map, listing_placeAttribute]
  constructor
  · refine Part.standsIn_of_eq_indented rfl ?_
    simp [placeAttribute, Span.orElse_of_isUnassigned h]
  · -- What comes before the arguments ends in an opening parenthesis.
    have hargs' := standsIn_placeArguments (c := c) hargs
      (indentation depth ++ "[" ++ a.name ++ "(") ")]"
    have hsize : (indentation depth ++ "[" ++ a.name ++ "(").utf8ByteSize =
        depth * indentWidth + a.name.utf8ByteSize + 2 := by
      have hopen : "[".utf8ByteSize = 1 := rfl
      have hparen : "(".utf8ByteSize = 1 := rfl
      simp only [String.utf8ByteSize_append, utf8ByteSize_indentation]
      omega
    rw [hsize] at hargs'
    simpa only [placeAttribute, indented_eq, Attribute.listing, String.append_assoc] using hargs'

variable {c : Cursor}

theorem stand_placeAttributes (depth : Nat) {as : List Attribute}
    (h : ∀ a ∈ as, a.span.IsUnassigned ∧ ∀ x ∈ a.arguments, x.span.IsUnassigned) :
    Stand c ((placeAttributes (depth * indentWidth) c as).1.map fun a =>
      ⟨indented depth a.listing, a.parts⟩) (placeAttributes (depth * indentWidth) c as).2 := by
  induction as generalizing c with
  | nil => exact .nil c
  | cons a as ih =>
    rw [List.forall_mem_cons] at h
    rw [placeAttributes, List.map_cons]
    refine .cons ?_ ?_
    · rw [listing_placeAttribute]
      exact standsIn_placeAttribute depth h.1.1 h.1.2
    · simpa using ih h.2

theorem stand_placeMembers (depth : Nat) {ms : List Member}
    (h : ∀ m ∈ ms, m.span.IsUnassigned) :
    Stand c ((placeMembers (depth * indentWidth) c ms).1.map fun m =>
      ⟨indented depth m.name, [m.part]⟩) (placeMembers (depth * indentWidth) c ms).2 := by
  induction ms generalizing c with
  | nil => exact .nil c
  | cons m ms ih =>
    rw [List.forall_mem_cons] at h
    rw [placeMembers, List.map_cons]
    refine .cons ?_ ?_
    · rw [List.forall_mem_singleton]
      refine Part.standsIn_of_eq_indented rfl ?_
      simp [Member.part, Span.orElse_of_isUnassigned h.1]
    · simpa using ih h.2

/-- The rows of a site stand on the lines that it is placed on. -/
theorem stand_placeSite (depth : Nat) {s : Site} (h : s.IsUnplaced) :
    Stand c (siteRows depth (placeSite depth c s).1) (placeSite depth c s).2 := by
  obtain ⟨hspan, hattributes, hmembers⟩ := Site.isUnplaced_iff.mp h
  -- The header and the opening brace have a line each, between the attributes and the members.
  refine .append (.append (stand_placeAttributes depth hattributes)
    (.cons ?_ (.bare _ depth "\x7b"))) ?_
  · rw [List.forall_mem_singleton]
    refine Part.standsIn_of_eq_indented rfl ?_
    simp only [Site.headerPart, placeSite, Span.orElse_of_isUnassigned hspan,
      Site.utf8ByteSize_header]
    rfl
  · -- The members are indented by one more level.
    have hdepth : depth * indentWidth + indentWidth = (depth + 1) * indentWidth :=
      (Nat.succ_mul depth indentWidth).symm
    simp only [placeSite, hdepth, utf8ByteSize_indented, Site.utf8ByteSize_header]
    exact stand_placeMembers (depth + 1) hmembers

mutual

theorem stand_placeDeclaration (depth : Nat) (c : Cursor) :
    ∀ d, (∀ s ∈ Declaration.walk d, s.IsUnplaced) →
      Stand c (declarationRows depth (placeDeclaration depth c d).1)
        (placeDeclaration depth c d).2
  | .mk s nested, h => by
    rw [Declaration.walk, List.forall_mem_cons] at h
    simp only [placeDeclaration, declarationRows]
    exact .append (.append (stand_placeSite depth h.1)
      (stand_placeDeclarations (depth + 1) _ nested h.2)) (.bare _ depth "\x7d")

/-- The rows of declarations stand on the lines that they are placed on. -/
theorem stand_placeDeclarations (depth : Nat) (c : Cursor) :
    ∀ ds, (∀ s ∈ Declaration.walkAll ds, s.IsUnplaced) →
      Stand c (declarationsRows depth (placeDeclarations depth c ds).1)
        (placeDeclarations depth c ds).2
  | [], _ => by
    rw [placeDeclarations, declarationsRows]
    exact .nil c
  | d :: ds, h => by
    rw [Declaration.walkAll, List.forall_mem_append] at h
    simp only [placeDeclarations, declarationsRows]
    exact .append (stand_placeDeclaration depth c d h.1)
      (stand_placeDeclarations depth _ ds h.2)

end

end Layout

end BannerGen
