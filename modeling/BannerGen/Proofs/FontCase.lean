import BannerGen.Proofs.FontTable
import BannerGen.Proofs.Generation
import BannerGen.Proofs.Recognition
import BannerGen.Proofs.Schedule

/-!
# The case of font names

Fonts are looked up without regard to the case of ASCII letters, so it does not matter in which
case a marker names its font. `Forest.foldFonts` writes the names of fonts in lower case, in markers
and nowhere else. Two forests with the same result differ in the case of these names only.

Folding keeps what is recognized as a marker (`Attribute.marker?_foldFont`), what sites resolve to,
and which occurrences are accepted (`rejection?_foldFont`). It changes a request in the name of its
font only, and a table renders both requests alike. So the fragments stay as they are
(`Forest.fragments_foldFonts`).
-/

namespace BannerGen

open FontTable

/-! ### Markers -/

/-- The literal in lower case. -/
def Literal.fold (l : Literal) : Literal := { l with value := foldName l.value }

/-- The value in lower case, if it is a text. -/
def ArgumentValue.fold : ArgumentValue → ArgumentValue
  | .text content => .text (foldName content)
  | .expression source => .expression source

/-- The argument at position `i` in lower case, if it is meant for the name of the font. -/
def Argument.foldFont (i : Nat) (x : Argument) : Argument :=
  if x.parameter? i = some .fontName then { x with value := x.value.fold } else x

/-- The attribute with the name of the font in lower case, if it is a marker. -/
def Attribute.foldFont (a : Attribute) : Attribute :=
  if a.marker? = none then a else { a with arguments := a.arguments.mapIdx Argument.foldFont }

/-- The marker with the name of the font in lower case. -/
def Marker.foldFont (m : Marker) : Marker := { m with fontName := m.fontName.fold }

namespace Argument

theorem parameter?_foldFont (x : Argument) (i : Nat) :
    (x.foldFont i).parameter? i = x.parameter? i := by
  rw [foldFont]
  split <;> rfl

theorem literal?_foldFont_of_eq {x : Argument} {i : Nat} (h : x.parameter? i = some .fontName) :
    (x.foldFont i).literal? = x.literal?.map Literal.fold := by
  obtain ⟨name, value, span⟩ := x
  rw [foldFont, if_pos h]
  cases value <;> rfl

theorem foldFont_of_ne {x : Argument} {i : Nat} (h : x.parameter? i ≠ some .fontName) :
    x.foldFont i = x := if_neg h

end Argument

/-- Folding the arguments folds the marker that they give. -/
theorem Marker.Binds.foldFont {xs : List Argument} {m : Marker} (h : Binds xs m) :
    Binds (xs.mapIdx Argument.foldFont) m.foldFont := by
  intro p
  obtain ⟨i, x, hx, hp, hl⟩ := h p
  refine ⟨i, x.foldFont i, ?_, (x.parameter?_foldFont i).trans hp, ?_⟩
  · rw [List.getElem?_mapIdx, hx, Option.map_some]
  · by_cases hfont : p = .fontName
    · subst hfont
      rw [Argument.literal?_foldFont_of_eq hp, hl]
      rfl
    · -- The arguments for the other parameters stay as they are.
      have hne : x.parameter? i ≠ some .fontName := by
        rw [hp]
        exact fun heq => hfont (Option.some.inj heq)
      rw [Argument.foldFont_of_ne hne, hl]
      cases p with
      | fontName => exact absurd rfl hfont
      | memberName => rfl
      | sourceText => rfl

/-- Folding an attribute folds the marker that it is. -/
theorem Attribute.marker?_foldFont (a : Attribute) :
    a.foldFont.marker? = a.marker?.map Marker.foldFont := by
  cases hmarker : a.marker? with
  | none => rw [foldFont, if_pos hmarker, hmarker, Option.map_none]
  | some m =>
    obtain ⟨hname, harguments⟩ := recognize_eq_recognized_iff.mp (marker?_eq_some_iff.mp hmarker)
    obtain ⟨hlength, hbinds⟩ := Marker.ofArguments_eq_ok_iff.mp harguments
    rw [foldFont, if_neg (by simp [hmarker]), Option.map_some, marker?_eq_some_iff,
      recognize_eq_recognized_iff]
    refine ⟨hname, Marker.ofArguments_eq_ok_iff.mpr ⟨?_, hbinds.foldFont⟩⟩
    rw [List.length_mapIdx, hlength]

theorem Attribute.span_foldFont (a : Attribute) : a.foldFont.span = a.span := by
  rw [foldFont]
  split <;> rfl

/-! ### Forests -/

/-- The site with the names of fonts in lower case. -/
def Site.foldFonts (s : Site) : Site :=
  { s with attributes := s.attributes.map Attribute.foldFont }

namespace Declaration

mutual

/-- The declaration with the names of fonts in lower case, at any depth. -/
def foldFonts : Declaration → Declaration
  | mk s nested => mk s.foldFonts (foldFontsAll nested)

/-- Several declarations with the names of fonts in lower case. -/
def foldFontsAll : List Declaration → List Declaration
  | [] => []
  | d :: ds => foldFonts d :: foldFontsAll ds

end

theorem foldFontsAll_eq_map (ds : List Declaration) : foldFontsAll ds = ds.map foldFonts := by
  induction ds with
  | nil => rfl
  | cons d ds ih => rw [foldFontsAll, ih, List.map_cons]

mutual

theorem subtrees_foldFonts : ∀ d, subtrees (foldFonts d) = (subtrees d).map foldFonts
  | mk s nested => by
    rw [foldFonts, subtrees, subtrees, subtreesAll_foldFontsAll, List.map_cons, foldFonts]

/-- The declarations inside folded declarations are the folded declarations. -/
theorem subtreesAll_foldFontsAll :
    ∀ ds, subtreesAll (foldFontsAll ds) = (subtreesAll ds).map foldFonts
  | [] => rfl
  | d :: ds => by
    rw [foldFontsAll, subtreesAll, subtreesAll, subtrees_foldFonts, subtreesAll_foldFontsAll,
      List.map_append]

end

mutual

theorem resolutions_foldFonts (container : Option TypeKey) :
    ∀ d, resolutions container (foldFonts d) = resolutions container d
  | mk s nested => by
    rw [foldFonts, resolutions, resolutions]
    exact congrArg (_ :: ·) (resolutionsAll_foldFontsAll _ nested)

/-- Declarations resolve to the same types. -/
theorem resolutionsAll_foldFontsAll (container : Option TypeKey) :
    ∀ ds, resolutionsAll container (foldFontsAll ds) = resolutionsAll container ds
  | [] => rfl
  | d :: ds => by
    rw [foldFontsAll, resolutionsAll, resolutionsAll, resolutions_foldFonts,
      resolutionsAll_foldFontsAll]

end

theorem site_foldFonts (d : Declaration) : d.foldFonts.site = d.site.foldFonts := by
  cases d
  rfl

theorem memberNames_foldFonts (d : Declaration) : d.foldFonts.memberNames = d.memberNames := by
  have hnames (ds : List Declaration) :
      (foldFontsAll ds).map (fun n => n.site.name) = ds.map fun n => n.site.name := by
    rw [foldFontsAll_eq_map, List.map_map]
    refine List.map_congr_left fun n _ => ?_
    rw [Function.comp_apply, site_foldFonts]
    rfl
  obtain ⟨s, nested⟩ := d
  exact congrArg (_ ++ ·) (hnames nested)

end Declaration

/-- The forest with the names of fonts in lower case. -/
def Forest.foldFonts (f : Forest) : Forest :=
  { units := f.units.map fun u =>
      { u with declarations := Declaration.foldFontsAll u.declarations } }

namespace Forest

theorem declarations_foldFonts (f : Forest) :
    f.foldFonts.declarations = Declaration.foldFontsAll f.declarations := by
  simp [foldFonts, declarations, Declaration.foldFontsAll_eq_map, List.flatMap_map,
    List.map_flatMap]

theorem subtrees_foldFonts (f : Forest) :
    f.foldFonts.subtrees = f.subtrees.map Declaration.foldFonts := by
  rw [subtrees, declarations_foldFonts, Declaration.subtreesAll_foldFontsAll]
  rfl

theorem existingMembers_foldFonts (f : Forest) (key : TypeKey) :
    f.foldFonts.existingMembers key = f.existingMembers key := by
  have hkey (d : Declaration) : d.foldFonts.site.key = d.site.key := by
    rw [Declaration.site_foldFonts]
    rfl
  unfold existingMembers
  rw [declarations_foldFonts, Declaration.foldFontsAll_eq_map, List.filter_map, List.flatMap_map]
  simp only [Function.comp_def, hkey, Declaration.memberNames_foldFonts]

/-- The answers of a forest do not depend on the names of fonts. -/
theorem resolver_foldFonts (f : Forest) : f.foldFonts.resolver = f.resolver := by
  have hresolve (id : Nat) : f.foldFonts.resolve? id = f.resolve? id := by
    rw [resolve?, resolve?, resolutions, resolutions, declarations_foldFonts,
      Declaration.resolutionsAll_foldFontsAll]
  unfold resolver
  simp only [lookup_types_index, hresolve, funext (membersOf_index _),
    funext f.existingMembers_foldFonts]

end Forest

/-! ### Occurrences -/

/-- The occurrence with the name of the font in lower case. -/
def Occurrence.foldFont (a : Occurrence) : Occurrence :=
  { a with site := a.site.foldFonts, attr := a.attr.foldFont, marker := a.marker.foldFont }

/-- The request with the name of the font in lower case. -/
def Request.foldFont (r : Request) : Request := { r with fontName := foldName r.fontName }

/-- The entry with the names of fonts in lower case. -/
def Entry.foldFonts (e : Entry) : Entry := { e with requests := e.requests.map Request.foldFont }

theorem Site.markers_foldFonts (s : Site) :
    s.foldFonts.markers = s.markers.map (Prod.map Attribute.foldFont Marker.foldFont) := by
  rw [markers, foldFonts, List.filterMap_map, markers, List.map_filterMap]
  refine List.filterMap_congr fun a _ => ?_
  rw [Function.comp_apply, Attribute.marker?_foldFont, Option.map_map, Option.map_map]
  rfl

/-- The occurrences of a folded forest are the folded occurrences. -/
theorem Forest.occurrences_foldFonts (f : Forest) :
    f.foldFonts.occurrences = f.occurrences.map Occurrence.foldFont := by
  rw [occurrences, resolver_foldFonts, subtrees_foldFonts, BannerGen.occurrences,
    List.flatMap_map, occurrences, BannerGen.occurrences, List.map_flatMap]
  refine List.flatMap_congr fun d _ => ?_
  obtain ⟨s, nested⟩ := d
  -- A forest tells declarations apart by their identities, which stay.
  have hresolve : (f.resolver.resolve (Declaration.mk s nested).foldFonts).run =
      (f.resolver.resolve (.mk s nested)).run := rfl
  rw [occurrencesAt, hresolve, occurrencesAt]
  cases (f.resolver.resolve (.mk s nested)).run with
  | error failure => rfl
  | ok type =>
    show s.foldFonts.markers.map _ = (s.markers.map _).map _
    simp only [Site.markers_foldFonts, List.map_map, Function.comp_def, Prod.map,
      Occurrence.ofMarker, Occurrence.foldFont]
    rfl

namespace Occurrence

variable (resolver : Resolver Id) (as : List Occurrence) (a : Occurrence)

theorem clashes_foldFont :
    a.foldFont.Clashes resolver (as.map foldFont) ↔ a.Clashes resolver as := by
  simp only [Clashes, List.mem_map, exists_exists_and_eq_and]
  rfl

/-- An occurrence is rejected for the same reason. -/
theorem rejection?_foldFont :
    a.foldFont.rejection? resolver (as.map foldFont) = a.rejection? resolver as := by
  have hspan : a.foldFont.attr.span = a.attr.span := a.attr.span_foldFont
  simp only [rejection?, clashes_foldFont, hspan]
  rfl

theorem request_foldFont : a.foldFont.request = a.request.foldFont := by
  rw [request, foldFont, Attribute.span_foldFont]
  rfl

end Occurrence

section Outcomes

open Occurrence

variable (resolver : Resolver Id) (as : List Occurrence) (key : TypeKey)

/-- The same occurrences are accepted. -/
theorem accepted_map_foldFont :
    accepted resolver (as.map foldFont) = (accepted resolver as).map foldFont := by
  induction as using List.reverseRecOn with
  | nil => rfl
  | append_singleton as a ih =>
    rw [List.map_append, List.map_singleton, accepted_concat, ih, rejection?_foldFont,
      accepted_concat, List.map_append]
    split <;> rfl

theorem acceptedFor_map_foldFont :
    acceptedFor resolver (as.map foldFont) key = (acceptedFor resolver as key).map foldFont := by
  rw [acceptedFor, accepted_map_foldFont, List.filter_map]
  -- Whether an occurrence is eligible for a type has nothing to do with its font.
  rfl

theorem eligibleKeys_map_foldFont : eligibleKeys (as.map foldFont) = eligibleKeys as := by
  rw [eligibleKeys, List.filter_map, List.map_map]
  rfl

theorem entryOf_map_foldFont (kind : TypeKind) :
    entryOf resolver (as.map foldFont) key kind = (entryOf resolver as key kind).foldFonts := by
  simp only [entryOf, Entry.foldFonts, acceptedFor_map_foldFont, List.map_map, Function.comp_def,
    request_foldFont]
  rfl

/-- The entry of a type changes in the names of fonts only. -/
theorem entryFor_map_foldFont :
    entryFor resolver (as.map foldFont) key = (entryFor resolver as key).map Entry.foldFonts := by
  rw [entryFor, eligibleFor, List.filter_map, List.head?_map, Option.map_map, entryFor,
    Option.map_map]
  simp only [Function.comp_def, entryOf_map_foldFont]
  rfl

end Outcomes

/-! ### Rendering -/

/-- A table does not see the case of the name of a font. -/
theorem FontTable.render_foldName (t : FontTable) (name : String) :
    t.render (foldName name) = t.render name := by
  unfold render
  rw [get?_congr t (foldName_foldName name)]

namespace Session

/-- Requests that differ in the case of the names of fonts are rendered alike. -/
theorem renderedMembers_map_foldFont (t : FontTable) (rs : List Request) :
    renderedMembers t.render (rs.map Request.foldFont) = renderedMembers t.render rs := by
  simp only [renderedMembers, List.filterMap_map, Function.comp_def, Request.foldFont,
    render_foldName]

theorem inSourceOrder_foldFonts (e : Entry) :
    inSourceOrder e.foldFonts = (inSourceOrder e).map Request.foldFont :=
  Span.sortBy_map Request.location Request.foldFont e.requests

end Session

/-- The fragments do not depend on the case of the names of fonts. -/
theorem Forest.fragments_foldFonts (f : Forest) (settings : Settings) (t : FontTable) :
    (f.foldFonts.session.finish settings t.render).fragments =
      (f.session.finish settings t.render).fragments := by
  have hfolded := f.foldFonts.reflects_session
  rw [resolver_foldFonts, occurrences_foldFonts] at hfolded
  rw [hfolded.finish_fragments, f.reflects_session.finish_fragments, eligibleKeys_map_foldFont]
  -- Type by type, the entries differ in the names of fonts only, and the table renders them alike.
  refine List.filterMap_congr fun key _ => ?_
  rw [entryFor_map_foldFont]
  cases entryFor f.resolver f.occurrences key with
  | none => rfl
  | some e =>
    simp only [Option.map_some, Session.inSourceOrder_foldFonts,
      Session.renderedMembers_map_foldFont]
    rfl

namespace FontTable

/-- A table of registered fonts renders a text in the font that was registered first under the
given name, up to the case of ASCII letters, and in no font if there is none. It contains the names
that it renders texts for, and lists the names in lower case in the order in which they were first
registered. What is registered later changes nothing for a name that is known. And the fragments of
forests that differ in the case of the names of fonts only are the same. -/
theorem first_registration_counts (fonts : List (String × (String → String))) :
    (∀ a b, foldName a = foldName b ↔ List.Forall₂ SameLetter a.toList b.toList) ∧
    (∀ q text, (ofList fonts).render q text =
      (fonts.find? fun f => foldName f.1 = foldName q).map fun f => f.2 text) ∧
    (∀ q text, (ofList fonts).render q text = none ↔ ∀ f ∈ fonts, foldName f.1 ≠ foldName q) ∧
    (∀ q text, (ofList fonts).contains q = ((ofList fonts).render q text).isSome) ∧
    (ofList fonts).names = (fonts.map fun f => foldName f.1).eraseDups ∧
    (ofList fonts).size = (fonts.map fun f => foldName f.1).eraseDups.length ∧
    (∀ more q, (ofList fonts).contains q = true → ∀ text,
      (ofList (fonts ++ more)).render q text = (ofList fonts).render q text) ∧
    ∀ (settings : Settings) (f g : Forest), f.foldFonts = g.foldFonts →
      ∃ output output', f.generate settings (ofList fonts).render = .ok output ∧
        g.generate settings (ofList fonts).render = .ok output' ∧
        output.fragments = output'.fragments := by
  refine ⟨fun a b => foldName_eq_iff, ?_, ?_, ?_, names_ofList fonts, ?_, ?_, ?_⟩
  · intro q text
    rw [render, get?_ofList, Option.map_map]
    rfl
  · intro q text
    simp [render, get?_ofList]
  · intro q text
    rw [render, Option.isSome_map]
    rfl
  · rw [← names_ofList, names, List.length_map]
    rfl
  · intro more q hknown text
    rw [contains, get?_ofList, Option.isSome_map] at hknown
    obtain ⟨f, hf⟩ := Option.isSome_iff_exists.mp hknown
    -- The font that is found first is found first among more fonts, too.
    rw [render, render, get?_ofList, get?_ofList, List.find?_append, hf, Option.some_or]
  · intro settings f g hfold
    refine ⟨_, _, Forest.generate_eq settings _ f, Forest.generate_eq settings _ g, ?_⟩
    rw [← Forest.fragments_foldFonts f, hfold, Forest.fragments_foldFonts g]

/-- Two fonts under one name, and one under a name that is not in ASCII. Two forests ask for the
first font in different cases, with arguments by name in another order. -/
theorem first_registration_counts_accented :
    let fonts : List (String × (String → String)) :=
      [("Big", fun text => text ++ "1"), ("bIG", fun text => text ++ "2"), ("É", fun text => text)]
    let forest (font : String) : Forest := { units := [{ path := "a.cs", declarations :=
      [((Declaration.ofKind .classType "A").markPartial.annotate
        { name := "GenerateFiggleText"
          arguments := [{ name := some "fontName", value := .text font },
            { name := some "memberName", value := .text "M" },
            { name := some "sourceText", value := .text "x" }] }).withId 1] }] }
    (ofList fonts).contains "BIG" = true ∧ (ofList fonts).render "BIG" "x" = some "x1" ∧
      (ofList (fonts ++ [("big", fun _ => "")])).render "BIG" "x" = some "x1" ∧
      (ofList fonts).render "é" "x" = none ∧ (ofList fonts).names = ["big", "É"] ∧
      (forest "Big").foldFonts = (forest "bIG").foldFonts ∧
      ∃ output output', (forest "Big").generate {} (ofList fonts).render = .ok output ∧
        (forest "bIG").generate {} (ofList fonts).render = .ok output' ∧
        output'.fragments = output.fragments ∧
        output.fragments.map Fragment.members = [[{ name := "M", value := "x1" }]] := by
  intro fonts forest
  obtain ⟨-, hrender, hnone, -, hnames, -, hmore, hfragments⟩ := first_registration_counts fonts
  have hknown : (ofList fonts).contains "BIG" = true := by decide +kernel
  have hfold : (forest "Big").foldFonts = (forest "bIG").foldFonts := by decide +kernel
  have hfirst : (ofList fonts).render "BIG" "x" = some "x1" :=
    (hrender _ _).trans (by decide +kernel)
  obtain ⟨output, output', houtput, houtput', heq⟩ := hfragments {} _ _ hfold
  have hmembers : ((forest "Big").generate {} (ofList fonts).render).toOption.map
      (·.fragments.map Fragment.members) = some [[{ name := "M", value := "x1" }]] := by
    decide +kernel
  rw [houtput] at hmembers
  refine ⟨hknown, hfirst, (hmore _ _ hknown _).trans hfirst, (hnone _ _).mpr (by decide +kernel),
    hnames.trans (by decide +kernel), hfold, output, output', houtput, houtput', heq.symm,
    Option.some.inj hmembers⟩

end FontTable

end BannerGen
