import BannerGen.Proofs.Accounting
import BannerGen.Proofs.Filling
import BannerGen.Proofs.SpanOrder
import Mathlib.Data.List.Flatten

/-!
# The walk and the order of locations

A run collects markers in the order of the walk, and at its end it sorts what it accepted for each
type by location. If all locations come from the layout, sorting changes nothing. Attributes have
lines of their own in the imagined text of a unit, and the walk goes through these from the first
line to the last; in different units, the paths decide. So attributes are in order along the walk
(`Forest.IsLayoutOf.pairwise_le`), and so are the markers among them and the requests that are
accepted of these.
-/

namespace BannerGen

open Declaration SiteId

/-! ### Attributes -/

namespace Site

/-- Where the attributes of a site stand. -/
def attributeSpans (s : Site) : List Span := s.attributes.map Attribute.span

theorem attributeSpans_subset (s : Site) : s.attributeSpans ⊆ s.spans := by
  intro x hx
  obtain ⟨a, ha, rfl⟩ := List.mem_map.mp hx
  apply List.mem_cons_of_mem
  apply List.mem_append_left
  -- The location of an attribute comes before those of its arguments.
  exact List.mem_flatMap.mpr ⟨a, ha, List.mem_cons_self⟩

/-- The markers of a site are among its attributes, in the same order. -/
theorem map_markers_sublist (s : Site) :
    (s.markers.map fun m => m.1.span).Sublist s.attributeSpans := by
  rw [markers, List.map_filterMap, attributeSpans]
  induction s.attributes with
  | nil => exact .slnil
  | cons a as ih =>
    rw [List.filterMap_cons, List.map_cons]
    cases a.marker? with
    | none => exact ih.cons a.span
    | some m => exact ih.cons_cons a.span

end Site

namespace SourceUnit

variable {u v : SourceUnit}

/-- Where the attributes of a unit stand, in the order of the walk. -/
def attributeSpans (u : SourceUnit) : List Span :=
  (walkAll u.declarations).flatMap Site.attributeSpans

theorem attributeSpans_subset (u : SourceUnit) : u.attributeSpans ⊆ u.spans := by
  intro x hx
  obtain ⟨s, hs, hx⟩ := List.mem_flatMap.mp hx
  exact List.mem_flatMap.mpr ⟨s, hs, s.attributeSpans_subset hx⟩

/-- Along the walk, an attribute ends before the next one begins. -/
theorem PointsInto.pairwise_stop_lt_start (h : v.PointsInto u) :
    v.attributeSpans.Pairwise fun x y => x.stop < y.start := by
  -- An attribute is the first part on its row, and its arguments come after it.
  let first (parts : List Part) : List Span := (parts.take 1).map Part.span
  have hrows : (v.rows.flatMap fun row => first row.parts).Pairwise fun x y =>
      x.stop < y.start := by
    rw [List.pairwise_flatMap]
    refine ⟨fun row _ => ?_, h.rows_apart.imp fun hapart x hx y hy => ?_⟩
    · rcases row.parts with _ | ⟨part, parts⟩ <;> simp [first]
    · obtain ⟨part, hpart, rfl⟩ := List.mem_map.mp hx
      obtain ⟨part', hpart', rfl⟩ := List.mem_map.mp hy
      exact hapart part (List.mem_of_mem_take hpart) part' (List.mem_of_mem_take hpart')
  rw [rows, Listing.flatMap_declarationsRows rfl 0] at hrows
  have hsite (s : Site) : s.attributes.flatMap (fun a => first a.parts) = s.attributeSpans :=
    List.map_eq_flatMap.symm
  simp only [hsite] at hrows
  rw [List.pairwise_flatMap] at hrows
  -- Headers and members are first on their rows too, and are left out here.
  refine List.pairwise_flatMap.mpr ⟨fun s hs => ?_, hrows.2.imp fun hapart x hx y hy => ?_⟩
  · exact (hrows.1 s hs).sublist (List.sublist_append_left _ _)
  · exact hapart x (List.mem_append_left _ hx) y (List.mem_append_left _ hy)

/-- In a unit that points into its text, attributes are in order along the walk. -/
theorem PointsInto.pairwise_le (h : v.PointsInto u) :
    v.attributeSpans.Pairwise fun x y => x.le y = true := by
  refine h.pairwise_stop_lt_start.imp_of_mem fun {x y} hx hy hlt => ?_
  obtain ⟨_, part, rfl, hat⟩ := h.exists_isAt (v.attributeSpans_subset hx)
  have hfile := h.file_eq y (v.attributeSpans_subset hy)
  have hstop := hat.stop_eq
  apply Span.le_of_start_lt
  · exact hat.file_eq.trans hfile.symm
  · omega

end SourceUnit

/-! ### Requests -/

namespace Session

/-- If occurrences stand in order, sorting the requests accepted for a type changes nothing. -/
theorem Reflects.inSourceOrder_eq {resolver : Resolver Id} {as : List Occurrence} {s : Session}
    (h : Reflects resolver as s)
    (hordered : (as.map fun a => a.attr.span).Pairwise fun x y => x.le y = true) {key : TypeKey}
    {e : Entry} (he : s.ledger.get? key = some e) : inSourceOrder e = e.requests := by
  apply Span.sortBy_of_pairwise
  rw [h.requests_eq he, List.map_map]
  exact hordered.sublist ((acceptedFor_sublist resolver as key).map _)

end Session

/-! ### Forests -/

namespace Forest

variable {f g : Forest}

/-- Where the attributes of a forest stand, in the order of the walk. -/
def attributeSpans (f : Forest) : List Span := f.walk.flatMap Site.attributeSpans

/-- The occurrences of a forest are among its attributes, in the same order. -/
theorem map_occurrences_sublist (f : Forest) :
    (f.occurrences.map fun a => a.attr.span).Sublist f.attributeSpans := by
  have hmarkers := congrArg (List.map fun m => m.2.1.span) f.map_occurrences
  rw [List.map_map, markers, List.map_flatMap] at hmarkers
  simp only [List.map_map] at hmarkers
  exact hmarkers ▸ List.Sublist.flatMap_right f.walk fun s _ => s.map_markers_sublist

/-- In a forest that came without locations and is laid out, attributes are in order along the
walk, if the paths of its units are. -/
theorem IsLayoutOf.pairwise_le (h : g.IsLayoutOf f) (hunplaced : ∀ s ∈ f.walk, s.IsUnplaced)
    (hpaths : (f.units.map SourceUnit.path).Pairwise (· < ·)) :
    g.attributeSpans.Pairwise fun x y => x.le y = true := by
  rw [walk_eq_flatMap, List.forall_mem_flatMap] at hunplaced
  -- Every unit has its attributes in order, in its own file, and the path that it came with.
  have hunits : List.Forall₂ (fun v u => (v.attributeSpans.Pairwise (fun x y => x.le y = true) ∧
      ∀ x ∈ v.attributeSpans, x.file = v.path) ∧ v.path = u.path) g.units f.units := by
    refine ((List.forall₂_and_left _ _).mpr ⟨hunplaced, h⟩).flip.imp fun v u ⟨hu, hv⟩ => ?_
    have hpoints := hv.pointsInto hu
    refine ⟨⟨hpoints.pairwise_le, fun x hx => ?_⟩, hv.path_eq⟩
    rw [hpoints.file_eq x (v.attributeSpans_subset hx), hv.path_eq]
  rw [List.forall₂_and_left] at hunits
  obtain ⟨hordered, hpath⟩ := hunits
  have hsame : g.units.map SourceUnit.path = f.units.map SourceUnit.path := by
    rwa [← List.forall₂_eq_eq_eq, List.forall₂_map_left_iff, List.forall₂_map_right_iff]
  rw [← hsame, List.pairwise_map] at hpaths
  rw [attributeSpans, walk_eq_flatMap, List.flatMap_assoc, List.pairwise_flatMap]
  refine ⟨fun v hv => (hordered v hv).1, hpaths.imp_of_mem fun {v w} hv hw hlt x hx y hy => ?_⟩
  -- The locations are in different files, so what begins first does not matter.
  apply Span.le_of_file_lt
  rwa [(hordered v hv).2 x hx, (hordered w hw).2 y hy]

/-- Take a forest that is laid out, at once or unit by unit, and that came without locations and
with units in the order of their paths. Sorting the requests accepted for a type by location leaves
them in the order in which they were accepted, which is the order of their markers along the walk.
So every fragment lists its members in the order of the walk, and of the markers accepted for its
type it leaves out just those whose font is unknown. -/
theorem generate_lists_members_in_walk_order (settings : Settings) (render : Renderer)
    (f g : Forest) (hlayout : f.layout = some g ∨ f.size ≤ last ∧ ofUnits f.units = g)
    (hunplaced : ∀ s ∈ f.walk, s.IsUnplaced)
    (hpaths : (f.units.map SourceUnit.path).Pairwise (· < ·)) :
    ∃ s, (Session.visitAll g.resolver {} g.subtrees).run = .ok s ∧
      g.generate settings render = .ok (s.finish settings render) ∧
      (∀ p ∈ s.ledger.entries, Session.inSourceOrder p.2 = p.2.requests) ∧
      ∀ fragment ∈ (s.finish settings render).fragments,
        ∃ (e : Entry) (markers : List (Site × Attribute × Marker)),
          s.ledger.get? fragment.key = some e ∧ markers.Sublist g.markers ∧
          e.requests = markers.map (fun (_, attr, m) => .ofMarker attr.span m) ∧
          fragment.members = markers.filterMap fun (_, _, m) =>
            (render m.fontName.value m.sourceText.value).map fun value =>
              { name := m.memberName.value, value } := by
  have hlaidOut : g.IsLayoutOf f := by
    rcases hlayout with hlayout | ⟨hsize, rfl⟩
    · exact isLayoutOf_of_layout hlayout
    · exact isLayoutOf_ofUnits hsize
  have hordered := (hlaidOut.pairwise_le hunplaced hpaths).sublist g.map_occurrences_sublist
  have hreflects := g.reflects_session
  have hentries : ∀ p ∈ g.session.ledger.entries, Session.inSourceOrder p.2 = p.2.requests :=
    fun p hp => hreflects.inSourceOrder_eq hordered (hreflects.get?_of_mem hp)
  refine ⟨g.session, g.run_visitAll_subtrees, generate_eq settings render g, hentries,
    fun fragment hfragment => ?_⟩
  obtain ⟨⟨key, e⟩, hp, rfl⟩ := List.mem_map.mp hfragment
  have he := hreflects.get?_of_mem hp
  -- The markers are those of the occurrences accepted for the type, in the order of the walk.
  refine ⟨e, (acceptedFor g.resolver g.occurrences key).map fun a => (a.site, a.attr, a.marker),
    he, ?_, ?_, ?_⟩
  · rw [← g.map_occurrences]
    exact (acceptedFor_sublist _ _ _).map _
  · rw [hreflects.requests_eq he, List.map_map]
    rfl
  · show Session.renderedMembers render (Session.inSourceOrder e) = _
    rw [hentries _ hp, hreflects.requests_eq he, Session.renderedMembers, List.filterMap_map,
      List.filterMap_map]
    rfl

/-- A type with markers in two units, one of them with an unknown font; a type nested in it has a
marker as well. -/
theorem generate_lists_members_in_walk_order_split :
    let type (name : String) : Declaration := (ofKind .classType name).markPartial
    let f : Forest := { units := [
      { path := "a.cs", declarations := [
        (((type "A").annotate (.ofTexts "M" "big" "x")).annotate (.ofTexts "U" "none" "x")).nest
          ((type "B").annotate (.ofTexts "N" "big" "y")),
        (type "A").annotate (.ofTexts "L" "big" "z")] },
      { path := "b.cs", declarations := [(type "A").annotate (.ofTexts "K" "big" "x")] }] }
    let render : Renderer := fun font text => if font = "big" then some text else none
    (∀ s ∈ f.walk, s.IsUnplaced) ∧ (f.units.map SourceUnit.path).Pairwise (· < ·) ∧
      ∃ (g : Forest) (s : Session), f.layout = some g ∧
        g.generate {} render = .ok (s.finish {} render) ∧
        s.ledger.entries.map (fun p => p.2.requests.map Request.memberName) =
          [["M", "U", "L", "K"]] ∧
        (∀ p ∈ s.ledger.entries, Session.inSourceOrder p.2 = p.2.requests) ∧
        (s.finish {} render).fragments.map (fun fr => fr.members.map RenderedMember.name) =
          [["M", "L", "K"]] := by
  intro type f render
  have hunplaced : ∀ s ∈ f.walk, s.IsUnplaced := by decide
  have hpaths : (f.units.map SourceUnit.path).Pairwise (· < ·) := by decide
  obtain ⟨g, hg⟩ := exists_layout (f := f) (by decide)
  obtain ⟨s, hs, hgenerate, hsorted, -⟩ :=
    generate_lists_members_in_walk_order {} render f g (.inl hg) hunplaced hpaths
  have hcompute : f.layout.map (fun g =>
      (Session.visitAll g.resolver {} g.subtrees).run.toOption.map fun s =>
        (s.ledger.entries.map (fun p => p.2.requests.map Request.memberName),
          s.ledger.entries.map fun p =>
            (Session.renderedMembers render p.2.requests).map RenderedMember.name)) =
      some (some ([["M", "U", "L", "K"]], [["M", "L", "K"]])) := by decide +kernel
  rw [hg, Option.map_some, hs, Option.some.injEq] at hcompute
  simp only [Except.toOption, Option.map_some, Option.some.injEq, Prod.mk.injEq] at hcompute
  refine ⟨hunplaced, hpaths, g, s, hg, hgenerate, hcompute.1, hsorted, ?_⟩
  rw [← hcompute.2, Session.finish, List.map_map]
  refine List.map_congr_left fun p hp => ?_
  exact congrArg (fun rs => (Session.renderedMembers render rs).map RenderedMember.name)
    (hsorted p hp)

end Forest

end BannerGen
