import BannerGen.Proofs.Bare
import BannerGen.Proofs.Building
import BannerGen.Proofs.Listing

/-!
# What the layout of a forest fills in

Where something stands in the imagined text depends on names, values and nesting, which a bare
forest has too. So the locations that are filled in are those of the bare forest
(`Forest.IsLayoutOf.filled`): they do not depend on the identities and locations that came with the
forest, nor on the other units.

From this follow the two main results. The layout fills in what is missing and changes nothing else
(`Forest.layout_fills_missing`). And it is stable: a forest that is laid out stays as it is, also
when a unit is added to it (`Forest.layout_stable`).
-/

namespace BannerGen

open Declaration SiteId

/-! ### Locations -/

namespace Span

/-- The locations of `filled` are those of `given`, with the one of `supply` at the same place for
each that is not known. -/
inductive Filled : (given supply filled : List Span) → Prop
  /-- No locations are filled in. -/
  | nil : Filled [] [] []
  /-- The first location stays or is filled in, and so are the others. -/
  | cons (s x : Span) {given supply filled : List Span} (h : Filled given supply filled) :
    Filled (s :: given) (x :: supply) (s.orElse x :: filled)

namespace Filled

variable {given supply filled given' supply' filled' : List Span}

theorem append (h : Filled given supply filled) (h' : Filled given' supply' filled') :
    Filled (given ++ given') (supply ++ supply') (filled ++ filled') := by
  induction h with
  | nil => exact h'
  | cons s x _ ih => exact .cons s x ih

/-- What is filled in is known from what is given and what is supplied. -/
theorem unique (h : Filled given supply filled) (h' : Filled given supply filled') :
    filled = filled' := by
  induction h generalizing filled' with
  | nil =>
    cases h'
    rfl
  | cons s x _ ih =>
    cases h' with
    | cons _ _ h' => rw [ih h']

/-- A location that is not known is the one supplied at its place. -/
theorem getElem?_eq (h : Filled given supply filled) {i : Nat} {s : Span}
    (hs : given[i]? = some s) (hmissing : s.IsUnassigned) :
    ∃ x, supply[i]? = some x ∧ filled[i]? = some x := by
  induction h generalizing i with
  | nil => cases hs
  | cons t x _ ih =>
    rcases i with _ | i
    · obtain rfl : t = s := by simpa using hs
      exact ⟨x, rfl, by rw [orElse_of_isUnassigned hmissing]; rfl⟩
    · exact ih hs

/-- Known locations stay, and the others get the file of those supplied. -/
theorem forall₂ {file : String} (h : Filled given supply filled)
    (hfile : ∀ x ∈ supply, x.file = file) :
    List.Forall₂ (fun s t => if s.IsUnassigned then t.file = file else t = s) given filled := by
  induction h with
  | nil => exact .nil
  | cons s x _ ih =>
    rw [List.forall_mem_cons] at hfile
    refine .cons ?_ (ih hfile.2)
    unfold orElse
    split
    · exact hfile.1
    · rfl

/-- No location stays unknown if none of those supplied is. -/
theorem not_isUnassigned (h : Filled given supply filled)
    (hsupply : ∀ x ∈ supply, ¬ x.IsUnassigned) : ∀ t ∈ filled, ¬ t.IsUnassigned := by
  induction h with
  | nil => simp
  | cons s x _ ih =>
    rw [List.forall_mem_cons] at hsupply ⊢
    refine ⟨?_, ih hsupply.2⟩
    unfold orElse
    split
    · exact hsupply.1
    · assumption

end Filled

end Span

namespace Layout

theorem filled_placeArguments (c : Cursor) (column : Nat) (as : List Argument) :
    Span.Filled (as.map Argument.span)
      ((placeArguments c column (as.map Argument.bare)).map Argument.span)
      ((placeArguments c column as).map Argument.span) := by
  induction as generalizing column with
  | nil => exact .nil
  | cons a as ih => exact .cons a.span _ (ih _)

theorem filled_placeAttribute (c : Cursor) (indent : Nat) (a : Attribute) :
    Span.Filled a.spans (placeAttribute c indent a.bare).spans
      (placeAttribute c indent a).spans := by
  have hargs := filled_placeArguments c (indent + a.name.utf8ByteSize + 2) a.arguments
  -- The bare attribute is as wide, so it would be put at the same location.
  have hspan : (placeAttribute c indent a.bare).span = c.span indent a.width := by
    rw [← Attribute.width_bare]
    rfl
  unfold Attribute.spans
  rw [hspan]
  exact .cons a.span _ hargs

theorem filled_placeAttributes (indent : Nat) (c : Cursor) (as : List Attribute) :
    Span.Filled (as.flatMap Attribute.spans)
      ((placeAttributes indent c (as.map Attribute.bare)).1.flatMap Attribute.spans)
      ((placeAttributes indent c as).1.flatMap Attribute.spans) := by
  induction as generalizing c with
  | nil => exact .nil
  | cons a as ih =>
    simp only [List.map_cons, placeAttributes, Attribute.width_bare, List.flatMap_cons]
    exact (filled_placeAttribute c indent a).append (ih _)

theorem filled_placeMembers (indent : Nat) (c : Cursor) (ms : List Member) :
    Span.Filled (ms.map Member.span)
      ((placeMembers indent c (ms.map Member.bare)).1.map Member.span)
      ((placeMembers indent c ms).1.map Member.span) := by
  induction ms generalizing c with
  | nil => exact .nil
  | cons m ms ih => exact .cons m.span _ (ih _)

theorem filled_placeSite (depth : Nat) (c : Cursor) (s : Site) :
    Span.Filled s.spans (placeSite depth c s.bare).1.spans (placeSite depth c s).1.spans := by
  -- The header and the members of the bare site stand where those of the site would.
  have hwidth : s.bare.headerWidth = s.headerWidth := rfl
  have hattributes := snd_placeAttributes_bare (depth * indentWidth) c s.attributes
  simp only [Site.spans, placeSite, hwidth]
  simp only [Site.bare, hattributes]
  exact .cons s.span _ ((filled_placeAttributes _ c s.attributes).append
    (filled_placeMembers _ _ s.members))

mutual

theorem filled_placeDeclaration (depth : Nat) (c : Cursor) :
    ∀ d, Span.Filled ((walk d).flatMap Site.spans)
      ((walk (placeDeclaration depth c d.bare).1).flatMap Site.spans)
      ((walk (placeDeclaration depth c d).1).flatMap Site.spans)
  | .mk s nested => by
    simp only [bare, placeDeclaration, walk, List.flatMap_cons, snd_placeSite_bare]
    exact (filled_placeSite depth c s).append (filled_placeDeclarations (depth + 1) _ nested)

/-- Placing declarations fills in the locations that their bare forms are given. -/
theorem filled_placeDeclarations (depth : Nat) (c : Cursor) :
    ∀ ds, Span.Filled ((walkAll ds).flatMap Site.spans)
      ((walkAll (placeDeclarations depth c (bareAll ds)).1).flatMap Site.spans)
      ((walkAll (placeDeclarations depth c ds).1).flatMap Site.spans)
  | [] => .nil
  | d :: ds => by
    simp only [bareAll, placeDeclarations, walkAll, List.flatMap_append,
      snd_placeDeclaration_bare]
    exact (filled_placeDeclaration depth c d).append (filled_placeDeclarations depth _ ds)

end

end Layout

/-! ### Units -/

namespace SourceUnit

variable {u v : SourceUnit}

/-- A bare unit has no known location. -/
theorem isUnplaced_bare (u : SourceUnit) : u.bare.IsUnplaced := by
  intro s hs
  rw [bare, walkAll_bareAll] at hs
  obtain ⟨s, _, rfl⟩ := List.mem_map.mp hs
  -- Whatever had a location has the empty one now.
  have hempty : Span.IsUnassigned {} := rfl
  rw [Site.isUnplaced_iff]
  simp [Site.bare, Attribute.bare, Argument.bare, Member.bare, hempty]

/-- The unit is `u` with identities and locations filled in. -/
def IsLayoutOf (v u : SourceUnit) : Prop :=
  ∃ a r, Layout.identifyAll a u.declarations = some r ∧
    v = Layout.placeUnit { u with declarations := r.1 }

theorem IsLayoutOf.bare_eq (h : v.IsLayoutOf u) : v.bare = u.bare := by
  obtain ⟨a, r, hr, rfl⟩ := h
  simp only [bare, Layout.placeUnit, Layout.bareAll_placeDeclarations,
    Layout.bareAll_identifyAll u.declarations a r hr]

theorem IsLayoutOf.path_eq (h : v.IsLayoutOf u) : v.path = u.path := by
  obtain ⟨a, r, hr, rfl⟩ := h
  rfl

/-- If no location of a unit is known, the locations filled in point into its text. -/
theorem IsLayoutOf.pointsInto (h : v.IsLayoutOf u) (hu : u.IsUnplaced) : v.PointsInto u := by
  obtain ⟨a, r, hr, rfl⟩ := h
  exact .of_identifyAll hr (pointsInto_placeUnit (.of_identifyAll hr hu))

/-- The locations filled in are those of the bare unit. -/
theorem IsLayoutOf.filled (h : v.IsLayoutOf u) :
    Span.Filled u.spans (Layout.placeUnit u.bare).spans v.spans := by
  obtain ⟨a, r, hr, rfl⟩ := h
  have hbare := Layout.bareAll_identifyAll u.declarations a r hr
  have hspans := Layout.map_walkAll_identifyAll (g := Site.spans) (fun _ _ => rfl)
    u.declarations a r hr
  have hfilled := Layout.filled_placeDeclarations 0 { file := u.path } r.1
  rw [hbare, List.flatMap_def, hspans, ← List.flatMap_def] at hfilled
  exact hfilled

/-- If the unit has a path, all locations are known. -/
theorem IsLayoutOf.not_isUnassigned (h : v.IsLayoutOf u) (hpath : v.path ≠ "") :
    ∀ span ∈ v.spans, ¬ span.IsUnassigned := by
  apply h.filled.not_isUnassigned
  intro x hx
  rw [Span.IsUnassigned, (pointsInto_placeUnit u.isUnplaced_bare).file_eq x hx]
  show u.path ≠ ""
  rwa [← h.path_eq]

/-- A unit in which nothing is missing stays as it is. -/
theorem IsLayoutOf.eq_self (h : v.IsLayoutOf u) (hids : ∀ s ∈ walkAll u.declarations, s.id ≠ 0)
    (hplace : Layout.placeUnit u = u) : v = u := by
  obtain ⟨a, r, hr, rfl⟩ := h
  rw [Layout.identifyAll_of_forall_ne_zero a u.declarations hids] at hr
  cases hr
  exact hplace

end SourceUnit

/-! ### Forests -/

namespace Forest

variable {f g : Forest} {u : SourceUnit} {units : List SourceUnit}

/-- The units of the forest are those of `f` with identities and locations filled in. -/
def IsLayoutOf (g f : Forest) : Prop :=
  List.Forall₂ (fun u v => SourceUnit.IsLayoutOf v u) f.units g.units

theorem isLayoutOf_of_layout (h : f.layout = some g) : g.IsLayoutOf f := by
  rw [layout_eq] at h
  obtain ⟨e, he, rfl⟩ := Option.map_eq_some_iff.mp h
  obtain ⟨r, hr, rfl⟩ := Option.map_eq_some_iff.mp he
  show List.Forall₂ _ f.units (r.1.map Layout.placeUnit)
  rw [List.forall₂_map_right_iff]
  refine (Layout.forall₂_identifyUnits f.units _ r hr).imp ?_
  rintro u _ ⟨ids, r, hr, rfl⟩
  exact ⟨ids, r, hr, rfl⟩

theorem IsLayoutOf.bare_eq (h : g.IsLayoutOf f) : g.bare = f.bare := by
  have hunits : f.units.map SourceUnit.bare = g.units.map SourceUnit.bare := by
    rw [← List.forall₂_eq_eq_eq, List.forall₂_map_left_iff, List.forall₂_map_right_iff]
    exact h.imp fun u v hv => hv.bare_eq.symm
  rw [bare, bare, hunits]

/-- If every unit has a path, all locations are known. -/
theorem IsLayoutOf.not_isUnassigned (h : g.IsLayoutOf f) (hpath : ∀ u ∈ g.units, u.path ≠ "") :
    ∀ span ∈ g.spans, ¬ span.IsUnassigned := by
  rw [spans_eq_flatMap, List.forall_mem_flatMap]
  intro v hv
  -- The unit is the layout of the one at the same place.
  obtain ⟨⟨i, hi⟩, rfl⟩ := List.get_of_mem hv
  have hunit := h.get (Nat.lt_of_lt_of_eq hi h.length_eq.symm) hi
  exact hunit.not_isUnassigned (hpath _ hv)

/-- The locations filled in are those that the bare forest is given. -/
theorem IsLayoutOf.filled (h : g.IsLayoutOf f) :
    Span.Filled f.spans f.bare.locate.spans g.spans := by
  rw [spans_eq_flatMap, spans_eq_flatMap, spans_eq_flatMap, locate, bare, List.map_map,
    List.flatMap_map]
  -- Units are filled in one by one, so what holds of each holds of all.
  unfold IsLayoutOf at h
  generalize f.units = us at h
  generalize g.units = vs at h
  induction h with
  | nil => exact .nil
  | cons hv _ ih => exact hv.filled.append ih

theorem locate_of_layout (h : f.layout = some g) : g.locate = g := by
  rw [layout_eq] at h
  obtain ⟨e, _, rfl⟩ := Option.map_eq_some_iff.mp h
  exact locate_locate e

/-- In a forest that is laid out, nothing is missing in any unit. -/
theorem eq_of_isLayoutOf_of_layout (h : f.layout = some g) {v w : SourceUnit} (hw : w ∈ g.units)
    (hv : v.IsLayoutOf w) : v = w := by
  apply hv.eq_self
  · intro s hs
    apply id_ne_zero_of_layout h
    rw [walk_eq_flatMap]
    exact List.mem_flatMap.mpr ⟨w, hw, hs⟩
  · have hlocate : g.units.map Layout.placeUnit = g.units :=
      congrArg Forest.units (locate_of_layout h)
    exact List.map_inj_left.mp (hlocate.trans (List.map_id g.units).symm) w hw

/-- Adding a unit to a forest that is laid out lays out the unit, and leaves the others as they
are. -/
theorem exists_units_addUnit (h : f.layout = some g)
    (hsize : g.size + (walkAll u.declarations).length ≤ last) :
    ∃ v, (g.addUnit u).units = g.units ++ [v] ∧ v.IsLayoutOf u := by
  have hunits := (isLayoutOf_of_layout (layout_addUnit hsize)).flip
  -- The units of the larger forest are cut into those that were there and the new one.
  have hfirst := List.forall₂_take_append _ _ _ hunits
  have hlast := List.forall₂_drop_append _ _ _ hunits
  rw [List.forall₂_cons_right_iff] at hlast
  obtain ⟨v, vs, hv, hvs, hdrop⟩ := hlast
  rw [List.forall₂_nil_right_iff] at hvs
  -- Nothing is missing in the units that were there, so they are laid out as they are.
  have htake : (g.addUnit u).units.take g.units.length = g.units := by
    have hboth := (List.forall₂_and_left _ _).mpr
      ⟨fun w hw v => eq_of_isLayoutOf_of_layout (v := v) h hw, hfirst.flip⟩
    rw [eq_comm, ← List.forall₂_eq_eq_eq]
    exact hboth.imp fun w v ⟨heq, hv⟩ => (heq v hv).symm
  refine ⟨v, ?_, hv⟩
  rw [← List.take_append_drop g.units.length (g.addUnit u).units, htake, hdrop, hvs]

theorem layout_ofUnits (hsize : size { units } ≤ last) :
    (ofUnits units).layout = some (ofUnits units) := by
  obtain ⟨f, hf⟩ := exists_layout_eq_ofUnits hsize
  exact layout_of_layout hf

/-- Building a forest unit by unit lays out each unit. -/
theorem isLayoutOf_ofUnits (hsize : size { units } ≤ last) :
    (ofUnits units).IsLayoutOf { units } := by
  induction units using List.reverseRecOn with
  | nil => exact .nil
  | append_singleton units u ih =>
    rw [size_concat] at hsize
    have hbefore : size { units } ≤ last := by omega
    have hroom : (ofUnits units).size + (walkAll u.declarations).length ≤ last := by
      rw [size_ofUnits hbefore]
      exact hsize
    obtain ⟨v, hunits, hv⟩ := exists_units_addUnit (layout_ofUnits hbefore) hroom
    rw [ofUnits_concat, IsLayoutOf, hunits]
    exact List.rel_append (ih hbefore) (.cons hv .nil)

/-! ### Filling in -/

/-- A forest with no more sites than identities can be laid out. The layout keeps the forest but for
identities and locations, which together with the rest say all about it. Identities that are given
stay, and so do locations that are known; sites without an identity get one, and parts without a
known location get one in the file of their unit. The identities handed out differ from each other
and from all that were given, so no identity is repeated if none was given twice. -/
theorem layout_fills_missing (g : Forest) (hsize : g.size ≤ last) :
    ∃ f, g.layout = some f ∧
      f.bare = g.bare ∧
      (∀ f' : Forest, f'.bare = f.bare → f'.ids = f.ids → f'.spans = f.spans → f' = f) ∧
      List.Forall₂ (fun i j => if i = 0 then IsId j else j = i) g.ids f.ids ∧
      List.Forall₂ (fun u v => List.Forall₂
        (fun s t => if s.IsUnassigned then t.file = u.path else t = s) u.spans v.spans)
        g.units f.units ∧
      (∀ s ∈ f.walk, s.id ≠ 0) ∧
      (Allocator.handedOut g.ids f.ids).Nodup ∧
      (∀ id ∈ Allocator.handedOut g.ids f.ids, id ∉ g.ids) ∧
      ((g.ids.filter (· ≠ 0)).Nodup → f.ids.Nodup) := by
  obtain ⟨f, hf⟩ := exists_layout hsize
  obtain ⟨fresh, hfills⟩ := fills_ids hf
  have hperm := hfills.perm_handedOut
  have hfree : ∀ id ∈ Allocator.handedOut g.ids f.ids, id ∉ g.ids := fun id hid =>
    (hfills.free id (hperm.mem_iff.mpr hid)).1
  refine ⟨f, hf, (isLayoutOf_of_layout hf).bare_eq, fun f' => eq_of_bare_eq, hfills.places, ?_,
    id_ne_zero_of_layout hf, hperm.nodup_iff.mp hfills.nodup, hfree, fun hgiven => ?_⟩
  · refine (isLayoutOf_of_layout hf).imp fun u v hv => hv.filled.forall₂ ?_
    exact (SourceUnit.pointsInto_placeUnit u.isUnplaced_bare).file_eq
  · -- The identities are those given and those handed out, which have nothing in common.
    rw [(Allocator.perm_append_handedOut hfills.places).nodup_iff, List.nodup_append]
    refine ⟨hgiven, hperm.nodup_iff.mp hfills.nodup, ?_⟩
    rintro id hid new hnew rfl
    exact hfree id hnew (List.mem_filter.mp hid).1

/-- A unit comes with the greatest identity twice, with the first one at its end, and with two sites
without an identity; one header has a location. -/
theorem layout_fills_missing_greatest :
    let host : Span := { file := "host.cs", start := 7, stop := 9, line := 2, column := 1 }
    let g : Forest := { units := [{
      path := "a.cs"
      declarations := [(ofKind .classType "A").withId last, (ofKind .classType "B").withSpan host,
        (ofKind .structType "C").withId last,
        (ofKind .classType "D").nest ((ofKind .classType "E").withId 1)] }] }
    g.size ≤ last ∧ g.ids = [last, 0, last, 0, 1] ∧
      ∃ f, g.layout = some f ∧ f.bare = g.bare ∧ f.ids = [last, 2, last, 3, 1] ∧
        f.spans.map Span.file = ["a.cs", "host.cs", "a.cs", "a.cs", "a.cs"] ∧
        Allocator.handedOut g.ids f.ids = [2, 3] ∧
        ∀ id ∈ Allocator.handedOut g.ids f.ids, id ∉ g.ids := by
  intro host g
  have hsize : g.size ≤ last := by decide
  obtain ⟨f, hf, hbare, -, -, -, -, -, hfree, -⟩ := layout_fills_missing g hsize
  have hcompute : g.layout.map (fun f => (f.ids, f.spans.map Span.file)) =
      some ([last, 2, last, 3, 1], ["a.cs", "host.cs", "a.cs", "a.cs", "a.cs"]) := by decide
  rw [hf, Option.map_some, Option.some.injEq, Prod.mk.injEq] at hcompute
  refine ⟨hsize, by decide, f, hf, hbare, hcompute.1, hcompute.2, ?_, hfree⟩
  rw [hcompute.1]
  decide

/-! ### Laying out again -/

/-- A forest with no more sites than identities can be laid out, and it stays as it is when it is
laid out again. A location that is filled in depends on no identity and on no other location: it is
the same for a forest that differs in these only. Adding a unit to a forest that is laid out leaves
its units as they are, and gives the unit the locations that it is given on its own. -/
theorem layout_stable (f : Forest) (hsize : f.size ≤ last) :
    (∃ g, f.layout = some g ∧ g.layout = some g) ∧
    (∀ f' g g' : Forest, f'.bare = f.bare → f.layout = some g → f'.layout = some g' →
      ∀ (i : Nat) (s s' : Span), f.spans[i]? = some s → f'.spans[i]? = some s' →
        s.IsUnassigned → s'.IsUnassigned → ∃ t, g.spans[i]? = some t ∧ g'.spans[i]? = some t) ∧
    ∀ (g : Forest) (u : SourceUnit), f.layout = some g →
      g.size + (walkAll u.declarations).length ≤ last →
      ∃ v w, (g.addUnit u).units = g.units ++ [v] ∧
        layout { units := [u] } = some { units := [w] } ∧ v.bare = w.bare ∧ v.spans = w.spans := by
  refine ⟨?_, ?_, ?_⟩
  · obtain ⟨g, hg⟩ := exists_layout hsize
    exact ⟨g, hg, layout_of_layout hg⟩
  · intro f' g g' hbare hg hg' i s s' hs hs' hmissing hmissing'
    -- Both locations come from the bare forest.
    obtain ⟨t, ht, hfilled⟩ := (isLayoutOf_of_layout hg).filled.getElem?_eq hs hmissing
    obtain ⟨t', ht', hfilled'⟩ := (isLayoutOf_of_layout hg').filled.getElem?_eq hs' hmissing'
    rw [hbare, ht, Option.some.injEq] at ht'
    subst ht'
    exact ⟨t, hfilled, hfilled'⟩
  · intro g u hg hroom
    obtain ⟨v, hunits, hv⟩ := exists_units_addUnit hg hroom
    have hown : size { units := [u] } ≤ last := by
      have hnone : size {} = 0 := rfl
      rw [← List.nil_append [u], size_concat, hnone]
      omega
    -- On its own the unit is laid out in the same way, since the other units have no part in it.
    obtain ⟨⟨ws⟩, hw⟩ := exists_layout hown
    obtain ⟨w, ws', hwu, hws', rfl⟩ := List.forall₂_cons_left_iff.mp (isLayoutOf_of_layout hw)
    rw [List.forall₂_nil_left_iff] at hws'
    subst hws'
    exact ⟨v, w, hunits, hw, hv.bare_eq.trans hwu.bare_eq.symm, hv.filled.unique hwu.filled⟩

/-- A forest whose only unit has no path, another one with other identities and locations, and a
unit that is added. The header of the first site has no location in either forest. -/
theorem layout_stable_unnamed :
    let host : Span := { file := "host.cs", start := 7, stop := 9, line := 2, column := 1 }
    let forest (a b : Declaration) : Forest := { units := [{ path := "", declarations := [a, b] }] }
    let f := forest (ofKind .classType "A") ((ofKind .classType "B").withId 4)
    let f' := forest ((ofKind .classType "A").withId 9) ((ofKind .classType "B").withSpan host)
    let u : SourceUnit := { path := "u.cs", declarations := [ofKind .classType "C"] }
    f.size ≤ last ∧ f'.bare = f.bare ∧
      ∃ g g', f.layout = some g ∧ g.layout = some g ∧ f'.layout = some g' ∧
        (∃ t, g.spans[0]? = some t ∧ g'.spans[0]? = some t) ∧
        ∃ v w, (g.addUnit u).units = g.units ++ [v] ∧
          layout { units := [u] } = some { units := [w] } ∧ v.spans = w.spans := by
  intro host forest f f' u
  have hsize : f.size ≤ last := by decide
  have hbare : f'.bare = f.bare := by decide
  obtain ⟨⟨g, hg, hagain⟩, hspans, hadd⟩ := layout_stable f hsize
  obtain ⟨⟨g', hg', -⟩, -, -⟩ := layout_stable f' (by decide)
  have hgsize : g.size = 2 := by
    have hcompute : f.layout.map size = some 2 := by decide
    simpa [hg] using hcompute
  obtain ⟨v, w, hunits, hw, -, hvw⟩ := hadd g u hg (by rw [hgsize]; decide)
  exact ⟨hsize, hbare, g, g', hg, hagain, hg',
    hspans f' g g' hbare hg hg' 0 {} {} (by decide) (by decide) rfl rfl, v, w, hunits, hw, hvw⟩

end Forest

end BannerGen
