import BannerGen.Proofs.Layout
import Mathlib.Data.List.Induction

/-!
# Building a forest unit by unit

`Forest.addUnit` lays a forest out again with every unit that is added. The identities handed out
for a unit are free in the forest as it is then, but nothing keeps a unit that is added later from
coming with one of them. So building a forest gives every site an identity, and it gives no identity
to two sites exactly if no unit comes with an identity that is in the forest already
(`Forest.ofUnits_ids_nodup_iff`). That the units come with different identities is not enough
(`Forest.ofUnits_late_id_clash`). Once identities run out, the sites from some new one on stay as
they came (`Forest.stopsAt_addUnit`).
-/

namespace BannerGen

open Declaration SiteId

namespace SourceUnit

/-- The identities that the sites of a unit come with. -/
def givenIds (u : SourceUnit) : List Nat :=
  ((walkAll u.declarations).map Site.id).filter (· ≠ 0)

end SourceUnit

namespace Forest

variable {f : Forest} {u : SourceUnit} {units : List SourceUnit}

/-- The forest that is built by adding units one after the other. -/
def ofUnits (units : List SourceUnit) : Forest := units.foldl addUnit {}

/-- No unit comes with an identity that is in the forest of the units before it. -/
def BringsFreeIds (units : List SourceUnit) : Prop :=
  ∀ earlier u, earlier ++ [u] <+: units → ∀ id ∈ u.givenIds, id ∉ (ofUnits earlier).ids

theorem ofUnits_concat (units : List SourceUnit) (u : SourceUnit) :
    ofUnits (units ++ [u]) = (ofUnits units).addUnit u := by
  rw [ofUnits, List.foldl_append]
  rfl

theorem bringsFreeIds_concat :
    BringsFreeIds (units ++ [u]) ↔
      BringsFreeIds units ∧ ∀ id ∈ u.givenIds, id ∉ (ofUnits units).ids := by
  constructor
  · intro h
    refine ⟨fun earlier v hprefix => h earlier v ?_, h units u (List.prefix_refl _)⟩
    exact hprefix.trans (List.prefix_append units [u])
  · rintro ⟨hunits, hlast⟩ earlier v hprefix
    rcases List.prefix_concat_iff.mp hprefix with heq | hprefix
    · obtain ⟨rfl, hv⟩ := List.append_inj' heq rfl
      cases hv
      exact hlast
    · exact hunits earlier v hprefix

theorem size_concat (units : List SourceUnit) (u : SourceUnit) :
    size { units := units ++ [u] } = size { units } + (walkAll u.declarations).length := by
  rw [size, walk_concat, List.length_append]
  rfl

/-! ### One unit -/

/-- Adding a unit lays out the forest with the unit at its end, if there are enough
identities. -/
theorem layout_addUnit (hsize : f.size + (walkAll u.declarations).length ≤ last) :
    Forest.layout { units := f.units ++ [u] } = some (f.addUnit u) := by
  have hroom : size { units := f.units ++ [u] } ≤ last := by
    rw [size_concat]
    exact hsize
  obtain ⟨g, hg⟩ := exists_layout hroom
  rw [addUnit, layOut_of_layout hg, hg]

/-- If there are not enough identities, the sites from some new one on stay as they came. -/
theorem stopsAt_addUnit (h : Forest.layout { units := f.units ++ [u] } = none) :
    Layout.StopsAt (f.walk ++ walkAll u.declarations) (f.addUnit u).walk := by
  have hstops := stopsAt_of_layout h
  rwa [walk_concat] at hstops

theorem size_addUnit (hsize : f.size + (walkAll u.declarations).length ≤ last) :
    (f.addUnit u).size = f.size + (walkAll u.declarations).length := by
  -- Sites are neither added nor lost, so any property of theirs comes as often as before.
  have hlen := congrArg List.length
    (map_walk_layout (p := fun _ => ()) (fun _ _ => rfl) (fun _ _ _ => rfl) (layout_addUnit hsize))
  rw [List.length_map, List.length_map] at hlen
  exact hlen.trans (size_concat f.units u)

/-- After a unit is added to a forest whose sites have identities, no identity is repeated exactly
if none was before, the unit repeats none, and it comes with none that is in the forest. -/
theorem nodup_ids_addUnit (hsize : f.size + (walkAll u.declarations).length ≤ last)
    (hf : ∀ s ∈ f.walk, s.id ≠ 0) :
    (f.addUnit u).ids.Nodup ↔
      f.ids.Nodup ∧ u.givenIds.Nodup ∧ ∀ id ∈ u.givenIds, id ∉ f.ids := by
  obtain ⟨fresh, hfills⟩ := fills_ids (layout_addUnit hsize)
  have hids : Forest.ids { units := f.units ++ [u] } =
      f.ids ++ (walkAll u.declarations).map Site.id := by
    rw [ids, walk_concat, List.map_append]
    rfl
  have hkept : f.ids.filter (· ≠ 0) = f.ids := by
    rw [List.filter_eq_self]
    intro id hid
    obtain ⟨s, hs, rfl⟩ := List.mem_map.mp hid
    simpa using hf s hs
  have hgiven : (Forest.ids { units := f.units ++ [u] }).filter (· ≠ 0) = f.ids ++ u.givenIds := by
    rw [hids, List.filter_append, hkept]
    rfl
  -- The new identities are never in the way.
  have hfresh : ∀ id ∈ f.ids ++ u.givenIds, ∀ new ∈ fresh, id ≠ new := by
    rintro id hid new hnew rfl
    rw [← hgiven] at hid
    exact (hfills.free id hnew).1 (List.mem_filter.mp hid).1
  rw [hfills.perm.nodup_iff, hgiven, List.nodup_append, List.nodup_append]
  constructor
  · rintro ⟨⟨hnodup, hunit, hapart⟩, _, _⟩
    exact ⟨hnodup, hunit, fun id hid hmem => hapart id hmem id hid rfl⟩
  · rintro ⟨hnodup, hunit, hapart⟩
    refine ⟨⟨hnodup, hunit, ?_⟩, hfills.nodup, hfresh⟩
    rintro id hid given hmem rfl
    exact hapart id hmem hid

/-! ### All units -/

theorem size_ofUnits (hsize : size { units } ≤ last) : (ofUnits units).size = size { units } := by
  induction units using List.reverseRecOn with
  | nil => rfl
  | append_singleton units u ih =>
    rw [size_concat] at hsize
    have hbefore := ih (by omega)
    rw [ofUnits_concat, size_addUnit (by omega), size_concat, hbefore]

/-- A forest that is built unit by unit is the layout of some forest. -/
theorem exists_layout_eq_ofUnits (hsize : size { units } ≤ last) :
    ∃ f : Forest, f.layout = some (ofUnits units) := by
  rcases units.eq_nil_or_concat with rfl | ⟨units, u, rfl⟩
  · exact ⟨{}, rfl⟩
  · rw [List.concat_eq_append, size_concat] at hsize
    rw [List.concat_eq_append, ofUnits_concat]
    refine ⟨_, layout_addUnit ?_⟩
    rw [size_ofUnits (by omega)]
    exact hsize

theorem id_ne_zero_of_mem_ofUnits (hsize : size { units } ≤ last) :
    ∀ s ∈ (ofUnits units).walk, s.id ≠ 0 := by
  obtain ⟨f, hf⟩ := exists_layout_eq_ofUnits hsize
  exact id_ne_zero_of_layout hf

/-- Building a forest repeats no identity exactly if no unit does by itself, and no unit comes with
an identity that is in the forest already. -/
theorem nodup_ids_ofUnits (hsize : size { units } ≤ last) :
    (ofUnits units).ids.Nodup ↔ (∀ u ∈ units, u.givenIds.Nodup) ∧ BringsFreeIds units := by
  induction units using List.reverseRecOn with
  | nil =>
    have hnone : BringsFreeIds [] := fun earlier u hprefix => by simp at hprefix
    exact iff_of_true List.nodup_nil ⟨by simp, hnone⟩
  | append_singleton units u ih =>
    rw [size_concat] at hsize
    have hroom : (ofUnits units).size + (walkAll u.declarations).length ≤ last := by
      rw [size_ofUnits (by omega)]
      exact hsize
    rw [ofUnits_concat, nodup_ids_addUnit hroom (id_ne_zero_of_mem_ofUnits (by omega)),
      ih (by omega), bringsFreeIds_concat, List.forall_mem_append, List.forall_mem_singleton]
    tauto

/-- Let units come with identities that are all different, and let there be fewer sites than
identities. Building a forest of them gives every site an identity. It gives no identity to two
sites exactly if no unit comes with an identity that, by then, is in the forest of the units before
it. -/
theorem ofUnits_ids_nodup_iff (units : List SourceUnit) (hsize : size { units } < last)
    (hgiven : (units.flatMap SourceUnit.givenIds).Nodup) :
    (∀ s ∈ (ofUnits units).walk, s.id ≠ 0) ∧
      (((ofUnits units).walk.map Site.id).Nodup ↔ BringsFreeIds units) := by
  refine ⟨id_ne_zero_of_mem_ofUnits (by omega), ?_⟩
  have hunits : ∀ u ∈ units, u.givenIds.Nodup := (List.nodup_flatMap.mp hgiven).1
  rw [show (ofUnits units).walk.map Site.id = (ofUnits units).ids from rfl,
    nodup_ids_ofUnits (by omega), and_iff_right hunits]

/-- After a unit with the greatest identity comes one without, which is given the first identity,
and then one with another identity. -/
theorem ofUnits_ids_nodup_iff_greatest :
    let units : List SourceUnit :=
      [{ path := "a.cs", declarations := [(ofKind .classType "A").withId last] },
        { path := "b.cs", declarations := [ofKind .classType "B"] },
        { path := "c.cs", declarations := [(ofKind .classType "C").withId 5] }]
    size { units } < last ∧ (units.flatMap SourceUnit.givenIds).Nodup ∧
      (ofUnits units).ids = [last, 1, 5] ∧ BringsFreeIds units := by
  intro units
  have hsize : size { units } < last := by decide
  have hgiven : (units.flatMap SourceUnit.givenIds).Nodup := by decide
  have hids : (ofUnits units).ids = [last, 1, 5] := by decide
  refine ⟨hsize, hgiven, hids, (ofUnits_ids_nodup_iff units hsize hgiven).2.mp ?_⟩
  change (ofUnits units).ids.Nodup
  rw [hids]
  decide

/-- The first unit comes without an identity and is given the first one. The second unit comes with
the first identity, so two sites have it, although the units come with different identities. -/
theorem ofUnits_late_id_clash :
    let units : List SourceUnit :=
      [{ path := "a.cs", declarations := [ofKind .classType "A"] },
        { path := "b.cs", declarations := [(ofKind .classType "B").withId 1] }]
    size { units } < last ∧ (units.flatMap SourceUnit.givenIds).Nodup ∧
      (ofUnits units).walk.map Site.id = [1, 1] ∧
      ¬ ((ofUnits units).walk.map Site.id).Nodup := by
  decide

end Forest

end BannerGen
