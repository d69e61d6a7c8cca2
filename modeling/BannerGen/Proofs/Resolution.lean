import BannerGen.Proofs.ForestIndex
import Mathlib.Data.Set.Card

/-!
# Resolving the sites of a forest

`Forest.DeclaredIn` says where a declaration of a forest stands: in a unit, or directly inside
another declaration. The placements that resolution goes by are exactly these
(`Forest.mem_placements_iff`), so a site is resolved inside the type of its parent and no other.

What a forest says about a type depends on the declarations that are not inside another one, but
not on their order: members are listed in increasing order, so they are the same list for every
forest that has the same declarations (`Forest.existingMembers_eq_of_perm`).
-/

namespace BannerGen

open Declaration

/-! ### Parents -/

namespace Declaration

variable {d : Declaration} {ds : List Declaration} {container : Option TypeKey}

theorem placements_subset_placementsAll (hd : d ∈ ds) :
    placements container d ⊆ placementsAll container ds := by
  induction ds with
  | nil => cases hd
  | cons first rest ih =>
    intro p hp
    rw [placementsAll, List.mem_append]
    rcases List.mem_cons.mp hd with rfl | hd
    · exact .inl hp
    · exact .inr (ih hd hp)

theorem mem_placements_self (container : Option TypeKey) (d : Declaration) :
    (d.site, container) ∈ placements container d := by
  obtain ⟨s, nested⟩ := d
  rw [placements]
  exact List.mem_cons_self

/-- What is declared inside a declaration is placed inside its type. -/
theorem placementsAll_nested_subset (container : Option TypeKey) (d : Declaration) :
    placementsAll (some d.site.key) d.nested ⊆ placements container d := by
  obtain ⟨s, nested⟩ := d
  intro p hp
  rw [placements]
  exact List.mem_cons_of_mem _ hp

end Declaration

namespace Forest

variable {f f' : Forest} {d : Declaration} {outer : Option Declaration}

/-- The forest has the declaration in the given place: directly inside the declaration `outer`, or
inside no other one. -/
inductive DeclaredIn (f : Forest) : (outer : Option Declaration) → Declaration → Prop
  /-- A declaration of a unit is inside no other one. -/
  | unit {u : SourceUnit} {d : Declaration} (hu : u ∈ f.units) (hd : d ∈ u.declarations) :
    DeclaredIn f none d
  /-- A nested declaration is inside its parent. -/
  | nested {place : Option Declaration} {outer d : Declaration} (h : DeclaredIn f place outer)
    (hd : d ∈ outer.nested) : DeclaredIn f (some outer) d

theorem declaredIn_none_iff : f.DeclaredIn none d ↔ d ∈ f.declarations := by
  rw [declarations, List.mem_flatMap]
  constructor
  · rintro ⟨hu, hd⟩
    exact ⟨_, hu, hd⟩
  · rintro ⟨u, hu, hd⟩
    exact .unit hu hd

/-- The type that a declaration in the given place is declared in. -/
def containerOf (outer : Option Declaration) : Option TypeKey := outer.map fun o => o.site.key

theorem DeclaredIn.placements_subset (h : f.DeclaredIn outer d) :
    Declaration.placements (containerOf outer) d ⊆ f.placements := by
  induction h with
  | unit hu hd =>
    exact placements_subset_placementsAll (declaredIn_none_iff.mp (.unit hu hd))
  | nested h hd ih =>
    intro p hp
    apply ih
    apply placementsAll_nested_subset
    exact placements_subset_placementsAll hd hp

-- Going down the trees, the place of what is nested changes from `outer` to the declaration itself.
mutual

theorem exists_declaredIn {p : Site × Option TypeKey} {outer : Option Declaration} :
    ∀ d, f.DeclaredIn outer d → p ∈ Declaration.placements (containerOf outer) d →
      ∃ outer d, f.DeclaredIn outer d ∧ p = (d.site, containerOf outer)
  | .mk s nested, h, hp => by
    rw [Declaration.placements, List.mem_cons] at hp
    rcases hp with rfl | hp
    · exact ⟨outer, .mk s nested, h, rfl⟩
    · exact exists_declaredIn_of_mem_all nested (fun d hd => .nested h hd) hp

/-- What is placed among declarations of a forest is a declaration of the forest in its place. -/
theorem exists_declaredIn_of_mem_all {p : Site × Option TypeKey} {outer : Option Declaration} :
    ∀ ds, (∀ d ∈ ds, f.DeclaredIn outer d) →
      p ∈ Declaration.placementsAll (containerOf outer) ds →
      ∃ outer d, f.DeclaredIn outer d ∧ p = (d.site, containerOf outer)
  | [], _, hp => by
    rw [Declaration.placementsAll] at hp
    cases hp
  | d :: ds, h, hp => by
    rw [Declaration.placementsAll, List.mem_append] at hp
    rcases hp with hp | hp
    · exact exists_declaredIn d (h d List.mem_cons_self) hp
    · exact exists_declaredIn_of_mem_all ds (fun d hd => h d (List.mem_cons_of_mem _ hd)) hp

end

/-- The placements are the declarations of the forest, each in its place. -/
theorem mem_placements_iff {p : Site × Option TypeKey} :
    p ∈ f.placements ↔ ∃ outer d, f.DeclaredIn outer d ∧ p = (d.site, containerOf outer) := by
  constructor
  · intro hp
    change p ∈ Declaration.placementsAll (containerOf none) f.declarations at hp
    exact exists_declaredIn_of_mem_all f.declarations (fun d => declaredIn_none_iff.mpr) hp
  · rintro ⟨outer, d, h, rfl⟩
    exact h.placements_subset (mem_placements_self _ d)

theorem mem_walk_iff {s : Site} : s ∈ f.walk ↔ ∃ outer d, f.DeclaredIn outer d ∧ d.site = s := by
  rw [← map_fst_placements, List.mem_map]
  simp only [mem_placements_iff]
  constructor
  · rintro ⟨_, ⟨outer, d, h, rfl⟩, rfl⟩
    exact ⟨outer, d, h, rfl⟩
  · rintro ⟨outer, d, h, rfl⟩
    exact ⟨_, ⟨outer, d, h, rfl⟩, rfl⟩

/-! ### Reordering -/

/-- The forest has the units of `f` in any order, each with its declarations in any order. -/
def Reorders (f' f : Forest) : Prop :=
  ∃ units, units.Perm f.units ∧ List.Forall₂ (fun u v =>
    v.path = u.path ∧ v.declarations.Perm u.declarations) units f'.units

theorem Reorders.declarations_perm (h : f'.Reorders f) : f'.declarations.Perm f.declarations := by
  obtain ⟨units, hperm, hunits⟩ := h
  refine List.Perm.trans ?_ (hperm.flatMap_right SourceUnit.declarations)
  -- The order of the units does not matter any more, only that of their declarations.
  clear hperm
  unfold declarations
  generalize f'.units = vs at hunits
  induction hunits with
  | nil => exact .refl _
  | cons hv _ ih => exact hv.2.append ih

theorem existingMembers_eq_of_perm (h : f'.declarations.Perm f.declarations) (key : TypeKey) :
    f'.existingMembers key = f.existingMembers key :=
  sortedNames_eq_iff.mpr fun _ => ((h.filter _).flatMap_right _).mem_iff

theorem nodup_typeKeys (f : Forest) : f.typeKeys.Nodup := nodup_eraseDups _

theorem mem_typeKeys {key : TypeKey} :
    key ∈ f.typeKeys ↔ ∃ d, f.DeclaredIn none d ∧ d.site.key = key := by
  simp only [typeKeys, List.mem_eraseDups, List.mem_map, declaredIn_none_iff]

/-- There are as many types as keys of declarations that are not inside another one. -/
theorem typeCount_eq_ncard (f : Forest) :
    f.typeCount = {key | ∃ d, f.DeclaredIn none d ∧ d.site.key = key}.ncard := by
  have hset : {key | ∃ d, f.DeclaredIn none d ∧ d.site.key = key} = ↑f.typeKeys.toFinset := by
    ext key
    rw [Finset.mem_coe, List.mem_toFinset, mem_typeKeys]
    rfl
  rw [hset, Set.ncard_coe_finset, List.toFinset_card_of_nodup f.nodup_typeKeys, typeCount_eq]

theorem typeKeys_perm (h : f'.declarations.Perm f.declarations) : f'.typeKeys.Perm f.typeKeys := by
  rw [List.perm_ext_iff_of_nodup f'.nodup_typeKeys f.nodup_typeKeys]
  intro key
  simp only [mem_typeKeys, declaredIn_none_iff, h.mem_iff]

/-! ### What a forest answers -/

/-- A forest indexes its sites. They are the sites of its declarations, and if no identity is
repeated, each is resolved to its own name and namespace inside the type of its parent, if it has
one; an identity that no site has is not resolved. Whatever the identities are, the members of a
type are the members and the directly nested types of the declarations of the type that are not
inside another one, in increasing order, and the number of types is the number of keys that such
declarations have. Neither changes with the order of the units, nor with the order of the
declarations in a unit. -/
theorem resolver_indexes_sites (f : Forest) :
    (∀ s, s ∈ f.walk ↔ ∃ outer d, f.DeclaredIn outer d ∧ d.site = s) ∧
    ((f.walk.map Site.id).Nodup → ∀ outer d, f.DeclaredIn outer d →
      (f.resolver.resolve d).run = .ok
        { key := .of d.site.name d.site.scope
          container := outer.map fun o => .of o.site.name o.site.scope }) ∧
    (∀ d : Declaration, d.id ∉ f.walk.map Site.id →
      (f.resolver.resolve d).run = .error (.unknownSite d.id)) ∧
    (∀ key name, name ∈ (f.resolver.existingMembers key).run ↔
      ∃ d, f.DeclaredIn none d ∧ d.site.key = key ∧
        ((∃ m ∈ d.site.members, m.name = name) ∨ ∃ inner ∈ d.nested, inner.site.name = name)) ∧
    (∀ key, (f.resolver.existingMembers key).run.Pairwise (· < ·)) ∧
    f.typeCount = {key | ∃ d, f.DeclaredIn none d ∧ d.site.key = key}.ncard ∧
    ∀ f' : Forest, f'.Reorders f →
      (∀ key, (f'.resolver.existingMembers key).run = (f.resolver.existingMembers key).run) ∧
        f'.typeCount = f.typeCount := by
  simp only [resolver_existingMembers]
  refine ⟨fun s => mem_walk_iff, fun hids outer d h => ?_, fun d => run_resolve_of_notMem,
    fun key name => ?_, fun key => pairwise_sortedNames _, f.typeCount_eq_ncard, fun f' h => ?_⟩
  · apply run_resolve
    exact resolve?_of_mem_placements hids (mem_placements_iff.mpr ⟨outer, d, h, rfl⟩)
  · simp only [declaredIn_none_iff]
    exact mem_existingMembers
  · rw [typeCount_eq, typeCount_eq]
    exact ⟨existingMembers_eq_of_perm h.declarations_perm,
      (typeKeys_perm h.declarations_perm).length_eq⟩

/-- A type is declared in two units, and a type of the same name is nested in it. The members of the
nested one do not count, and the order of units and declarations does not matter. -/
theorem resolver_indexes_sites_split :
    let type (id : Nat) (member : String) : Declaration :=
      .mk { id, name := "A", scope := some " N ", members := [{ name := member }] } []
    let inner := type 2 "Inside"
    let outer := (type 1 "Z").nest inner
    let c := (ofKind .classType "C").withId 4
    let f : Forest := { units := [{ path := "a.cs", declarations := [outer] },
      { path := "b.cs", declarations := [type 3 "B", c] }] }
    let f' : Forest := { units := [{ path := "b.cs", declarations := [c, type 3 "B"] },
      { path := "a.cs", declarations := [outer] }] }
    let key : TypeKey := { name := "A", scope := some "N" }
    (f.walk.map Site.id).Nodup ∧ f.DeclaredIn none outer ∧ f.DeclaredIn (some outer) inner ∧
      f'.Reorders f ∧
      (f.resolver.resolve outer).run = .ok { key } ∧
      (f.resolver.resolve inner).run = .ok { key, container := some key } ∧
      (f.resolver.resolve ((ofKind .classType "A").withId 5)).run = .error (.unknownSite 5) ∧
      (f.resolver.existingMembers key).run = ["A", "B", "Z"] ∧
      (f'.resolver.existingMembers key).run = ["A", "B", "Z"] ∧
      f.typeCount = 2 ∧ f'.typeCount = 2 := by
  intro type inner outer c f f' key
  have hids : (f.walk.map Site.id).Nodup := by decide
  have houter : f.DeclaredIn none outer := .unit List.mem_cons_self List.mem_cons_self
  have hinner : f.DeclaredIn (some outer) inner := .nested houter List.mem_cons_self
  have hreorders : f'.Reorders f :=
    ⟨f.units.reverse, List.reverse_perm _,
      .cons ⟨rfl, .swap _ _ _⟩ (.cons ⟨rfl, .refl _⟩ .nil)⟩
  have hkey : TypeKey.of "A" (some " N ") = key := by decide
  have hmembers : (f.resolver.existingMembers key).run = ["A", "B", "Z"] := by
    have hnames : (f.declarations.filter fun d => d.site.key = key).flatMap memberNames =
        ["Z", "A", "B"] := by decide
    have hperm : ["Z", "A", "B"].Perm ["A", "B", "Z"] := by decide
    rw [resolver_existingMembers]
    show sortedNames _ = _
    rw [hnames, sortedNames_eq_iff.mpr fun _ => hperm.mem_iff, sortedNames,
      List.mergeSort_of_pairwise (by decide)]
    rfl
  have hcount : f.typeCount = 2 := by
    rw [typeCount_eq]
    decide
  obtain ⟨-, hresolve, hunknown, -, -, -, hsame⟩ := resolver_indexes_sites f
  obtain ⟨hmembers', hcount'⟩ := hsame f' hreorders
  refine ⟨hids, houter, hinner, hreorders, ?_, ?_, hunknown _ (by decide), hmembers,
    (hmembers' key).trans hmembers, hcount, hcount'.trans hcount⟩
  · rw [hresolve hids none outer houter]
    exact congrArg (fun k => Except.ok (ResolvedType.mk k none)) hkey
  · rw [hresolve hids (some outer) inner hinner]
    exact congrArg (fun k => Except.ok (ResolvedType.mk k (some k))) hkey

end Forest

end BannerGen
