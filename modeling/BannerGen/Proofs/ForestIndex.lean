import BannerGen.Assoc
import BannerGen.ForestIndex
import BannerGen.Proofs.Distinct
import BannerGen.Proofs.TypeKey
import Mathlib.Data.List.Nodup
import Mathlib.Data.List.Sort
import Mathlib.Data.String.Basic

/-!
# What a forest says about its sites

The index of a forest is made in one pass. A step of the pass puts one resolution into the types,
and, if the declaration is not inside another one, adds its names to those of its type. Over the
whole pass this comes to the resolutions, the members and the types that can be read off the
declarations (`Forest.lookup_types_index`, `Forest.membersOf_index`, `Forest.map_fst_index`), and
everything else is proved about those.

`Forest.placements` lists the sites of a forest in the order of the walk, each with the type that
it is declared in. The resolutions of a forest are read off its placements
(`Forest.resolutions_eq`), so every site is resolved, and if no identity is repeated it is resolved
to its own key and place (`Forest.resolve?_of_mem_placements`).

The members of a type are what its declarations declare (`Forest.mem_existingMembers`).
-/

namespace BannerGen

namespace Declaration

mutual

/-- The sites of a declaration inside `container`, depth first, each with the type that it is
declared in. -/
def placements (container : Option TypeKey) : Declaration → List (Site × Option TypeKey)
  | mk s nested => (s, container) :: placementsAll (some s.key) nested

/-- The sites of several declarations inside `container`, each with the type that it is declared
in. -/
def placementsAll (container : Option TypeKey) : List Declaration → List (Site × Option TypeKey)
  | [] => []
  | d :: ds => placements container d ++ placementsAll container ds

end

mutual

theorem map_fst_placements (container : Option TypeKey) :
    ∀ d, (placements container d).map Prod.fst = walk d
  | mk s nested => by
    rw [placements, walk, List.map_cons, map_fst_placementsAll]

theorem map_fst_placementsAll (container : Option TypeKey) :
    ∀ ds, (placementsAll container ds).map Prod.fst = walkAll ds
  | [] => by rw [placementsAll, walkAll, List.map_nil]
  | d :: ds => by
    rw [placementsAll, walkAll, List.map_append, map_fst_placements, map_fst_placementsAll]

end

/-- The resolution of a site in its place. -/
def resolutionAt (p : Site × Option TypeKey) : Nat × ResolvedType :=
  (p.1.id, { key := p.1.key, container := p.2 })

mutual

theorem resolutions_eq_map (container : Option TypeKey) :
    ∀ d, resolutions container d = (placements container d).map resolutionAt
  | mk s nested => by
    rw [resolutions, placements, List.map_cons, resolutionsAll_eq_map]
    rfl

theorem resolutionsAll_eq_map (container : Option TypeKey) :
    ∀ ds, resolutionsAll container ds = (placementsAll container ds).map resolutionAt
  | [] => by rw [resolutionsAll, placementsAll, List.map_nil]
  | d :: ds => by
    rw [resolutionsAll, placementsAll, List.map_append, resolutions_eq_map,
      resolutionsAll_eq_map]

end

mutual

/-- What is declared inside a type is nested. -/
theorem isSome_of_mem_placements {key : TypeKey} {p : Site × Option TypeKey} :
    ∀ d, p ∈ placements (some key) d → p.2.isSome
  | mk s nested, h => by
    rw [placements, List.mem_cons] at h
    rcases h with rfl | h
    · rfl
    · exact isSome_of_mem_placementsAll nested h

/-- What several declarations inside a type declare is nested. -/
theorem isSome_of_mem_placementsAll {key : TypeKey} {p : Site × Option TypeKey} :
    ∀ ds, p ∈ placementsAll (some key) ds → p.2.isSome
  | [], h => by
    rw [placementsAll] at h
    cases h
  | d :: ds, h => by
    rw [placementsAll, List.mem_append] at h
    rcases h with h | h
    · exact isSome_of_mem_placements d h
    · exact isSome_of_mem_placementsAll ds h

end

/-- The sites that are not nested are those of the declarations themselves. -/
theorem mem_placementsAll_none {s : Site} (ds : List Declaration) :
    (s, none) ∈ placementsAll none ds ↔ s ∈ ds.map site := by
  induction ds with
  | nil => simp [placementsAll]
  | cons d ds ih =>
    obtain ⟨t, nested⟩ := d
    -- Of the sites of `d`, only the first is not nested.
    have hnested : (s, none) ∉ placementsAll (some t.key) nested := fun h => by
      simpa using isSome_of_mem_placementsAll nested h
    rw [placementsAll, placements, List.mem_append, List.mem_cons, ih]
    simp [hnested, site]

end Declaration

open Declaration

/-! ### Increasing names -/

/-- A list of texts in increasing order has the same texts. -/
@[simp]
theorem mem_sortedNames {name : String} {l : List String} : name ∈ sortedNames l ↔ name ∈ l := by
  rw [sortedNames, List.mem_eraseDups, List.mem_mergeSort]

/-- Names are listed in increasing order, and none of them twice. -/
theorem pairwise_sortedNames (l : List String) : (sortedNames l).Pairwise (· < ·) := by
  have hsorted : (l.mergeSort fun a b => decide (¬ b < a)).Pairwise fun a b =>
      decide (¬ b < a) = true := by
    apply List.pairwise_mergeSort
    · intro a b c hab hbc
      simp only [decide_eq_true_eq, String.not_lt] at *
      exact String.le_trans hab hbc
    · intro a b
      simp only [Bool.or_eq_true, decide_eq_true_eq, String.not_lt]
      exact String.le_total a b
  -- What is left without repetitions is in the same order, and no name follows itself.
  refine ((hsorted.sublist (eraseDups_sublist _)).and (nodup_eraseDups _)).imp ?_
  rintro a b ⟨hle, hne⟩
  rw [decide_eq_true_eq, String.not_lt] at hle
  exact lt_of_le_of_ne hle hne

theorem sortedNames_eq_iff {l l' : List String} :
    sortedNames l = sortedNames l' ↔ ∀ name, name ∈ l ↔ name ∈ l' := by
  constructor
  · intro h name
    rw [← mem_sortedNames, h, mem_sortedNames]
  · intro h
    refine (pairwise_sortedNames l).eq_of_mem_iff (pairwise_sortedNames l') fun name => ?_
    rw [mem_sortedNames, mem_sortedNames, h]

/-- Sorting what comes in front does not matter. -/
theorem sortedNames_sortedNames_append (l l' : List String) :
    sortedNames (sortedNames l ++ l') = sortedNames (l ++ l') :=
  sortedNames_eq_iff.mpr fun name => by rw [List.mem_append, List.mem_append, mem_sortedNames]

/-! ### One pass over the declarations -/

namespace ForestIndex

variable {container : Option TypeKey} {index : ForestIndex} {key : TypeKey}

-- What a declaration adds to the types is put in front of what is inside it and after it.
mutual

theorem types_add (container : Option TypeKey) (index : ForestIndex) :
    ∀ d, (add container index d).types =
      (resolutions container d).foldl (fun types r => Assoc.put r.1 r.2 types) index.types
  | .mk s nested => by
    cases container with
    | none =>
      rw [add, types_addAll, resolutions, List.foldl_cons]
      rfl
    | some key =>
      rw [add, types_addAll, resolutions, List.foldl_cons]
      rfl

theorem types_addAll (container : Option TypeKey) (index : ForestIndex) :
    ∀ ds, (addAll container index ds).types =
      (resolutionsAll container ds).foldl (fun types r => Assoc.put r.1 r.2 types) index.types
  | [] => by rw [addAll, resolutionsAll, List.foldl_nil]
  | d :: ds => by rw [addAll, types_addAll, types_add, resolutionsAll, List.foldl_append]

end

mutual

/-- A nested declaration has no members to add. -/
theorem members_add_some (key : TypeKey) (index : ForestIndex) :
    ∀ d, (add (some key) index d).members = index.members
  | .mk s nested => by
    rw [add, members_addAll_some]
    rfl

/-- Nested declarations have no members to add. -/
theorem members_addAll_some (key : TypeKey) (index : ForestIndex) :
    ∀ ds, (addAll (some key) index ds).members = index.members
  | [] => by rw [addAll]
  | d :: ds => by rw [addAll, members_addAll_some, members_add_some]

end

/-- A declaration that is not inside another one adds the names that it declares itself. -/
theorem members_add_none (index : ForestIndex) (d : Declaration) :
    (add none index d).members = (index.addMembers d.site.key d.memberNames).members := by
  obtain ⟨s, nested⟩ := d
  rw [add, members_addAll_some]
  rfl

theorem membersOf_add_none (index : ForestIndex) (d : Declaration) (key : TypeKey) :
    (add none index d).membersOf key =
      if d.site.key = key then sortedNames (index.membersOf key ++ d.memberNames)
      else index.membersOf key := by
  rw [membersOf, members_add_none, addMembers]
  split
  · next h =>
    subst h
    rw [Assoc.lookup_put_self]
    rfl
  · next h =>
    rw [Assoc.lookup_put_of_ne (Ne.symm h)]
    rfl

/-- Declarations that are not inside another one add the names that those of a type declare. -/
theorem membersOf_addAll_none (ds : List Declaration) :
    ∀ {index : ForestIndex} {names : List String}, index.membersOf key = sortedNames names →
      (addAll none index ds).membersOf key =
        sortedNames (names ++ (ds.filter fun d => d.site.key = key).flatMap memberNames) := by
  induction ds with
  | nil =>
    intro index names h
    rw [addAll, h, List.filter_nil, List.flatMap_nil, List.append_nil]
  | cons d ds ih =>
    intro index names h
    have hstep := membersOf_add_none index d key
    rw [addAll]
    by_cases hkey : d.site.key = key
    · rw [if_pos hkey, h, sortedNames_sortedNames_append] at hstep
      rw [ih hstep, List.filter_cons_of_pos (by simpa using hkey), List.flatMap_cons,
        List.append_assoc]
    · rw [if_neg hkey, h] at hstep
      rw [ih hstep, List.filter_cons_of_neg (by simpa using hkey)]

/-- Declarations that are not inside another one add their types, in their order. -/
theorem map_fst_members_addAll_none (ds : List Declaration) :
    ∀ {index : ForestIndex} {keys : List TypeKey}, index.members.map Prod.fst = keys.eraseDups →
      (addAll none index ds).members.map Prod.fst =
        (keys ++ ds.map fun d => d.site.key).eraseDups := by
  induction ds with
  | nil =>
    intro index keys h
    rw [addAll, h, List.map_nil, List.append_nil]
  | cons d ds ih =>
    intro index keys h
    have hstep : (add none index d).members.map Prod.fst =
        (keys ++ [d.site.key]).eraseDups := by
      rw [members_add_none, addMembers, Assoc.map_fst_put, h, eraseDups_concat]
      simp only [List.mem_eraseDups]
    rw [addAll, ih hstep, List.map_cons, List.append_assoc, List.singleton_append]

end ForestIndex

namespace Forest

/-- The type that the index has for an identity is that of the last declaration that has it. -/
theorem lookup_types_index (f : Forest) (id : Nat) :
    f.index.types.lookup id = f.resolve? id := by
  rw [index, ForestIndex.types_addAll, Assoc.lookup_foldl_put]
  exact Option.or_none

/-- The members that the index has for a type are those of its declarations. -/
theorem membersOf_index (f : Forest) (key : TypeKey) :
    f.index.membersOf key = f.existingMembers key := by
  have hempty : ({} : ForestIndex).membersOf key = sortedNames [] := by
    simp [ForestIndex.membersOf, sortedNames]
  exact ForestIndex.membersOf_addAll_none f.declarations hempty

/-- The types that the index has members for are those that are not nested. -/
theorem map_fst_index (f : Forest) : f.index.members.map Prod.fst = f.typeKeys := by
  have hempty : ({} : ForestIndex).members.map Prod.fst = [].eraseDups := rfl
  exact ForestIndex.map_fst_members_addAll_none f.declarations hempty

/-- There are as many types as keys. -/
theorem typeCount_eq (f : Forest) : f.typeCount = f.typeKeys.length := by
  rw [typeCount, ← map_fst_index, List.length_map]

variable {f : Forest}

/-- The sites of a forest, depth first, each with the type that it is declared in. -/
def placements (f : Forest) : List (Site × Option TypeKey) := placementsAll none f.declarations

/-- The site is that of a declaration that is not inside another one. -/
def IsTopLevel (f : Forest) (s : Site) : Prop := s ∈ f.declarations.map Declaration.site

/-- A declaration of the type that is not inside another one declares a member or a type of the
given name. -/
def Declares (f : Forest) (key : TypeKey) (name : String) : Prop :=
  ∃ d ∈ f.declarations, d.site.key = key ∧
    ((∃ m ∈ d.site.members, m.name = name) ∨ ∃ inner ∈ d.nested, inner.site.name = name)

theorem map_fst_placements (f : Forest) : f.placements.map Prod.fst = f.walk :=
  Declaration.map_fst_placementsAll none f.declarations

theorem resolutions_eq (f : Forest) : f.resolutions = f.placements.map resolutionAt :=
  resolutionsAll_eq_map none f.declarations

theorem mem_placements_none {s : Site} : (s, none) ∈ f.placements ↔ f.IsTopLevel s :=
  mem_placementsAll_none f.declarations

/-- The members of a type are what its declarations declare. -/
theorem mem_existingMembers {key : TypeKey} {name : String} :
    name ∈ f.existingMembers key ↔ f.Declares key name := by
  simp only [existingMembers, mem_sortedNames, List.mem_flatMap, List.mem_filter,
    decide_eq_true_eq, Declares, memberNames, List.mem_append, List.mem_map, and_assoc]

/-- The identities of the resolutions are those of the sites. -/
theorem map_fst_resolutions (f : Forest) : f.resolutions.map Prod.fst = f.walk.map Site.id := by
  rw [resolutions_eq, ← map_fst_placements, List.map_map, List.map_map]
  rfl

/-- An identity is not resolved exactly if no site has it. -/
theorem resolve?_eq_none_iff {id : Nat} :
    f.resolve? id = none ↔ id ∉ f.walk.map Site.id := by
  rw [resolve?, List.lookup_eq_none_iff, ← map_fst_resolutions]
  simp only [List.mem_reverse, bne_iff_ne, List.mem_map, not_exists, not_and]
  exact forall₂_congr fun r _ => ne_comm

/-- Every declaration of a forest is resolved. -/
theorem isSome_resolve? {d : Declaration} (h : d ∈ f.subtrees) : (f.resolve? d.id).isSome := by
  rw [Option.isSome_iff_ne_none, ne_eq, resolve?_eq_none_iff, not_not]
  exact List.mem_map_of_mem (f := Site.id) (site_mem_walk h)

/-- If no identity is repeated, a site is resolved to its own key in its own place. -/
theorem resolve?_of_mem_placements (hids : (f.walk.map Site.id).Nodup)
    {p : Site × Option TypeKey} (hp : p ∈ f.placements) :
    f.resolve? p.1.id = some { key := p.1.key, container := p.2 } := by
  rw [resolve?]
  -- Without repeated identities it does not matter that the last resolution counts.
  refine Assoc.lookup_eq_some_of_mem ?_ ?_
  · rw [List.map_reverse, List.nodup_reverse, map_fst_resolutions]
    exact hids
  · rw [List.mem_reverse, resolutions_eq]
    exact List.mem_map_of_mem (f := resolutionAt) hp

/-- The host that a forest is to itself answers with the resolution of the declaration's
identity. -/
theorem run_resolve {d : Declaration} {type : ResolvedType} (h : f.resolve? d.id = some type) :
    (f.resolver.resolve d).run = .ok type := by
  simp only [resolver, lookup_types_index, h]
  rfl

/-- It does not resolve an identity that no site has. -/
theorem run_resolve_of_notMem {d : Declaration} (h : d.id ∉ f.walk.map Site.id) :
    (f.resolver.resolve d).run = .error (.unknownSite d.id) := by
  simp only [resolver, lookup_types_index, resolve?_eq_none_iff.mpr h]
  rfl

/-- It answers with the members that are declared. -/
@[simp]
theorem resolver_existingMembers (f : Forest) : f.resolver.existingMembers = f.existingMembers :=
  funext f.membersOf_index

end Forest

end BannerGen
