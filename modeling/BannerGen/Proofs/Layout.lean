import BannerGen.Proofs.SiteId
import BannerGen.Source.Layout

/-!
# What the layout of a forest keeps

The layout goes through a forest once, in the order of the walk, and fills in identities and
locations as it goes. What it comes to can be had in two passes, one for the identities and one for
the locations (`Forest.layout_eq`), and what follows is proved of these. If there are not enough
identities, the pass stops, and from there on nothing has changed (`Forest.stopsAt_of_layout`).

The identities of the sites are filled
in like a list (`Layout.map_ids_identifyAll`), and whatever does not depend on the identity or on
the locations stays (`Layout.map_walkAll_identifyAll`, `Layout.map_walkAll_placeDeclarations`).

Where a line stands depends on the widths of the lines before it, and these do not depend on
locations. So placing what has been placed changes nothing, even if the path of the file is empty
and the locations filled in still count as unknown. Together with identities that are all given
this means that a forest stays as it is when it is laid out again (`Forest.layout_of_layout`).
-/

namespace BannerGen

namespace Declaration

theorem walkAll_eq_flatMap (ds : List Declaration) : walkAll ds = ds.flatMap walk := by
  induction ds with
  | nil => rfl
  | cons d ds ih => rw [walkAll, ih, List.flatMap_cons]

theorem walkAll_append (ds es : List Declaration) :
    walkAll (ds ++ es) = walkAll ds ++ walkAll es := by
  simp only [walkAll_eq_flatMap, List.flatMap_append]

end Declaration

/-- The walk of a forest is that of its units, one after the other. -/
theorem Forest.walk_eq_flatMap (f : Forest) :
    f.walk = f.units.flatMap fun u => Declaration.walkAll u.declarations := by
  simp only [walk, declarations, Declaration.walkAll_eq_flatMap, List.flatMap_assoc]

theorem Forest.walk_cons (u : SourceUnit) (us : List SourceUnit) :
    walk { units := u :: us } = Declaration.walkAll u.declarations ++ walk { units := us } := by
  simp [walk, declarations, Declaration.walkAll_append]

theorem Forest.walk_concat (us : List SourceUnit) (u : SourceUnit) :
    walk { units := us ++ [u] } = walk { units := us } ++ Declaration.walkAll u.declarations := by
  simp [walk, declarations, Declaration.walkAll_append]

/-- Where an attribute and its arguments stand. -/
def Attribute.spans (a : Attribute) : List Span := a.span :: a.arguments.map Argument.span

/-- Where the header of a site, its attributes and its members stand. -/
def Site.spans (s : Site) : List Span :=
  s.span :: (s.attributes.flatMap Attribute.spans ++ s.members.map Member.span)

/-- Where the parts of a unit stand. -/
def SourceUnit.spans (u : SourceUnit) : List Span :=
  (Declaration.walkAll u.declarations).flatMap Site.spans

/-- Where the parts of a forest stand. -/
def Forest.spans (f : Forest) : List Span := f.walk.flatMap Site.spans

theorem Forest.spans_eq_flatMap (f : Forest) : f.spans = f.units.flatMap SourceUnit.spans := by
  rw [spans, walk_eq_flatMap, List.flatMap_assoc]
  rfl

/-- Filling in a location twice is filling it in once. -/
@[simp]
theorem Span.orElse_orElse (s filled : Span) :
    (s.orElse filled).orElse filled = s.orElse filled := by
  unfold Span.orElse
  by_cases h : s.IsUnassigned <;> simp [h]

namespace Layout

open Declaration

/-! ### Two passes -/

mutual

/-- Places a declaration at the given depth, and gives the line after its closing brace. -/
def placeDeclaration (depth : Nat) (c : Cursor) : Declaration → Declaration × Cursor
  | .mk s nested =>
    let (s, inner) := placeSite depth c s
    let (nested, closing) := placeDeclarations (depth + 1) inner nested
    (.mk s nested, closing.advance (depth * indentWidth + 1))

/-- Places declarations one after the other. -/
def placeDeclarations (depth : Nat) (c : Cursor) : List Declaration → List Declaration × Cursor
  | [] => ([], c)
  | d :: ds =>
    let (d, next) := placeDeclaration depth c d
    let (ds, after) := placeDeclarations depth next ds
    (d :: ds, after)

end

mutual

/-- Gives identities to the sites of a declaration that have none, depth first. -/
def identify (ids : SiteId.Allocator) : Declaration → Option (Declaration × SiteId.Allocator)
  | .mk s nested => do
    let (id, ids) ← if s.id = 0 then ids.allocate else some (s.id, ids)
    let (nested, ids) ← identifyAll ids nested
    return (.mk { s with id } nested, ids)

/-- Gives identities to the sites of several declarations, one after the other. -/
def identifyAll (ids : SiteId.Allocator) :
    List Declaration → Option (List Declaration × SiteId.Allocator)
  | [] => some ([], ids)
  | d :: ds => do
    let (d, ids) ← identify ids d
    let (ds, ids) ← identifyAll ids ds
    return (d :: ds, ids)

end

/-- Gives identities to the sites of all units, one after the other. -/
def identifyUnits (ids : SiteId.Allocator) :
    List SourceUnit → Option (List SourceUnit × SiteId.Allocator)
  | [] => some ([], ids)
  | u :: us => do
    let (declarations, ids) ← identifyAll ids u.declarations
    let (us, ids) ← identifyUnits ids us
    return ({ u with declarations } :: us, ids)

/-- Fills in the missing locations of a unit. -/
def placeUnit (u : SourceUnit) : SourceUnit :=
  { u with declarations := (placeDeclarations 0 { file := u.path } u.declarations).1 }

/-! ### Placing twice -/

@[simp]
theorem placeArguments_placeArguments (c : Cursor) (column : Nat) (as : List Argument) :
    placeArguments c column (placeArguments c column as) = placeArguments c column as := by
  induction as generalizing column with
  | nil => rfl
  | cons a as ih =>
    have hrest := ih (column + a.width + 2)
    simp only [placeArguments, Argument.labelWidth, Argument.width, Span.orElse_orElse] at hrest ⊢
    rw [hrest]

@[simp]
theorem argumentsWidth_placeArguments (c : Cursor) (column : Nat) (as : List Argument) :
    Attribute.argumentsWidth (placeArguments c column as) = Attribute.argumentsWidth as := by
  induction as generalizing column with
  | nil => rfl
  | cons a as ih =>
    cases as with
    | nil => rfl
    | cons b as =>
      have hrest := ih (column + a.width + 2)
      simp only [placeArguments, Attribute.argumentsWidth] at hrest ⊢
      rw [hrest]
      rfl

@[simp]
theorem width_placeAttribute (c : Cursor) (indent : Nat) (a : Attribute) :
    (placeAttribute c indent a).width = a.width := by
  simp [placeAttribute, Attribute.width]

@[simp]
theorem placeAttribute_placeAttribute (c : Cursor) (indent : Nat) (a : Attribute) :
    placeAttribute c indent (placeAttribute c indent a) = placeAttribute c indent a := by
  -- The location of the attribute is filled in from its width, which its arguments keep.
  have hwidth := width_placeAttribute c indent a
  simp only [placeAttribute] at hwidth ⊢
  simp [hwidth]

@[simp]
theorem placeAttributes_placeAttributes (indent : Nat) (c : Cursor) (as : List Attribute) :
    placeAttributes indent c (placeAttributes indent c as).1 = placeAttributes indent c as := by
  induction as generalizing c with
  | nil => rfl
  | cons a as ih =>
    simp only [placeAttributes, width_placeAttribute, placeAttribute_placeAttribute, ih]

@[simp]
theorem placeMembers_placeMembers (indent : Nat) (c : Cursor) (ms : List Member) :
    placeMembers indent c (placeMembers indent c ms).1 = placeMembers indent c ms := by
  induction ms generalizing c with
  | nil => rfl
  | cons m ms ih => simp only [placeMembers, Span.orElse_orElse, ih]

@[simp]
theorem placeSite_placeSite (depth : Nat) (c : Cursor) (s : Site) :
    placeSite depth c (placeSite depth c s).1 = placeSite depth c s := by
  -- The header keeps its width, so the lines after it stay where they are.
  have hwidth : ∀ attributes members span,
      Site.headerWidth { s with attributes, members, span } = s.headerWidth := fun _ _ _ => rfl
  simp only [placeSite, placeAttributes_placeAttributes, hwidth, placeMembers_placeMembers,
    Span.orElse_orElse]

mutual

theorem placeDeclaration_placeDeclaration (depth : Nat) (c : Cursor) :
    ∀ d, placeDeclaration depth c (placeDeclaration depth c d).1 = placeDeclaration depth c d
  | .mk s nested => by
    simp only [placeDeclaration, placeSite_placeSite]
    rw [placeDeclarations_placeDeclarations]

theorem placeDeclarations_placeDeclarations (depth : Nat) (c : Cursor) :
    ∀ ds, placeDeclarations depth c (placeDeclarations depth c ds).1 =
      placeDeclarations depth c ds
  | [] => by simp only [placeDeclarations]
  | d :: ds => by
    simp only [placeDeclarations]
    rw [placeDeclaration_placeDeclaration, placeDeclarations_placeDeclarations]

end

theorem placeUnit_placeUnit (u : SourceUnit) : placeUnit (placeUnit u) = placeUnit u := by
  simp only [placeUnit, placeDeclarations_placeDeclarations]

/-! ### What placing keeps -/

theorem map_placeArguments {α : Type} {g : Argument → α} (hg : ∀ a span, g { a with span } = g a)
    (c : Cursor) (column : Nat) (as : List Argument) :
    (placeArguments c column as).map g = as.map g := by
  induction as generalizing column with
  | nil => rfl
  | cons a as ih => rw [placeArguments, List.map_cons, List.map_cons, ih, hg]

theorem map_placeAttributes {α : Type} {g : Attribute → α} {indent : Nat}
    (hg : ∀ c a, g (placeAttribute c indent a) = g a) (c : Cursor) (as : List Attribute) :
    (placeAttributes indent c as).1.map g = as.map g := by
  induction as generalizing c with
  | nil => rfl
  | cons a as ih => rw [placeAttributes, List.map_cons, List.map_cons, ih, hg]

theorem map_placeMembers {α : Type} {g : Member → α} (hg : ∀ m span, g { m with span } = g m)
    (indent : Nat) (c : Cursor) (ms : List Member) :
    (placeMembers indent c ms).1.map g = ms.map g := by
  induction ms generalizing c with
  | nil => rfl
  | cons m ms ih => rw [placeMembers, List.map_cons, List.map_cons, ih, hg]

mutual

theorem map_walk_placeDeclaration {α : Type} {g : Site → α}
    (hg : ∀ depth c s, g (placeSite depth c s).1 = g s) (depth : Nat) (c : Cursor) :
    ∀ d, (walk (placeDeclaration depth c d).1).map g = (walk d).map g
  | .mk s nested => by
    rw [placeDeclaration, walk, walk, List.map_cons, List.map_cons, hg,
      map_walkAll_placeDeclarations hg]

/-- What does not depend on the locations of a site stays when declarations are placed. -/
theorem map_walkAll_placeDeclarations {α : Type} {g : Site → α}
    (hg : ∀ depth c s, g (placeSite depth c s).1 = g s) (depth : Nat) (c : Cursor) :
    ∀ ds, (walkAll (placeDeclarations depth c ds).1).map g = (walkAll ds).map g
  | [] => by rw [placeDeclarations]
  | d :: ds => by
    rw [placeDeclarations, walkAll, walkAll, List.map_append, List.map_append,
      map_walk_placeDeclaration hg, map_walkAll_placeDeclarations hg]

end

/-! ### What identifying does -/

theorem identify_mk (a : SiteId.Allocator) (s : Site) (nested : List Declaration) :
    identify a (.mk s nested) =
      (if s.id = 0 then a.allocate else some (s.id, a)).bind fun r =>
        (identifyAll r.2 nested).map fun t => (.mk { s with id := r.1 } t.1, t.2) := by
  rw [identify]
  by_cases h : s.id = 0
  · simp only [if_pos h, Option.map_eq_bind]
    rfl
  · simp only [if_neg h, Option.map_eq_bind]
    rfl

theorem identifyAll_cons (a : SiteId.Allocator) (d : Declaration) (ds : List Declaration) :
    identifyAll a (d :: ds) = (identify a d).bind fun r =>
      (identifyAll r.2 ds).map fun t => (r.1 :: t.1, t.2) := by
  simp only [identifyAll, Option.map_eq_bind]
  rfl

theorem identifyUnits_cons (a : SiteId.Allocator) (u : SourceUnit) (us : List SourceUnit) :
    identifyUnits a (u :: us) = (identifyAll a u.declarations).bind fun r =>
      (identifyUnits r.2 us).map fun t => ({ u with declarations := r.1 } :: t.1, t.2) := by
  simp only [identifyUnits, Option.map_eq_bind]
  rfl

mutual

theorem map_ids_identify (a : SiteId.Allocator) :
    ∀ d, (identify a d).map (fun r => ((walk r.1).map Site.id, r.2)) =
      a.fill ((walk d).map Site.id)
  | .mk s nested => by
    rw [identify_mk, walk, List.map_cons, SiteId.Allocator.fill, Option.map_bind]
    congr 1
    -- The nested declarations go on with the allocator that the site leaves.
    funext r
    rw [← map_ids_identifyAll r.2 nested, Function.comp_apply, Option.map_map, Option.map_map]
    simp only [Function.comp_def, walk, List.map_cons]

/-- The identities of declarations are filled in like a list. -/
theorem map_ids_identifyAll (a : SiteId.Allocator) :
    ∀ ds, (identifyAll a ds).map (fun r => ((walkAll r.1).map Site.id, r.2)) =
      a.fill ((walkAll ds).map Site.id)
  | [] => by simp [identifyAll, walkAll, SiteId.Allocator.fill]
  | d :: ds => by
    rw [identifyAll_cons, walkAll, List.map_append, SiteId.Allocator.fill_append,
      ← map_ids_identify a d, Option.map_bind, Option.bind_map]
    congr 1
    funext r
    rw [Function.comp_apply, Function.comp_apply, ← map_ids_identifyAll r.2 ds, Option.map_map,
      Option.map_map]
    simp only [Function.comp_def, walkAll, List.map_append]

end

/-- The identities of units are filled in like a list. -/
theorem map_ids_identifyUnits (a : SiteId.Allocator) (us : List SourceUnit) :
    (identifyUnits a us).map (fun r => (Forest.ids { units := r.1 }, r.2)) =
      a.fill (Forest.ids { units := us }) := by
  induction us generalizing a with
  | nil => rfl
  | cons u us ih =>
    simp only [Forest.ids, Forest.walk_cons, List.map_append] at ih ⊢
    rw [identifyUnits_cons, SiteId.Allocator.fill_append, ← map_ids_identifyAll, Option.map_bind,
      Option.bind_map]
    congr 1
    funext r
    rw [Function.comp_apply, Function.comp_apply, ← ih r.2, Option.map_map, Option.map_map]
    simp only [Function.comp_def, Forest.walk_cons, List.map_append]

mutual

theorem map_walk_identify {α : Type} {g : Site → α} (hg : ∀ s id, g { s with id } = g s) :
    ∀ d a r, identify a d = some r → (walk r.1).map g = (walk d).map g
  | .mk s nested, a, r, h => by
    rw [identify_mk, Option.bind_eq_some_iff] at h
    obtain ⟨first, _, h⟩ := h
    obtain ⟨rest, hrest, rfl⟩ := Option.map_eq_some_iff.mp h
    rw [walk, walk, List.map_cons, List.map_cons, hg,
      map_walkAll_identifyAll hg nested first.2 rest hrest]

/-- What does not depend on the identity of a site stays when declarations are given
identities. -/
theorem map_walkAll_identifyAll {α : Type} {g : Site → α} (hg : ∀ s id, g { s with id } = g s) :
    ∀ ds a r, identifyAll a ds = some r → (walkAll r.1).map g = (walkAll ds).map g
  | [], a, r, h => by
    cases h
    rfl
  | d :: ds, a, r, h => by
    rw [identifyAll_cons, Option.bind_eq_some_iff] at h
    obtain ⟨first, hfirst, h⟩ := h
    obtain ⟨rest, hrest, rfl⟩ := Option.map_eq_some_iff.mp h
    rw [walkAll, walkAll, List.map_append, List.map_append,
      map_walk_identify hg d a first hfirst, map_walkAll_identifyAll hg ds first.2 rest hrest]

end

mutual

theorem identify_of_forall_ne_zero (a : SiteId.Allocator) :
    ∀ d, (∀ s ∈ walk d, s.id ≠ 0) → identify a d = some (d, a)
  | .mk s nested, h => by
    rw [walk, List.forall_mem_cons] at h
    rw [identify_mk, if_neg h.1, Option.bind_some, identifyAll_of_forall_ne_zero a nested h.2]
    rfl

/-- Declarations whose sites all have an identity stay as they are. -/
theorem identifyAll_of_forall_ne_zero (a : SiteId.Allocator) :
    ∀ ds, (∀ s ∈ walkAll ds, s.id ≠ 0) → identifyAll a ds = some (ds, a)
  | [], _ => rfl
  | d :: ds, h => by
    rw [walkAll, List.forall_mem_append] at h
    rw [identifyAll_cons, identify_of_forall_ne_zero a d h.1, Option.bind_some,
      identifyAll_of_forall_ne_zero a ds h.2]
    rfl

end

/-- What does not depend on the identity of a site stays when units are given identities. -/
theorem map_walk_identifyUnits {α : Type} {g : Site → α} (hg : ∀ s id, g { s with id } = g s)
    (us : List SourceUnit) (a : SiteId.Allocator) (r : List SourceUnit × SiteId.Allocator)
    (h : identifyUnits a us = some r) :
    (Forest.walk { units := r.1 }).map g = (Forest.walk { units := us }).map g := by
  induction us generalizing a r with
  | nil =>
    cases h
    rfl
  | cons u us ih =>
    rw [identifyUnits_cons, Option.bind_eq_some_iff] at h
    obtain ⟨first, hfirst, h⟩ := h
    obtain ⟨rest, hrest, rfl⟩ := Option.map_eq_some_iff.mp h
    rw [Forest.walk_cons, Forest.walk_cons, List.map_append, List.map_append,
      map_walkAll_identifyAll hg _ a first hfirst, ih first.2 rest hrest]

/-- Units whose sites all have an identity stay as they are. -/
theorem identifyUnits_of_forall_ne_zero (a : SiteId.Allocator) (us : List SourceUnit)
    (h : ∀ s ∈ Forest.walk { units := us }, s.id ≠ 0) : identifyUnits a us = some (us, a) := by
  induction us with
  | nil => rfl
  | cons u us ih =>
    rw [Forest.walk_cons, List.forall_mem_append] at h
    rw [identifyUnits_cons, identifyAll_of_forall_ne_zero a u.declarations h.1, Option.bind_some,
      ih h.2]
    rfl

/-! ### One pass -/

/-- The sites `ts` are those that a pass over the sites `ss` leaves if it stops at a site that has
no identity. The sites before it are filled in, and it and those after it are as they were. -/
def StopsAt (ss ts : List Site) : Prop :=
  ∃ before filled s after, ss = before ++ s :: after ∧ ts = filled ++ s :: after ∧
    filled.length = before.length ∧ s.id = 0

/-- Sites are neither added nor lost. -/
theorem length_walkAll_placed {depth : Nat} {c : Cursor} {ds : List Declaration}
    {a : SiteId.Allocator} {r : List Declaration × SiteId.Allocator}
    (h : identifyAll a ds = some r) :
    (walkAll (placeDeclarations depth c r.1).1).length = (walkAll ds).length := by
  have hplaced := congrArg List.length
    (map_walkAll_placeDeclarations (g := fun _ => ()) (fun _ _ _ => rfl) depth c r.1)
  have hidentified := congrArg List.length
    (map_walkAll_identifyAll (g := fun _ => ()) (fun _ _ => rfl) ds a r h)
  simp only [List.length_map] at hplaced hidentified
  rw [hplaced, hidentified]

theorem length_walk_placed {depth : Nat} {c : Cursor} {d : Declaration} {a : SiteId.Allocator}
    {r : Declaration × SiteId.Allocator} (h : identify a d = some r) :
    (walk (placeDeclaration depth c r.1).1).length = (walk d).length := by
  have hplaced := congrArg List.length
    (map_walk_placeDeclaration (g := fun _ => ()) (fun _ _ _ => rfl) depth c r.1)
  have hidentified := congrArg List.length
    (map_walk_identify (g := fun _ => ()) (fun _ _ => rfl) d a r h)
  simp only [List.length_map] at hplaced hidentified
  rw [hplaced, hidentified]

/-- A pass that stops later has more sites in front. -/
theorem StopsAt.append {ss ts : List Site} (h : StopsAt ss ts) {before filled : List Site}
    (hlength : filled.length = before.length) : StopsAt (before ++ ss) (filled ++ ts) := by
  obtain ⟨before', filled', s, after, rfl, rfl, hlength', hzero⟩ := h
  refine ⟨before ++ before', filled ++ filled', s, after, ?_, ?_, ?_, hzero⟩
  · rw [List.append_assoc]
  · rw [List.append_assoc]
  · rw [List.length_append, List.length_append, hlength, hlength']

/-- Sites after the place where a pass stops stay as they are. -/
theorem StopsAt.append_right {ss ts : List Site} (h : StopsAt ss ts) (rest : List Site) :
    StopsAt (ss ++ rest) (ts ++ rest) := by
  obtain ⟨before, filled, s, after, rfl, rfl, hlength, hzero⟩ := h
  refine ⟨before, filled, s, after ++ rest, ?_, ?_, hlength, hzero⟩
  · rw [List.append_assoc, List.cons_append]
  · rw [List.append_assoc, List.cons_append]

-- As long as there are identities, every site is given its own and then placed.
mutual

theorem layOutDeclaration_of_some (depth : Nat) (c : Cursor) :
    ∀ d a r, identify a d = some r → layOutDeclaration depth c a d =
      ((placeDeclaration depth c r.1).1, some ((placeDeclaration depth c r.1).2, r.2))
  | .mk s nested, a, r, h => by
    rw [identify_mk, Option.bind_eq_some_iff] at h
    obtain ⟨first, hfirst, h⟩ := h
    obtain ⟨rest, hrest, rfl⟩ := Option.map_eq_some_iff.mp h
    rw [layOutDeclaration, hfirst]
    simp only [layOutDeclarations_of_some _ _ nested first.2 rest hrest, placeDeclaration,
      Option.map_some]

theorem layOutDeclarations_of_some (depth : Nat) (c : Cursor) :
    ∀ ds a r, identifyAll a ds = some r → layOutDeclarations depth c a ds =
      ((placeDeclarations depth c r.1).1, some ((placeDeclarations depth c r.1).2, r.2))
  | [], a, r, h => by
    cases h
    rfl
  | d :: ds, a, r, h => by
    rw [identifyAll_cons, Option.bind_eq_some_iff] at h
    obtain ⟨first, hfirst, h⟩ := h
    obtain ⟨rest, hrest, rfl⟩ := Option.map_eq_some_iff.mp h
    rw [layOutDeclarations, layOutDeclaration_of_some depth c d a first hfirst]
    simp only [layOutDeclarations_of_some _ _ ds first.2 rest hrest, placeDeclarations]

end

mutual

theorem layOutDeclaration_of_none (depth : Nat) (c : Cursor) :
    ∀ d a, identify a d = none → (layOutDeclaration depth c a d).2 = none ∧
      StopsAt (walk d) (walk (layOutDeclaration depth c a d).1)
  | .mk s nested, a, h => by
    rw [identify_mk] at h
    rw [layOutDeclaration]
    cases hfirst : if s.id = 0 then a.allocate else some (s.id, a) with
    | none =>
      -- Only a site without an identity can be the one that none is left for.
      have hzero : s.id = 0 := by
        by_contra hne
        rw [if_neg hne] at hfirst
        cases hfirst
      exact ⟨rfl, [], [], s, walkAll nested, by rw [walk]; rfl, by rw [walk]; rfl, rfl, hzero⟩
    | some first =>
      rw [hfirst, Option.bind_some, Option.map_eq_none_iff] at h
      obtain ⟨hnone, hstops⟩ := layOutDeclarations_of_none (depth + 1)
        (placeSite depth c { s with id := first.1 }).2 nested first.2 h
      refine ⟨by simp only [hnone, Option.map_none], ?_⟩
      rw [walk, walk]
      have hlength : [(placeSite depth c { s with id := first.1 }).1].length = [s].length := rfl
      exact hstops.append hlength

/-- A pass over declarations stops where the identities run out. -/
theorem layOutDeclarations_of_none (depth : Nat) (c : Cursor) :
    ∀ ds a, identifyAll a ds = none → (layOutDeclarations depth c a ds).2 = none ∧
      StopsAt (walkAll ds) (walkAll (layOutDeclarations depth c a ds).1)
  | [], a, h => nomatch h
  | d :: ds, a, h => by
    rw [identifyAll_cons] at h
    rw [layOutDeclarations, walkAll]
    cases hfirst : identify a d with
    | none =>
      obtain ⟨hnone, hstops⟩ := layOutDeclaration_of_none depth c d a hfirst
      generalize layOutDeclaration depth c a d = result at hnone hstops ⊢
      obtain ⟨d', _⟩ := result
      cases hnone
      rw [walkAll]
      exact ⟨rfl, hstops.append_right (walkAll ds)⟩
    | some first =>
      rw [hfirst, Option.bind_some, Option.map_eq_none_iff] at h
      rw [layOutDeclaration_of_some depth c d a first hfirst]
      obtain ⟨hnone, hstops⟩ := layOutDeclarations_of_none depth
        (placeDeclaration depth c first.1).2 ds first.2 h
      rw [walkAll]
      exact ⟨hnone, hstops.append (length_walk_placed hfirst)⟩

end

theorem layOutUnits_of_some {us : List SourceUnit} {a : SiteId.Allocator}
    {r : List SourceUnit × SiteId.Allocator} (h : identifyUnits a us = some r) :
    layOutUnits a us = (r.1.map placeUnit, some r.2) := by
  induction us generalizing a r with
  | nil =>
    cases h
    rfl
  | cons u us ih =>
    rw [identifyUnits_cons, Option.bind_eq_some_iff] at h
    obtain ⟨first, hfirst, h⟩ := h
    obtain ⟨rest, hrest, rfl⟩ := Option.map_eq_some_iff.mp h
    rw [layOutUnits, layOutDeclarations_of_some _ _ _ _ _ hfirst]
    simp only [ih hrest, List.map_cons, placeUnit]

theorem layOutUnits_of_none {us : List SourceUnit} {a : SiteId.Allocator}
    (h : identifyUnits a us = none) : (layOutUnits a us).2 = none ∧
      StopsAt (Forest.walk { units := us }) (Forest.walk { units := (layOutUnits a us).1 }) := by
  induction us generalizing a with
  | nil => cases h
  | cons u us ih =>
    rw [identifyUnits_cons] at h
    rw [layOutUnits, Forest.walk_cons]
    cases hfirst : identifyAll a u.declarations with
    | none =>
      obtain ⟨hnone, hstops⟩ :=
        layOutDeclarations_of_none 0 { file := u.path } u.declarations a hfirst
      generalize layOutDeclarations 0 { file := u.path } a u.declarations = result
        at hnone hstops ⊢
      obtain ⟨declarations, _⟩ := result
      cases hnone
      rw [Forest.walk_cons]
      exact ⟨rfl, hstops.append_right _⟩
    | some first =>
      rw [hfirst, Option.bind_some, Option.map_eq_none_iff] at h
      rw [layOutDeclarations_of_some _ _ _ _ _ hfirst]
      obtain ⟨hnone, hstops⟩ := ih h
      rw [Forest.walk_cons]
      exact ⟨hnone, hstops.append (length_walkAll_placed hfirst)⟩

end Layout

namespace Forest

open Layout SiteId

variable {f g : Forest}

/-! ### Whole forests -/

/-- Fills in the missing identities; `none` if there are more sites than identities. -/
def identify (f : Forest) : Option Forest :=
  (identifyUnits (.ofUsed f.ids) f.units).map fun r => { units := r.1 }

/-- Fills in the missing locations. -/
def locate (f : Forest) : Forest := { units := f.units.map placeUnit }

/-- Laying out a forest is filling in the identities, then the locations. -/
theorem layout_eq (f : Forest) : f.layout = f.identify.map locate := by
  rw [layout, layOut, identify]
  cases h : identifyUnits (.ofUsed f.ids) f.units with
  | some r =>
    rw [layOutUnits_of_some h]
    rfl
  | none =>
    obtain ⟨hnone, _⟩ := layOutUnits_of_none h
    simp [hnone]

theorem layOut_of_layout (h : f.layout = some g) : f.layOut = (g, true) := by
  rw [layout] at h
  generalize f.layOut = result at h ⊢
  obtain ⟨g', _ | _⟩ := result
  · cases h
  · cases h
    rfl

/-- If there are not enough identities, laying out a forest stops at a site without one. -/
theorem stopsAt_of_layout (h : f.layout = none) : StopsAt f.walk f.layOut.1.walk := by
  rw [layout_eq, Option.map_eq_none_iff, identify, Option.map_eq_none_iff] at h
  exact (layOutUnits_of_none h).2

/-- What does not depend on the locations of a site stays when a forest is located. -/
theorem map_walk_locate {α : Type} {p : Site → α}
    (hp : ∀ depth c s, p (placeSite depth c s).1 = p s) (f : Forest) :
    f.locate.walk.map p = f.walk.map p := by
  obtain ⟨us⟩ := f
  induction us with
  | nil => rfl
  | cons u us ih =>
    rw [locate, List.map_cons, walk_cons, walk_cons, List.map_append, List.map_append]
    exact congrArg₂ (· ++ ·) (map_walkAll_placeDeclarations hp 0 _ u.declarations) ih

@[simp]
theorem ids_locate (f : Forest) : f.locate.ids = f.ids :=
  map_walk_locate (fun _ _ _ => rfl) f

@[simp]
theorem locate_locate (f : Forest) : f.locate.locate = f.locate := by
  simp only [locate, List.map_map]
  congr 1
  exact List.map_congr_left fun u _ => placeUnit_placeUnit u

/-- What depends neither on the identity nor on the locations of a site stays when a forest is
laid out. -/
theorem map_walk_layout {α : Type} {p : Site → α} (hid : ∀ s id, p { s with id } = p s)
    (hplace : ∀ depth c s, p (placeSite depth c s).1 = p s) (h : f.layout = some g) :
    g.walk.map p = f.walk.map p := by
  -- Identities are filled in first, then locations.
  rw [layout_eq] at h
  obtain ⟨e, he, rfl⟩ := Option.map_eq_some_iff.mp h
  obtain ⟨r, hr, rfl⟩ := Option.map_eq_some_iff.mp he
  rw [map_walk_locate hplace, map_walk_identifyUnits hid f.units _ r hr]

/-- The layout of a forest fills in its identities like a list. -/
theorem map_ids_layout (f : Forest) :
    f.layout.map ids = ((Allocator.ofUsed f.ids).fill f.ids).map Prod.fst := by
  have hunits := map_ids_identifyUnits (Allocator.ofUsed f.ids) f.units
  change _ = (Allocator.fill _ (ids { units := f.units })).map _
  rw [layout_eq, identify, Option.map_map, Option.map_map, ← hunits, Option.map_map]
  simp only [Function.comp_def, ids_locate]

/-- In a forest that is laid out, sites keep the identities that they had, and the new ones are
free and different from each other. -/
theorem fills_ids (h : f.layout = some g) : ∃ fresh, Allocator.Fills f.ids f.ids g.ids fresh := by
  have hids := map_ids_layout f
  rw [h, Option.map_some, eq_comm, Option.map_eq_some_iff] at hids
  obtain ⟨⟨jds, b⟩, hfill, rfl⟩ := hids
  obtain ⟨fresh, hfills⟩ := Allocator.fills_of_fill (Allocator.isId_candidate_ofUsed f.ids) hfill
  refine ⟨fresh, hfills.places, hfills.perm, hfills.nodup, fun id hid => ?_⟩
  -- The allocator leaves out zero, which no new identity is.
  obtain ⟨hfree, hisId⟩ := hfills.free id hid
  refine ⟨fun hmem => hfree ?_, hisId⟩
  exact Allocator.mem_used_ofUsed.mpr ⟨hmem, Nat.pos_iff_ne_zero.mp hisId.1⟩

/-- A forest with no more sites than identities can be laid out. -/
theorem exists_layout (h : f.size ≤ SiteId.last) : ∃ g, f.layout = some g := by
  have hlen : f.ids.length = f.size := List.length_map _
  have hroom := Allocator.length_used_ofUsed_add_count f.ids
  obtain ⟨jds, b, hfill⟩ :=
    Allocator.exists_fill (Allocator.isId_candidate_ofUsed f.ids) f.ids (by omega)
  have hids := map_ids_layout f
  rw [hfill, Option.map_some, Option.map_eq_some_iff] at hids
  obtain ⟨g, hg, _⟩ := hids
  exact ⟨g, hg⟩

/-- In a forest that is laid out, every site has an identity. -/
theorem id_ne_zero_of_layout (h : f.layout = some g) : ∀ s ∈ g.walk, s.id ≠ 0 := by
  intro s hs
  obtain ⟨fresh, hfills⟩ := fills_ids h
  have hmem : s.id ∈ g.ids := List.mem_map_of_mem hs
  rw [hfills.perm.mem_iff, List.mem_append] at hmem
  rcases hmem with hkept | hnew
  · simpa using (List.mem_filter.mp hkept).2
  · exact Nat.pos_iff_ne_zero.mp (hfills.free s.id hnew).2.1

/-- A forest that is laid out stays as it is when it is laid out again. -/
theorem layout_of_layout (h : f.layout = some g) : g.layout = some g := by
  have hid : g.identify = some g := by
    rw [identify, identifyUnits_of_forall_ne_zero _ g.units (id_ne_zero_of_layout h)]
    rfl
  rw [layout_eq] at h
  obtain ⟨e, _, rfl⟩ := Option.map_eq_some_iff.mp h
  rw [layout_eq, hid, Option.map_some, locate_locate]

end Forest

end BannerGen
