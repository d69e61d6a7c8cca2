import BannerGen.Proofs.Layout

/-!
# Forests without identities and locations

The layout of a forest changes identities and locations and nothing else. `Forest.bare` is a forest
without both, and what it leaves out is listed by `Forest.ids` and `Forest.spans`, so these three
say all that there is to say about a forest (`Forest.eq_of_bare_eq`).

Giving identities and placing keep the bare declarations. Since the lines of the imagined text have
the same widths in bare declarations, placing these goes through the same cursors
(`Layout.snd_placeDeclarations_bareAll`).
-/

namespace BannerGen

/-! ### Bare declarations -/

/-- The argument without its location. -/
def Argument.bare (a : Argument) : Argument := { a with span := {} }

/-- The attribute and its arguments without their locations. -/
def Attribute.bare (a : Attribute) : Attribute :=
  { a with arguments := a.arguments.map Argument.bare, span := {} }

/-- The member without its location. -/
def Member.bare (m : Member) : Member := { m with span := {} }

/-- The site without its identity and without any locations. -/
def Site.bare (s : Site) : Site :=
  { s with
    id := 0
    attributes := s.attributes.map Attribute.bare
    members := s.members.map Member.bare
    span := {} }

namespace Declaration

mutual

/-- The declaration without identities and locations, at any depth. -/
def bare : Declaration → Declaration
  | mk s nested => mk s.bare (bareAll nested)

/-- Several declarations without identities and locations. -/
def bareAll : List Declaration → List Declaration
  | [] => []
  | d :: ds => bare d :: bareAll ds

end

mutual

theorem walk_bare : ∀ d, walk (bare d) = (walk d).map Site.bare
  | mk s nested => by rw [bare, walk, walk, walkAll_bareAll, List.map_cons]

/-- The sites of bare declarations are the bare sites. -/
theorem walkAll_bareAll : ∀ ds, walkAll (bareAll ds) = (walkAll ds).map Site.bare
  | [] => rfl
  | d :: ds => by rw [bareAll, walkAll, walkAll, walk_bare, walkAll_bareAll, List.map_append]

end

end Declaration

/-- The unit without identities and locations. -/
def SourceUnit.bare (u : SourceUnit) : SourceUnit :=
  { u with declarations := Declaration.bareAll u.declarations }

/-- The forest without identities and locations. -/
def Forest.bare (f : Forest) : Forest := { units := f.units.map SourceUnit.bare }

/-! ### What a bare forest leaves out -/

/-- Lists are equal if their elements have the same shapes and the same data, where the shape of an
element says how many data it has, and an element is known from both. -/
theorem eq_of_map_eq_of_flatMap_eq {α β δ : Type} {shape : α → β} {data : α → List δ}
    (hlength : ∀ a b, shape a = shape b → (data a).length = (data b).length)
    (heq : ∀ a b, shape a = shape b → data a = data b → a = b) {as bs : List α}
    (hshape : as.map shape = bs.map shape) (hdata : as.flatMap data = bs.flatMap data) :
    as = bs := by
  induction as generalizing bs with
  | nil =>
    cases bs with
    | nil => rfl
    | cons b bs => cases hshape
  | cons a as ih =>
    cases bs with
    | nil => cases hshape
    | cons b bs =>
      rw [List.map_cons, List.map_cons, List.cons.injEq] at hshape
      rw [List.flatMap_cons, List.flatMap_cons] at hdata
      -- The first elements have as many data, so both lists are cut at the same place.
      obtain ⟨hfirst, hrest⟩ := List.append_inj hdata (hlength a b hshape.1)
      rw [heq a b hshape.1 hfirst, ih hshape.2 hrest]

theorem Attribute.length_spans_bare (a : Attribute) : a.bare.spans.length = a.spans.length := by
  simp [bare, spans]

theorem Attribute.eq_of_bare_eq {a b : Attribute} (h : a.bare = b.bare)
    (hspans : a.spans = b.spans) : a = b := by
  obtain ⟨name, arguments, span⟩ := a
  obtain ⟨name', arguments', span'⟩ := b
  simp only [bare, spans, mk.injEq, List.cons.injEq, List.map_eq_flatMap (f := Argument.span)]
    at h hspans
  obtain ⟨rfl, harguments, -⟩ := h
  obtain ⟨rfl, hspans⟩ := hspans
  have hargument (x y : Argument) (h : x.bare = y.bare) (hspan : [x.span] = [y.span]) : x = y := by
    cases x
    cases y
    simp_all [Argument.bare]
  rw [eq_of_map_eq_of_flatMap_eq (fun _ _ _ => rfl) hargument harguments hspans]

theorem Site.length_spans_bare (s : Site) : s.bare.spans.length = s.spans.length := by
  simp [bare, spans, List.length_flatMap, Function.comp_def, Attribute.length_spans_bare]

/-- A site is known from its bare form, its identity and its locations. -/
theorem Site.eq_of_bare_eq {s t : Site} (h : s.bare = t.bare) (hid : s.id = t.id)
    (hspans : s.spans = t.spans) : s = t := by
  obtain ⟨id, name, kind, scope, isPartial, attributes, members, span⟩ := s
  obtain ⟨id', name', kind', scope', isPartial', attributes', members', span'⟩ := t
  simp only [bare, mk.injEq] at h hid
  obtain ⟨-, rfl, rfl, rfl, rfl, hattributes, hmembers, -⟩ := h
  subst hid
  rw [spans, spans, List.cons.injEq] at hspans
  obtain ⟨rfl, hspans⟩ := hspans
  -- There are as many members, so the locations of the attributes end at the same place.
  have hcount : members.length = members'.length := by
    simpa using congrArg List.length hmembers
  obtain ⟨hspans, hspans'⟩ := List.append_inj' hspans (by simpa using hcount)
  have hlength (a b : Attribute) (h : a.bare = b.bare) : a.spans.length = b.spans.length := by
    rw [← a.length_spans_bare, h, b.length_spans_bare]
  have hmember (m n : Member) (h : m.bare = n.bare) (hspan : [m.span] = [n.span]) : m = n := by
    cases m
    cases n
    simp_all [Member.bare]
  rw [List.map_eq_flatMap, List.map_eq_flatMap (f := Member.span)] at hspans'
  rw [eq_of_map_eq_of_flatMap_eq hlength (fun _ _ => Attribute.eq_of_bare_eq) hattributes hspans,
    eq_of_map_eq_of_flatMap_eq (fun _ _ _ => rfl) hmember hmembers hspans']

namespace Declaration

mutual

theorem eq_of_walk_eq : ∀ d e, bare d = bare e → walk d = walk e → d = e
  | mk s nested, mk t nested', hbare, hwalk => by
    rw [bare, bare, mk.injEq] at hbare
    rw [walk, walk, List.cons.injEq] at hwalk
    rw [hwalk.1, eq_of_walkAll_eq nested nested' hbare.2 hwalk.2]

/-- Declarations are known from their bare forms, which tell how they are nested, and their
sites. -/
theorem eq_of_walkAll_eq : ∀ ds es, bareAll ds = bareAll es → walkAll ds = walkAll es → ds = es
  | [], [], _, _ => rfl
  | [], _ :: _, hbare, _ => by cases hbare
  | _ :: _, [], hbare, _ => by cases hbare
  | d :: ds, e :: es, hbare, hwalk => by
    rw [bareAll, bareAll, List.cons.injEq] at hbare
    rw [walkAll, walkAll] at hwalk
    -- The bare forms have as many sites, so those of the first declarations end at the same place.
    have hlength : (walk d).length = (walk e).length := by
      rw [← List.length_map Site.bare, ← walk_bare, hbare.1, walk_bare, List.length_map]
    obtain ⟨hfirst, hrest⟩ := List.append_inj hwalk hlength
    rw [eq_of_walk_eq d e hbare.1 hfirst, eq_of_walkAll_eq ds es hbare.2 hrest]

end

end Declaration

theorem Forest.walk_bare (f : Forest) : f.bare.walk = f.walk.map Site.bare := by
  simp only [walk_eq_flatMap, bare, SourceUnit.bare, List.flatMap_map, List.map_flatMap,
    Declaration.walkAll_bareAll]

/-- A forest is known from its bare form, its identities and its locations. -/
theorem Forest.eq_of_bare_eq {f g : Forest} (hbare : f.bare = g.bare) (hids : f.ids = g.ids)
    (hspans : f.spans = g.spans) : f = g := by
  have hwalk : f.walk = g.walk := by
    have hsites : f.walk.map (fun s => (s.bare, s.id)) = g.walk.map fun s => (s.bare, s.id) := by
      rw [← List.zip_map', ← List.zip_map', ← walk_bare, ← walk_bare, hbare]
      exact congrArg _ hids
    refine eq_of_map_eq_of_flatMap_eq (fun s t h => ?_) (fun s t h => ?_) hsites hspans
    · rw [← s.length_spans_bare, (Prod.mk.inj h).1, t.length_spans_bare]
    · exact Site.eq_of_bare_eq (Prod.mk.inj h).1 (Prod.mk.inj h).2
  -- The sites are now divided among the units, as many for each as its bare form has.
  have hunits : f.units = g.units := by
    rw [walk_eq_flatMap, walk_eq_flatMap] at hwalk
    refine eq_of_map_eq_of_flatMap_eq (fun u v h => ?_) (fun u v h hsites => ?_)
      (congrArg units hbare) hwalk
    · have hlength := congrArg (fun u => (Declaration.walkAll u.declarations).length) h
      simpa only [SourceUnit.bare, Declaration.walkAll_bareAll, List.length_map] using hlength
    · obtain ⟨path, ds⟩ := u
      obtain ⟨path', es⟩ := v
      obtain ⟨rfl, hdeclarations⟩ := SourceUnit.mk.inj h
      rw [Declaration.eq_of_walkAll_eq ds es hdeclarations hsites]
  cases f
  cases g
  exact congrArg Forest.mk hunits

/-! ### Widths -/

/-- The width of arguments comes from their labels and values. -/
theorem Attribute.argumentsWidth_map_bare (as : List Argument) :
    argumentsWidth (as.map Argument.bare) = argumentsWidth as := by
  induction as with
  | nil => rfl
  | cons a as ih =>
    -- There is a separator only if another argument follows.
    rcases as with _ | ⟨b, as⟩
    · rfl
    · show a.width + 2 + argumentsWidth ((b :: as).map Argument.bare) = _
      rw [ih, argumentsWidth]

@[simp]
theorem Attribute.width_bare (a : Attribute) : a.bare.width = a.width := by
  simp only [width, bare, argumentsWidth_map_bare]

/-! ### Cursors -/

namespace Layout

open Declaration

@[simp]
theorem snd_placeAttributes_bare (indent : Nat) (c : Cursor) (as : List Attribute) :
    (placeAttributes indent c (as.map Attribute.bare)).2 = (placeAttributes indent c as).2 := by
  induction as generalizing c with
  | nil => rfl
  | cons a as ih => simp only [List.map_cons, placeAttributes, Attribute.width_bare, ih]

@[simp]
theorem snd_placeMembers_bare (indent : Nat) (c : Cursor) (ms : List Member) :
    (placeMembers indent c (ms.map Member.bare)).2 = (placeMembers indent c ms).2 := by
  induction ms generalizing c with
  | nil => rfl
  | cons m ms ih => simp only [List.map_cons, placeMembers, Member.bare, ih]

@[simp]
theorem snd_placeSite_bare (depth : Nat) (c : Cursor) (s : Site) :
    (placeSite depth c s.bare).2 = (placeSite depth c s).2 := by
  -- The header has the same width, so the members begin on the same line.
  have hwidth : s.bare.headerWidth = s.headerWidth := rfl
  simp only [placeSite, hwidth]
  simp only [Site.bare, snd_placeAttributes_bare, snd_placeMembers_bare]

mutual

@[simp]
theorem snd_placeDeclaration_bare (depth : Nat) (c : Cursor) :
    ∀ d, (placeDeclaration depth c d.bare).2 = (placeDeclaration depth c d).2
  | .mk s nested => by
    simp only [bare, placeDeclaration, snd_placeSite_bare]
    rw [snd_placeDeclarations_bareAll]

/-- Bare declarations take up the same lines. -/
@[simp]
theorem snd_placeDeclarations_bareAll (depth : Nat) (c : Cursor) :
    ∀ ds, (placeDeclarations depth c (bareAll ds)).2 = (placeDeclarations depth c ds).2
  | [] => rfl
  | d :: ds => by
    simp only [bareAll, placeDeclarations]
    rw [snd_placeDeclaration_bare, snd_placeDeclarations_bareAll]

end

/-! ### What the layout keeps -/

theorem bare_placeSite (depth : Nat) (c : Cursor) (s : Site) :
    (placeSite depth c s).1.bare = s.bare := by
  -- Wherever they are put, placed attributes differ from the given ones in locations only.
  have hattribute (c : Cursor) (indent : Nat) (a : Attribute) :
      (placeAttribute c indent a).bare = a.bare := by
    simp only [Attribute.bare, placeAttribute]
    rw [map_placeArguments fun _ _ => rfl]
  simp only [Site.bare, placeSite]
  rw [map_placeAttributes fun c a => hattribute c _ a, map_placeMembers fun _ _ => rfl]

mutual

theorem bare_placeDeclaration (depth : Nat) (c : Cursor) :
    ∀ d, (placeDeclaration depth c d).1.bare = d.bare
  | .mk s nested => by
    rw [placeDeclaration, bare, bare, bare_placeSite, bareAll_placeDeclarations]

theorem bareAll_placeDeclarations (depth : Nat) (c : Cursor) :
    ∀ ds, bareAll (placeDeclarations depth c ds).1 = bareAll ds
  | [] => by rw [placeDeclarations]
  | d :: ds => by
    rw [placeDeclarations, bareAll, bareAll, bare_placeDeclaration, bareAll_placeDeclarations]

end

mutual

theorem bare_identify : ∀ d a r, identify a d = some r → r.1.bare = d.bare
  | .mk s nested, a, r, h => by
    rw [identify_mk, Option.bind_eq_some_iff] at h
    obtain ⟨first, _, h⟩ := h
    obtain ⟨rest, hrest, rfl⟩ := Option.map_eq_some_iff.mp h
    rw [bare, bare, bareAll_identifyAll nested first.2 rest hrest]
    rfl

theorem bareAll_identifyAll : ∀ ds a r, identifyAll a ds = some r → bareAll r.1 = bareAll ds
  | [], a, r, h => by
    cases h
    rfl
  | d :: ds, a, r, h => by
    rw [identifyAll_cons, Option.bind_eq_some_iff] at h
    obtain ⟨first, hfirst, h⟩ := h
    obtain ⟨rest, hrest, rfl⟩ := Option.map_eq_some_iff.mp h
    rw [bareAll, bareAll, bare_identify d a first hfirst,
      bareAll_identifyAll ds first.2 rest hrest]

end

end Layout

end BannerGen
