import BannerGen.Proofs.Generation
import Mathlib.Data.List.Perm.Basic

/-!
# Accounting for markers

Every marker of a forest comes to exactly one thing, a diagnostic or a member of a fragment, and an
output holds nothing else. `Occurrence.product` says what an occurrence comes to after those before
it, and `products` lists this for all occurrences. The diagnostics and the members of an output are
a permutation of that list (`Session.Reflects.products_perm`): collecting divides the occurrences
into rejected and accepted ones, the ledger groups the accepted ones by type, each group is sorted
by location, and the fonts divide it once more.
-/

namespace BannerGen

/-- What comes of a marker. -/
inductive Product where
  /-- A diagnostic. -/
  | report (d : Diagnostic)
  /-- A member of the fragment of a type. -/
  | member (key : TypeKey) (m : RenderedMember)
deriving DecidableEq, Repr

/-- What comes of a request that was accepted for a type: a member, or a diagnostic if the font is
unknown. -/
def Request.product (render : Renderer) (key : TypeKey) (r : Request) : Product :=
  match render r.fontName r.sourceText with
  | some value => .member key { name := r.memberName, value }
  | none => .report (.about .unknownFont r.fontNameLocation r.fontName)

/-- What comes of an occurrence after the `earlier` ones. -/
def Occurrence.product (resolver : Resolver Id) (render : Renderer) (earlier : List Occurrence)
    (a : Occurrence) : Product :=
  match a.rejection? resolver earlier with
  | some d => .report d
  | none => a.request.product render a.key

/-- What comes of occurrences, in their order. -/
def products (resolver : Resolver Id) (render : Renderer) (as : List Occurrence) :
    List Product :=
  (history as).map fun (earlier, a) => a.product resolver render earlier

/-- All that an output holds: its diagnostics, and the members of its fragments. -/
def Output.products (o : Output) : List Product :=
  o.diagnostics.map .report ++ o.fragments.flatMap fun fr => fr.members.map (.member fr.key)

/-! ### Dividing and grouping -/

section Perm

variable (resolver : Resolver Id) (render : Renderer) (as : List Occurrence)

theorem products_concat (a : Occurrence) :
    products resolver render (as ++ [a]) =
      products resolver render as ++ [a.product resolver render as] := by
  rw [products, history_concat, List.map_append]
  rfl

/-- What comes of occurrences is the diagnostics of the rejected ones and what comes of the
accepted ones. -/
theorem products_perm_rejections_accepted :
    (products resolver render as).Perm
      ((rejections resolver as).map .report ++
        (accepted resolver as).map fun a => a.request.product render a.key) := by
  induction as using List.reverseRecOn with
  | nil => exact .refl _
  | append_singleton as a ih =>
    have hlast := ih.append_right [a.product resolver render as]
    rw [products_concat, rejections_concat, accepted_concat]
    refine hlast.trans ?_
    rw [List.append_assoc]
    cases hd : a.rejection? resolver as with
    | none => simp [Occurrence.product, hd]
    | some d =>
      -- The new diagnostic moves in front of what comes of the accepted occurrences.
      simp only [Occurrence.product, hd, Option.toList_some, List.map_append, List.map_singleton,
        reduceCtorEq, if_false, List.append_nil, List.append_assoc]
      exact List.perm_append_comm.append_left _

/-- A list is a permutation of its groups, if the groups are told apart by keys among which every
element finds its own. -/
theorem flatMap_filter_perm {α κ : Type} [DecidableEq κ] (key : α → κ) {keys : List κ}
    (hkeys : keys.Nodup) {l : List α} (h : ∀ a ∈ l, key a ∈ keys) :
    (keys.flatMap fun k => l.filter (key · = k)).Perm l := by
  induction keys generalizing l with
  | nil =>
    have hnil : l = [] := List.eq_nil_iff_forall_not_mem.mpr fun a ha => by simpa using h a ha
    rw [hnil]
    exact .refl _
  | cons k keys ih =>
    obtain ⟨hk, hkeys⟩ := List.nodup_cons.mp hkeys
    -- The groups of the other keys do not change when the first group is left out.
    have hrest : (keys.flatMap fun k' => l.filter (key · = k')) =
        keys.flatMap fun k' => (l.filter fun a => !decide (key a = k)).filter (key · = k') := by
      refine List.flatMap_congr fun k' hk' => ?_
      rw [List.filter_filter]
      refine List.filter_congr fun a _ => ?_
      have hne : k' ≠ k := fun e => hk (e ▸ hk')
      by_cases ha : key a = k' <;> simp [ha, hne]
    have hothers := ih hkeys (l := l.filter fun a => !decide (key a = k)) fun a ha => by
      obtain ⟨hmem, hne⟩ := List.mem_filter.mp ha
      simpa [by simpa using hne] using h a hmem
    rw [List.flatMap_cons, hrest]
    exact (hothers.append_left _).trans (List.filter_append_perm _ l)

/-- The accepted occurrences are a permutation of those accepted for each type. -/
theorem flatMap_acceptedFor_perm :
    ((eligibleKeys as).flatMap fun key => acceptedFor resolver as key).Perm
      (accepted resolver as) := by
  have hgroups : ((eligibleKeys as).flatMap fun key => acceptedFor resolver as key) =
      (eligibleKeys as).flatMap fun key => (accepted resolver as).filter (·.key = key) := by
    refine List.flatMap_congr fun key _ => List.filter_congr fun a ha => ?_
    simp [Occurrence.IsEligibleFor, (isEligible_of_mem_accepted ha).1]
  rw [hgroups]
  refine flatMap_filter_perm Occurrence.key (nodup_eligibleKeys as) fun a ha => ?_
  exact mem_eligibleKeys.mpr ⟨a, (accepted_sublist resolver as).subset ha,
    (isEligible_of_mem_accepted ha).1, rfl⟩

/-- What comes of accepted requests is the diagnostics for unknown fonts and the rendered
members. -/
theorem map_product_perm (key : TypeKey) (rs : List Request) :
    (rs.map (Request.product render key)).Perm
      ((Session.unknownFonts render rs).map .report ++
        (Session.renderedMembers render rs).map (.member key)) := by
  induction rs with
  | nil => exact .refl _
  | cons r rs ih =>
    rw [List.map_cons, Request.product, Session.unknownFonts, Session.renderedMembers,
      List.filterMap_cons, List.filterMap_cons]
    cases render r.fontName r.sourceText with
    | none => exact ih.cons _
    | some value => exact (ih.cons _).trans List.perm_middle.symm

/-- What comes of the occurrences accepted for a type. -/
theorem map_product_acceptedFor_perm (key : TypeKey) :
    ((acceptedFor resolver as key).map fun a => a.request.product render a.key).Perm
      ((Session.unknownFonts render (sortedRequests resolver as key)).map .report ++
        (Session.renderedMembers render (sortedRequests resolver as key)).map (.member key)) := by
  have hkey : ((acceptedFor resolver as key).map fun a => a.request.product render a.key) =
      ((acceptedFor resolver as key).map Occurrence.request).map (Request.product render key) := by
    rw [List.map_map]
    refine List.map_congr_left fun a ha => ?_
    rw [(mem_acceptedFor.mp ha).2]
    rfl
  rw [hkey]
  exact ((sortedRequests_perm resolver as key).map _).symm.trans (map_product_perm render key _)

end Perm

namespace Session

variable {resolver : Resolver Id} {as : List Occurrence} {s : Session}

/-- Putting diagnostics in order loses and adds nothing. -/
theorem ordered_perm (order : DiagnosticOrder) (ds : List Diagnostic) :
    (ordered order ds).Perm ds := by
  cases order with
  | discovery => exact .refl _
  | location => exact Span.sortBy_perm _ _

/-- An output holds what comes of the occurrences, and nothing else. -/
theorem Reflects.products_perm (h : Reflects resolver as s) (settings : Settings)
    (render : Renderer) :
    (products resolver render as).Perm (s.finish settings render).products := by
  have hfragments := congrArg (List.flatMap fun (p : TypeKey × List RenderedMember) =>
    p.2.map (Product.member p.1)) (h.fragments settings render)
  rw [List.flatMap_map, List.flatMap_map] at hfragments
  have hdiagnostics := ordered_perm settings.diagnostics.order
    (rejections resolver as ++ (eligibleKeys as).flatMap fun key =>
      unknownFonts render (sortedRequests resolver as key))
  rw [← h.finish_diagnostics settings render] at hdiagnostics
  -- The accepted occurrences, type by type, and each type divided by whether fonts are known.
  have haccepted : ((accepted resolver as).map fun a => a.request.product render a.key).Perm
      (((eligibleKeys as).flatMap fun key =>
          unknownFonts render (sortedRequests resolver as key)).map .report ++
        (eligibleKeys as).flatMap fun key =>
          (renderedMembers render (sortedRequests resolver as key)).map (.member key)) := by
    refine ((flatMap_acceptedFor_perm resolver as).map _).symm.trans ?_
    rw [List.map_flatMap, List.map_flatMap]
    refine List.Perm.trans ?_ (List.flatMap_append_perm _ _ _).symm
    exact List.Perm.flatMap_left _ fun key _ => map_product_acceptedFor_perm resolver render as key
  refine (products_perm_rejections_accepted resolver render as).trans ?_
  refine (haccepted.append_left _).trans ?_
  rw [← List.append_assoc, ← List.map_append, Output.products, hfragments]
  exact (hdiagnostics.symm.map _).append_right _

end Session

/-! ### The markers of a forest -/

namespace Occurrence

variable {resolver : Resolver Id} {render : Renderer} {earlier : List Occurrence} {a : Occurrence}

/-- A member comes exactly of an accepted occurrence whose font is known. -/
theorem product_eq_member_iff {key : TypeKey} {m : RenderedMember} :
    a.product resolver render earlier = .member key m ↔
      a.rejection? resolver earlier = none ∧ key = a.key ∧ m.name = a.memberName ∧
        render a.marker.fontName.value a.marker.sourceText.value = some m.value := by
  obtain ⟨name, value⟩ := m
  rw [product]
  cases a.rejection? resolver earlier with
  | some d => simp
  | none =>
    simp only [Request.product, request, Request.ofMarker, memberName]
    cases render a.marker.fontName.value a.marker.sourceText.value with
    | none => simp
    | some text => simp [eq_comm]

/-- An unknown font is reported exactly of an accepted occurrence whose font is unknown. -/
theorem product_eq_unknownFont_iff :
    (∃ d, a.product resolver render earlier = .report d ∧ d.kind = .unknownFont) ↔
      a.rejection? resolver earlier = none ∧
        render a.marker.fontName.value a.marker.sourceText.value = none := by
  rw [product]
  cases hd : a.rejection? resolver earlier with
  | some d =>
    have hkind : d.kind ≠ .unknownFont := by
      rw [rejection?_eq_some_iff] at hd
      rcases hd with ⟨_, rfl⟩ | ⟨_, _, rfl⟩ | ⟨_, _, _, rfl⟩ | ⟨_, _, rfl⟩
      all_goals simp [Diagnostic.about]
    simp [hkind]
  | none =>
    simp only [Request.product, request, Request.ofMarker]
    cases render a.marker.fontName.value a.marker.sourceText.value with
    | none => simp [Diagnostic.about]
    | some text => simp

end Occurrence

namespace Forest

open Occurrence

variable {f : Forest}

/-- The markers of a forest, depth first, each with its site and its attribute. -/
def markers (f : Forest) : List (Site × Attribute × Marker) :=
  f.walk.flatMap fun site => site.markers.map fun m => (site, m)

/-- The occurrences of a forest are its markers. -/
theorem map_occurrences (f : Forest) :
    f.occurrences.map (fun a => (a.site, a.attr, a.marker)) = f.markers := by
  rw [occurrences, BannerGen.occurrences, List.map_flatMap, markers, ← map_site_subtrees,
    List.flatMap_map]
  refine List.flatMap_congr fun d hd => ?_
  obtain ⟨type, htype⟩ := Option.isSome_iff_exists.mp (isSome_resolve? hd)
  rw [occurrencesAt, run_resolve htype, List.map_map]
  rfl

/-- If no identity is repeated, the type of an occurrence is that of its site in its place. -/
theorem exists_mem_placements (hids : (f.walk.map Site.id).Nodup) {a : Occurrence}
    (ha : a ∈ f.occurrences) :
    ∃ container, (a.site, container) ∈ f.placements ∧
      a.type = { key := a.site.key, container } := by
  rw [occurrences, BannerGen.occurrences, List.mem_flatMap] at ha
  obtain ⟨d, hd, ha⟩ := ha
  have hsite := site_mem_walk hd
  rw [← map_fst_placements, List.mem_map] at hsite
  obtain ⟨⟨site, container⟩, hp, rfl⟩ := hsite
  have htype := resolve?_of_mem_placements hids hp
  rw [occurrencesAt, run_resolve htype, List.mem_map] at ha
  obtain ⟨m, _, rfl⟩ := ha
  exact ⟨container, hp, rfl⟩

/-- If no identity is repeated, the type of an occurrence is nested exactly if its site is. -/
theorem isNested_eq_false_iff (hids : (f.walk.map Site.id).Nodup) {a : Occurrence}
    (ha : a ∈ f.occurrences) : a.type.isNested = false ↔ f.IsTopLevel a.site := by
  obtain ⟨container, hp, htype⟩ := exists_mem_placements hids ha
  have hresolve := resolve?_of_mem_placements hids hp
  rw [htype, ResolvedType.isNested, Option.isSome_eq_false_iff, Option.isNone_iff_eq_none,
    ← mem_placements_none]
  constructor
  · intro hnone
    rwa [← hnone]
  · -- The same site in two places would be resolved in two ways.
    intro htop
    have hnone := resolve?_of_mem_placements hids htop
    simpa [hresolve] using hnone

/-- If no identity is repeated, what an occurrence of a forest comes to fits its site: a member
belongs to the type of a partial site that is not nested, and a marker on a nested site is
reported as such. -/
theorem product_fits_site (hids : (f.walk.map Site.id).Nodup) (render : Renderer)
    (earlier : List Occurrence) {a : Occurrence} (ha : a ∈ f.occurrences) :
    (∀ key m, a.product f.resolver render earlier = .member key m →
      f.IsTopLevel a.site ∧ a.site.isPartial = true ∧ key = a.site.key ∧
        m.name = a.memberName ∧
        render a.marker.fontName.value a.marker.sourceText.value = some m.value) ∧
    (¬ f.IsTopLevel a.site →
      a.product f.resolver render earlier =
        .report (.about .nestedTypeUnsupported a.attr.span a.site.name)) := by
  constructor
  · intro key m hproduct
    obtain ⟨hnone, hkey, hname, hrender⟩ := product_eq_member_iff.mp hproduct
    obtain ⟨⟨hnested, hpartial, _⟩, _⟩ := rejection?_eq_none_iff.mp hnone
    obtain ⟨container, _, htype⟩ := exists_mem_placements hids ha
    refine ⟨(isNested_eq_false_iff hids ha).mp hnested, hpartial, ?_, hname, hrender⟩
    rw [hkey, Occurrence.key, htype, Site.normalized_key]
  · intro htop
    have hnested : a.type.isNested = true := by
      rw [← Bool.not_eq_false, isNested_eq_false_iff hids ha]
      exact htop
    have hreject : a.rejection? f.resolver earlier =
        some (.about .nestedTypeUnsupported a.attr.span a.site.name) :=
      rejection?_eq_some_iff.mpr (.inl ⟨hnested, rfl⟩)
    rw [product, hreject]

/-- Generation accounts for every marker of a forest in which no identity is repeated. What comes
of the markers, one thing of each, is a permutation of the diagnostics and the members of the
output, and the fragments belong to different types. A marker that comes to a member is on a
partial site that is not nested and gives the member its name and its text, in the fragment of the
site's own type; one on a nested site comes to a diagnostic that says so; and one comes to a
diagnostic about an unknown font exactly if it is accepted and the font is unknown. -/
theorem generate_accounts_for_markers (settings : Settings) (render : Renderer) (f : Forest)
    (hids : (f.walk.map Site.id).Nodup) :
    ∃ output, f.generate settings render = .ok output ∧
      f.occurrences.map (fun a => (a.site, a.attr, a.marker)) = f.markers ∧
      (products f.resolver render f.occurrences).Perm output.products ∧
      f.markers.length =
        output.diagnostics.length + (output.fragments.flatMap Fragment.members).length ∧
      (output.fragments.map Fragment.key).Nodup ∧
      ∀ earlier a, (earlier, a) ∈ history f.occurrences →
        (∀ key m, a.product f.resolver render earlier = .member key m →
          f.IsTopLevel a.site ∧ a.site.isPartial = true ∧ key = a.site.key ∧
            m.name = a.memberName ∧
            render a.marker.fontName.value a.marker.sourceText.value = some m.value) ∧
        (¬ f.IsTopLevel a.site →
          a.product f.resolver render earlier =
            .report (.about .nestedTypeUnsupported a.attr.span a.site.name)) ∧
        ((∃ d, a.product f.resolver render earlier = .report d ∧ d.kind = .unknownFont) ↔
          a.rejection? f.resolver earlier = none ∧
            render a.marker.fontName.value a.marker.sourceText.value = none) := by
  have hreflects := f.reflects_session
  have hperm := hreflects.products_perm settings render
  refine ⟨_, generate_eq settings render f, f.map_occurrences, hperm, ?_, ?_, ?_⟩
  · -- A permutation keeps the length, and there is one product for each marker.
    have hlength := hperm.length_eq
    rw [products, List.length_map, ← List.length_map (f := Prod.snd), map_snd_history,
      Output.products, List.length_append, List.length_map] at hlength
    rw [← f.map_occurrences, List.length_map, hlength, List.length_flatMap, List.length_flatMap]
    simp only [List.length_map]
  · have hkeys := congrArg (List.map Prod.fst) (hreflects.fragments settings render)
    rw [List.map_map, List.map_map] at hkeys
    refine (congrArg List.Nodup hkeys).mpr ?_
    rw [Function.comp_def, List.map_id']
    exact nodup_eligibleKeys f.occurrences
  · intro earlier a hmem
    have ha : a ∈ f.occurrences := by
      rw [← map_snd_history f.occurrences]
      exact List.mem_map_of_mem (f := Prod.snd) hmem
    obtain ⟨hmember, hnested⟩ := product_fits_site hids render earlier ha
    exact ⟨hmember, hnested, product_eq_unknownFont_iff⟩

/-- Of two markers, one of them on a nested site, come two things, and nothing else is in the
output. -/
theorem generate_accounts_for_two_markers :
    let f : Forest := { units := [{ path := "a.cs", declarations :=
      [(((Declaration.ofKind .classType "A").markPartial.annotate (.ofTexts "M" "big" "x")).nest
        (((Declaration.ofKind .classType "B").annotate (.ofTexts "N" "big" "y")).withId 2)).withId
          1] }] }
    let render : Renderer := fun _ text => some text
    (f.walk.map Site.id).Nodup ∧
      ∃ output, f.generate {} render = .ok output ∧
        (products f.resolver render f.occurrences).Perm output.products ∧
        output.diagnostics.length + (output.fragments.flatMap Fragment.members).length = 2 ∧
        (output.fragments.map Fragment.key).Nodup := by
  intro f render
  have hids : (f.walk.map Site.id).Nodup := by decide
  obtain ⟨output, houtput, _, hperm, hcount, hkeys, _⟩ :=
    generate_accounts_for_markers {} render f hids
  have hmarkers : f.markers.length = 2 := by decide
  exact ⟨hids, output, houtput, hperm, hcount.symm.trans hmarkers, hkeys⟩

end Forest

end BannerGen
