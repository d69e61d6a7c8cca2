import BannerGen.Proofs.Schedule

/-!
# Requests that compete for a name

Several requests may ask for one name of a type, and the first one to arrive gets it. Visiting the
same declarations in another order may let another of them win. This module says what every order
agrees on (`Session.visitAll_agree_of_perm`): the types, the names that are given away for each
type, the diagnostics of markers that fail for another reason than a clash, and how often each name
is refused.

* `exists_mem_acceptedFor_iff` — a name is given away exactly if an eligible occurrence asks for it
  and the type does not have it yet. No order of occurrences is involved.
* `filter_kind_rejections` — an occurrence that is not eligible is rejected in the same way
  wherever it stands.
* `countP_rejections_add_count_accepted` — of the eligible occurrences that ask for a name, those
  that do not get it are reported. So the refusals are counted by what is given away.
-/

namespace BannerGen

/-- The requests accepted for a type; none if it has no entry. -/
def Ledger.requests (l : Ledger) (key : TypeKey) : List Request :=
  (l.get? key).elim [] Entry.requests

/-- The canonical form of the name of the member. -/
def Request.canonicalName (r : Request) : String := Identifier.canonical r.memberName

/-- The diagnostic refuses a name whose canonical form is `name`. -/
def Diagnostic.Refuses (d : Diagnostic) (name : String) : Prop :=
  d.kind = .duplicateMemberName ∧ d.arguments.map Identifier.canonical = [name]

instance (d : Diagnostic) (name : String) : Decidable (d.Refuses name) :=
  inferInstanceAs (Decidable (_ ∧ _))

open Occurrence

namespace Occurrence

variable {resolver : Resolver Id} {a : Occurrence}

/-- An occurrence that is not eligible is rejected in the same way after any others. -/
theorem rejection?_of_not_isEligible (h : ¬ a.IsEligible) (earlier : List Occurrence) :
    a.rejection? resolver earlier = a.rejection? resolver [] := by
  ext d
  simp only [rejection?_eq_some_iff, h, false_and]

/-- A diagnostic that is not about a clash comes of an occurrence that is not eligible. -/
theorem kind_of_rejection? {earlier : List Occurrence} {d : Diagnostic}
    (h : a.rejection? resolver earlier = some d) :
    d.kind = .duplicateMemberName ↔ a.IsEligible := by
  rcases rejection?_eq_some_iff.mp h with
    ⟨hnested, rfl⟩ | ⟨-, hpartial, rfl⟩ | ⟨-, -, hvalid, rfl⟩ | ⟨heligible, -, rfl⟩
  · simp [Diagnostic.about, IsEligible, hnested]
  · simp [Diagnostic.about, IsEligible, hpartial]
  · simp [Diagnostic.about, IsEligible, hvalid]
  · simp [Diagnostic.about, heligible]

end Occurrence

/-! ### What does not depend on the order -/

section Outcomes

variable (resolver : Resolver Id) (as : List Occurrence)

/-- The occurrences accepted for a type are among those eligible for it, in the same order. -/
theorem acceptedFor_sublist_eligibleFor (key : TypeKey) :
    (acceptedFor resolver as key).Sublist (eligibleFor as key) :=
  (accepted_sublist resolver as).filter _

/-- A name is given away for a type exactly if an eligible occurrence asks for it and no member of
the type has it. -/
theorem exists_mem_acceptedFor_iff (key : TypeKey) (name : String) :
    (∃ a ∈ acceptedFor resolver as key, a.canonicalName = name) ↔
      (∃ a ∈ as, a.IsEligibleFor key ∧ a.canonicalName = name) ∧
        ∀ n ∈ (resolver.existingMembers key).run, Identifier.canonical n ≠ name := by
  constructor
  · rintro ⟨a, ha, rfl⟩
    obtain ⟨haccepted, rfl⟩ := mem_acceptedFor.mp ha
    obtain ⟨heligible, hfree⟩ := isEligible_of_mem_accepted haccepted
    exact ⟨⟨a, (accepted_sublist resolver as).subset haccepted, ⟨heligible, rfl⟩, rfl⟩, hfree⟩
  · rintro ⟨⟨a, ha, hfor, rfl⟩, hfree⟩
    -- The name is taken after all occurrences, and not by a member of the type.
    have htaken : (entryOf resolver as key a.site.kind).IsTaken a.memberName :=
      (isTaken_entryOf resolver as key _ _).mpr (.inr ⟨a, ha, hfor, rfl⟩)
    rcases (isTaken_entryOf_iff_acceptedFor resolver as key _ _).mp htaken with
      ⟨n, hn, hname⟩ | haccepted
    · exact absurd hname (hfree n hn)
    · exact haccepted

/-- The diagnostics that are not about a clash are those of the occurrences that are not
eligible. -/
theorem filter_kind_rejections :
    (rejections resolver as).filter (·.kind ≠ .duplicateMemberName) =
      (as.filter fun a => ¬ a.IsEligible).filterMap (·.rejection? resolver []) := by
  induction as using List.reverseRecOn with
  | nil => rfl
  | append_singleton as a ih =>
    rw [rejections_concat, List.filter_append, ih, List.filter_append, List.filterMap_append]
    congr 1
    by_cases ha : a.IsEligible
    · -- Whatever is reported of an eligible occurrence is a clash.
      rw [List.filter_cons_of_neg (by simpa using ha), List.filter_nil, List.filterMap_nil]
      rw [List.filter_eq_nil_iff]
      intro d hd hkind
      exact of_decide_eq_true hkind ((kind_of_rejection? (Option.mem_toList.mp hd)).mpr ha)
    · rw [List.filter_cons_of_pos (by simpa using ha), List.filter_nil,
        rejection?_of_not_isEligible ha]
      cases hd : a.rejection? resolver [] with
      | none => simp [hd]
      | some d => simp [hd, (kind_of_rejection? hd).not.mpr ha]

/-- An eligible occurrence gets its name or is reported under it, and nothing else is refused. -/
theorem countP_rejection?_add_count (a : Occurrence) (name : String) :
    (a.rejection? resolver as).toList.countP (·.Refuses name) +
        ((if a.rejection? resolver as = none then [a] else []).map canonicalName).count name =
      (([a].filter (·.IsEligible)).map canonicalName).count name := by
  by_cases ha : a.IsEligible
  · have hrefuses : (Diagnostic.about .duplicateMemberName a.marker.memberName.span
        a.memberName).Refuses name ↔ a.canonicalName = name := by
      simp [Diagnostic.Refuses, Diagnostic.about, canonicalName]
    rw [rejection?_of_isEligible ha]
    by_cases hc : a.Clashes resolver as
    · simp [ha, hc, hrefuses, List.count_singleton]
    · simp [ha, hc]
  · cases hd : a.rejection? resolver as with
    | none => exact absurd (rejection?_eq_none_iff.mp hd).1 ha
    | some d =>
      have hrefuses : ¬ d.Refuses name := by
        intro h
        exact ha ((kind_of_rejection? hd).mp h.1)
      simp [ha, hrefuses]

/-- The eligible occurrences that ask for a name are those that get it and those that are
refused. -/
theorem countP_rejections_add_count_accepted (name : String) :
    (rejections resolver as).countP (·.Refuses name) +
        ((accepted resolver as).map canonicalName).count name =
      ((as.filter (·.IsEligible)).map canonicalName).count name := by
  induction as using List.reverseRecOn with
  | nil => rfl
  | append_singleton as a ih =>
    have hlast := countP_rejection?_add_count resolver as a name
    rw [rejections_concat, accepted_concat, List.countP_append, List.map_append, List.count_append,
      List.filter_append, List.map_append, List.count_append, ← ih, ← hlast]
    omega

end Outcomes

section Permuted

variable {resolver : Resolver Id} {as bs : List Occurrence}

/-- The names given away for a type are the same in every order. -/
theorem map_canonicalName_acceptedFor_perm (hperm : as.Perm bs) (key : TypeKey) :
    ((acceptedFor resolver as key).map canonicalName).Perm
      ((acceptedFor resolver bs key).map canonicalName) := by
  -- No name is given away twice for a type, so it is enough to compare which names are.
  rw [List.perm_ext_iff_of_nodup (nodup_canonicalName_acceptedFor resolver as key)
    (nodup_canonicalName_acceptedFor resolver bs key)]
  intro name
  simp only [List.mem_map, exists_mem_acceptedFor_iff, hperm.mem_iff]

/-- The names given away for all types together are the same in every order. -/
theorem map_canonicalName_accepted_perm (hperm : as.Perm bs) :
    ((accepted resolver as).map canonicalName).Perm
      ((accepted resolver bs).map canonicalName) := by
  have hgroups : ∀ cs, ((accepted resolver cs).map canonicalName).Perm
      ((eligibleKeys cs).flatMap fun key => (acceptedFor resolver cs key).map canonicalName) := by
    intro cs
    rw [← List.map_flatMap]
    exact ((flatMap_acceptedFor_perm resolver cs).map _).symm
  -- First the types change their order, and then the names of each type.
  have htypes : ((eligibleKeys as).flatMap fun key =>
      (acceptedFor resolver as key).map canonicalName).Perm
      ((eligibleKeys bs).flatMap fun key => (acceptedFor resolver as key).map canonicalName) :=
    (eligibleKeys_perm hperm).flatMap_right _
  have hnames : ((eligibleKeys bs).flatMap fun key =>
      (acceptedFor resolver as key).map canonicalName).Perm
      ((eligibleKeys bs).flatMap fun key => (acceptedFor resolver bs key).map canonicalName) :=
    List.Perm.flatMap_left _ fun key _ => map_canonicalName_acceptedFor_perm hperm key
  exact ((hgroups as).trans htypes).trans (hnames.trans (hgroups bs).symm)

/-- Each name is refused as often in every order. -/
theorem countP_rejections_eq_of_perm (hperm : as.Perm bs) (name : String) :
    (rejections resolver as).countP (·.Refuses name) =
      (rejections resolver bs).countP (·.Refuses name) := by
  have haccepted : ((accepted resolver as).map canonicalName).count name =
      ((accepted resolver bs).map canonicalName).count name :=
    (map_canonicalName_accepted_perm hperm).count_eq name
  have heligible := ((hperm.filter (·.IsEligible)).map canonicalName).count_eq name
  -- In both orders, as many requests are refused as are not accepted.
  have has := countP_rejections_add_count_accepted resolver as name
  have hbs := countP_rejections_add_count_accepted resolver bs name
  omega

end Permuted

namespace Session

variable {resolver : Resolver Id} {as bs : List Occurrence} {s t : Session}

/-- The requests that the ledger holds for a type are those of the occurrences accepted for it. -/
theorem Reflects.requests (h : Reflects resolver as s) (key : TypeKey) :
    s.ledger.requests key = (acceptedFor resolver as key).map request := by
  rw [Ledger.requests, h.entries, entryFor]
  cases hhead : (eligibleFor as key).head? with
  | some first => rfl
  | none =>
    -- Without eligible occurrences, none is accepted.
    have hsublist := acceptedFor_sublist_eligibleFor resolver as key
    rw [List.head?_eq_none_iff.mp hhead, List.sublist_nil] at hsublist
    rw [hsublist]
    rfl

/-- A request that is accepted in one order and not in another has lost its name there to a rival:
another request for the same name of the same type. -/
theorem Reflects.exists_rival (hs : Reflects resolver as s) (ht : Reflects resolver bs t)
    (hperm : as.Perm bs) {key : TypeKey} {r : Request} (hr : r ∈ s.ledger.requests key)
    (hlost : r ∉ t.ledger.requests key) :
    ∃ a ∈ eligibleFor as key, ∃ b ∈ eligibleFor as key,
      a.request = r ∧ b.request ∈ t.ledger.requests key ∧ a.canonicalName = b.canonicalName := by
  rw [hs.requests, List.mem_map] at hr
  obtain ⟨a, ha, rfl⟩ := hr
  -- The name is given away in the other order too, and whoever gets it there is the rival.
  have hname : a.canonicalName ∈ (acceptedFor resolver bs key).map canonicalName :=
    (map_canonicalName_acceptedFor_perm hperm key).mem_iff.mp (List.mem_map_of_mem ha)
  obtain ⟨b, hb, hname⟩ := List.mem_map.mp hname
  have hb' : b ∈ eligibleFor as key :=
    (hperm.filter _).mem_iff.mpr ((acceptedFor_sublist_eligibleFor resolver bs key).subset hb)
  have ha' : a ∈ eligibleFor as key := (acceptedFor_sublist_eligibleFor resolver as key).subset ha
  refine ⟨a, ha', b, hb', rfl, ?_, hname.symm⟩
  rw [ht.requests]
  exact List.mem_map_of_mem hb

/-- The names that are taken for the types of a session. -/
theorem Reflects.isTaken_iff (h : Reflects resolver as s) (key : TypeKey) (name : String) :
    (∃ e, s.ledger.get? key = some e ∧ e.IsTaken name) ↔
      (∃ a ∈ as, a.IsEligibleFor key) ∧
        ((∃ n ∈ (resolver.existingMembers key).run,
          Identifier.canonical n = Identifier.canonical name) ∨
        ∃ a ∈ as, a.IsEligibleFor key ∧ a.canonicalName = Identifier.canonical name) := by
  rw [h.entries, entryFor, ← mem_eligibleKeys]
  constructor
  · rintro ⟨e, he, htaken⟩
    obtain ⟨first, hfirst, rfl⟩ := Option.map_eq_some_iff.mp he
    obtain ⟨hmem, hfor⟩ := List.mem_filter.mp (List.mem_of_head? hfirst)
    exact ⟨mem_eligibleKeys.mpr ⟨first, hmem, of_decide_eq_true hfor⟩,
      (isTaken_entryOf resolver as key first.site.kind name).mp htaken⟩
  · rintro ⟨hkey, htaken⟩
    obtain ⟨a, ha, hfor⟩ := mem_eligibleKeys.mp hkey
    have hne : eligibleFor as key ≠ [] :=
      List.ne_nil_of_mem (List.mem_filter.mpr ⟨ha, decide_eq_true hfor⟩)
    -- The first eligible occurrence opened the entry. Its kind does not matter for the names.
    refine ⟨entryOf resolver as key ((eligibleFor as key).head hne).site.kind, ?_,
      (isTaken_entryOf resolver as key _ name).mpr htaken⟩
    rw [List.head?_eq_some_head hne, Option.map_some]

/-- Visits that succeed also succeed in any other order. -/
theorem run_visitAll_of_perm {ds ds' : List Declaration} (hperm : ds.Perm ds')
    (hs : (visitAll resolver {} ds).run = .ok s) :
    (visitAll resolver {} ds').run = .ok (visitEach resolver {} ds') := by
  obtain ⟨hresolvable, -⟩ := run_visitAll_eq_ok_iff.mp hs
  refine run_visitAll_eq_ok_iff.mpr ⟨?_, rfl⟩
  intro d hd
  exact hresolvable d (hperm.mem_iff.mpr hd)

/-- Suppose that visits to declarations succeed. Then visits to the same declarations in any other
order succeed too. Both sessions list the same types. For each type the same names are given away,
and the same names are taken. The diagnostics that are not about a clash are the same, and each name
is refused equally often. If a request is accepted in one session only, then another request for the
same name of the same type is accepted in the other one. -/
theorem visitAll_agree_of_perm {ds ds' : List Declaration} (hperm : ds.Perm ds')
    (hs : (visitAll resolver {} ds).run = .ok s) :
    ∃ t, (visitAll resolver {} ds').run = .ok t ∧
      s.ledger.keys.Perm t.ledger.keys ∧
      (∀ key, ((s.ledger.requests key).map Request.canonicalName).Perm
        ((t.ledger.requests key).map Request.canonicalName)) ∧
      (∀ key name, (∃ e, s.ledger.get? key = some e ∧ e.IsTaken name) ↔
        ∃ e, t.ledger.get? key = some e ∧ e.IsTaken name) ∧
      (s.diagnostics.filter (·.kind ≠ .duplicateMemberName)).Perm
        (t.diagnostics.filter (·.kind ≠ .duplicateMemberName)) ∧
      (∀ name, s.diagnostics.countP (·.Refuses name) = t.diagnostics.countP (·.Refuses name)) ∧
      ∀ key, ∀ r ∈ s.ledger.requests key, r ∉ t.ledger.requests key →
        ∃ a ∈ eligibleFor (occurrences resolver ds) key,
          ∃ b ∈ eligibleFor (occurrences resolver ds) key,
            a.request = r ∧ b.request ∈ t.ledger.requests key ∧
              a.canonicalName = b.canonicalName := by
  obtain ⟨-, rfl⟩ := run_visitAll_eq_ok_iff.mp hs
  have hoccurrences : (occurrences resolver ds).Perm (occurrences resolver ds') :=
    hperm.flatMap_right _
  have hreflects := reflects_visitEach resolver ds
  have hreflects' := reflects_visitEach resolver ds'
  refine ⟨_, run_visitAll_of_perm hperm hs, ?_, ?_, ?_, ?_, ?_, ?_⟩
  · rw [hreflects.keys, hreflects'.keys]
    exact eligibleKeys_perm hoccurrences
  · intro key
    rw [hreflects.requests, hreflects'.requests, List.map_map, List.map_map]
    exact map_canonicalName_acceptedFor_perm hoccurrences key
  · intro key name
    simp only [hreflects.isTaken_iff, hreflects'.isTaken_iff, hoccurrences.mem_iff]
  · rw [hreflects.diagnostics, hreflects'.diagnostics, filter_kind_rejections,
      filter_kind_rejections]
    exact (hoccurrences.filter _).filterMap _
  · intro name
    rw [hreflects.diagnostics, hreflects'.diagnostics]
    exact countP_rejections_eq_of_perm hoccurrences name
  · intro key r hr hlost
    exact hreflects.exists_rival hreflects' hoccurrences hr hlost

/-- A class and a struct of one type ask for the same name, and two sites of another type follow,
one with a name that is not valid. Visited backwards, the other request wins, the kind is that of
the other site, and the types are listed the other way round. The name is refused once in both
orders, though under another spelling. -/
theorem visitAll_agree_of_perm_rivals :
    let site (name memberName : String) (kind : TypeKind) : Site :=
      { name, kind, isPartial := true, attributes := [.ofTexts memberName "big" "x"] }
    let ds : List Declaration :=
      [site "A" "M" .classType, site "A" "@M" .structType, site "B" "3" .classType,
        site "B" "L" .classType]
    let resolver : Resolver Id :=
      { resolve := fun d => .ok { key := d.site.key }, existingMembers := fun _ => [] }
    ∃ s t, (visitAll resolver {} ds).run = .ok s ∧
      (visitAll resolver {} ds.reverse).run = .ok t ∧
      (s.ledger.requests { name := "A" }).map Request.memberName = ["M"] ∧
      (t.ledger.requests { name := "A" }).map Request.memberName = ["@M"] ∧
      s.ledger.entries.map (fun (key, e) => (key.name, e.kind)) =
        [("A", .classType), ("B", .classType)] ∧
      t.ledger.entries.map (fun (key, e) => (key.name, e.kind)) =
        [("B", .classType), ("A", .structType)] ∧
      s.ledger.keys.Perm t.ledger.keys ∧
      (∀ key, ((s.ledger.requests key).map Request.canonicalName).Perm
        ((t.ledger.requests key).map Request.canonicalName)) ∧
      (s.diagnostics.filter (·.kind ≠ .duplicateMemberName)).Perm
        (t.diagnostics.filter (·.kind ≠ .duplicateMemberName)) ∧
      s.diagnostics.countP (·.Refuses "M") = 1 ∧ t.diagnostics.countP (·.Refuses "M") = 1 := by
  intro site ds resolver
  have hs : (visitAll resolver {} ds).run = .ok (visitEach resolver {} ds) :=
    run_visitAll {} ds fun d _ => ⟨_, rfl⟩
  obtain ⟨t, ht, hkeys, hnames, -, hkinds, hrefused, -⟩ :=
    visitAll_agree_of_perm (List.reverse_perm ds).symm hs
  have heq : visitEach resolver {} ds.reverse = t := (run_visitAll_eq_ok_iff.mp ht).2
  have hone : (visitEach resolver {} ds).diagnostics.countP (·.Refuses "M") = 1 := by
    decide +kernel
  refine ⟨_, t, hs, ht, by decide +kernel, ?_, by decide +kernel, ?_, hkeys, hnames, hkinds, hone,
    (hrefused "M").symm.trans hone⟩
  · rw [← heq]
    decide +kernel
  · rw [← heq]
    decide +kernel

end Session

end BannerGen
