import BannerGen.Proofs.Accounting
import BannerGen.Proofs.SpanOrder
import Mathlib.Data.List.Pairwise

/-!
# Visiting in another order

A session handles markers in the order of its visits: the first request for a name gets it, the
first site of a type decides on the kind, and types are listed as they are met. If no two eligible
occurrences of a type ask for the same name, stand at the same place or disagree on the kind, none
of this shows in the output, up to the order of fragments and diagnostics
(`Session.finish_perm_of_perm`).

The reason is that whether an occurrence is accepted does then not depend on the occurrences before
it (`rejections_eq_filterMap`, `accepted_eq_filter`), so what comes of a list of occurrences comes
of each of its permutations. Within a type, sorting by location restores one order.
-/

namespace BannerGen

open Occurrence

namespace Occurrence

/-- Eligible occurrences of one type ask for different names, stand at different places and are on
sites of the same kind. -/
def Compatible (a b : Occurrence) : Prop :=
  a.IsEligible → b.IsEligible → a.key = b.key →
    a.canonicalName ≠ b.canonicalName ∧ a.attr.span ≠ b.attr.span ∧ a.site.kind = b.site.kind

instance : DecidableRel Compatible := fun a b =>
  inferInstanceAs (Decidable (a.IsEligible → b.IsEligible → a.key = b.key → _))

theorem Compatible.symm {a b : Occurrence} (h : a.Compatible b) : b.Compatible a := by
  intro hb ha hkey
  obtain ⟨hname, hspan, hkind⟩ := h ha hb hkey.symm
  exact ⟨hname.symm, hspan.symm, hkind.symm⟩

instance : Std.Symm Compatible := ⟨fun _ _ => Compatible.symm⟩

variable {resolver : Resolver Id}

/-- Occurrences before a compatible one do not make it clash. -/
theorem rejection?_of_compatible {earlier : List Occurrence} {a : Occurrence}
    (h : ∀ b ∈ earlier, b.Compatible a) :
    a.rejection? resolver earlier = a.rejection? resolver [] := by
  unfold rejection?
  by_cases hnested : a.type.isNested = true
  · simp only [hnested, if_true]
  by_cases hpartial : a.site.isPartial = true
  · by_cases hvalid : Identifier.isValid a.memberName = true
    · -- The occurrence is eligible, and this is where the ones before it count.
      have ha : a.IsEligible := ⟨by simpa using hnested, hpartial, hvalid⟩
      have hclash : a.Clashes resolver earlier ↔ a.Clashes resolver [] := by
        unfold Clashes
        refine or_congr_right ?_
        constructor
        · rintro ⟨b, hb, ⟨hbe, hkey⟩, hname⟩
          exact absurd hname (h b hb hbe ha hkey).1
        · rintro ⟨b, hb, _⟩
          cases hb
      simp only [hclash]
    · simp only [hvalid, Bool.not_false, if_true]
  · simp only [hpartial, Bool.not_false, if_true]

end Occurrence

/-! ### Outcomes of permuted occurrences -/

section Permuted

variable {resolver : Resolver Id} {as bs : List Occurrence}

theorem rejections_eq_filterMap (h : as.Pairwise Compatible) :
    rejections resolver as = as.filterMap (·.rejection? resolver []) := by
  induction as using List.reverseRecOn with
  | nil => rfl
  | append_singleton as a ih =>
    rw [List.pairwise_append] at h
    obtain ⟨has, _, hlast⟩ := h
    -- The last occurrence is compatible with all before it, so its outcome is its own.
    rw [rejections_concat, ih has, List.filterMap_append,
      rejection?_of_compatible fun b hb => hlast b hb a List.mem_cons_self]
    cases hd : a.rejection? resolver [] <;> simp [hd]

theorem accepted_eq_filter (h : as.Pairwise Compatible) :
    accepted resolver as = as.filter fun a => a.rejection? resolver [] = none := by
  induction as using List.reverseRecOn with
  | nil => rfl
  | append_singleton as a ih =>
    rw [List.pairwise_append] at h
    obtain ⟨has, _, hlast⟩ := h
    rw [accepted_concat, ih has, List.filter_append,
      rejection?_of_compatible fun b hb => hlast b hb a List.mem_cons_self]
    by_cases hd : a.rejection? resolver [] = none <;> simp [hd]

theorem rejections_perm (hperm : as.Perm bs) (h : as.Pairwise Compatible) :
    (rejections resolver as).Perm (rejections resolver bs) := by
  rw [rejections_eq_filterMap h, rejections_eq_filterMap (hperm.pairwise h Compatible.symm)]
  exact hperm.filterMap _

theorem acceptedFor_perm (hperm : as.Perm bs) (h : as.Pairwise Compatible) (key : TypeKey) :
    (acceptedFor resolver as key).Perm (acceptedFor resolver bs key) := by
  unfold acceptedFor
  rw [accepted_eq_filter h, accepted_eq_filter (hperm.pairwise h Compatible.symm)]
  exact (hperm.filter _).filter _

theorem eligibleKeys_perm (hperm : as.Perm bs) : (eligibleKeys as).Perm (eligibleKeys bs) := by
  -- Neither list repeats a type, so it is enough that they list the same types.
  rw [List.perm_ext_iff_of_nodup (nodup_eligibleKeys as) (nodup_eligibleKeys bs)]
  intro key
  rw [mem_eligibleKeys, mem_eligibleKeys]
  simp only [hperm.mem_iff]

/-- The requests accepted for a type stand at different places. -/
theorem nodup_location_acceptedFor (h : as.Pairwise Compatible) (key : TypeKey) :
    (((acceptedFor resolver as key).map Occurrence.request).map Request.location).Nodup := by
  rw [List.map_map, List.Nodup, List.pairwise_map]
  refine (h.sublist (acceptedFor_sublist resolver as key)).imp_of_mem ?_
  intro a b ha hb hab
  obtain ⟨haccepted, hkeyA⟩ := mem_acceptedFor.mp ha
  obtain ⟨haccepted', hkeyB⟩ := mem_acceptedFor.mp hb
  exact (hab (isEligible_of_mem_accepted haccepted).1 (isEligible_of_mem_accepted haccepted').1
    (hkeyA.trans hkeyB.symm)).2.1

theorem sortedRequests_eq_of_perm (hperm : as.Perm bs) (h : as.Pairwise Compatible)
    (key : TypeKey) : sortedRequests resolver as key = sortedRequests resolver bs key :=
  Span.sortBy_eq_of_perm ((acceptedFor_perm hperm h key).map _) (nodup_location_acceptedFor h key)

/-- The occurrences leave entries for a type that agree in the kind and in the requests by
location. The names that are taken may be listed in another order. -/
theorem map_entryFor_of_perm (hperm : as.Perm bs) (h : as.Pairwise Compatible) (key : TypeKey) :
    (entryFor resolver as key).map (fun e => (e.kind, Session.inSourceOrder e)) =
      (entryFor resolver bs key).map fun e => (e.kind, Session.inSourceOrder e) := by
  have heligible : (eligibleFor as key).Perm (eligibleFor bs key) := hperm.filter _
  have hrequests : sortedRequests resolver as key = sortedRequests resolver bs key :=
    sortedRequests_eq_of_perm hperm h key
  -- The kinds of the first ones agree, since both are eligible for the type.
  have hkinds : ∀ a ∈ eligibleFor as key, ∀ b ∈ eligibleFor as key, a.site.kind = b.site.kind := by
    intro a ha b hb
    obtain ⟨ha, hfor⟩ := List.mem_filter.mp ha
    obtain ⟨hb, hfor'⟩ := List.mem_filter.mp hb
    obtain ⟨hae, hakey⟩ := of_decide_eq_true hfor
    obtain ⟨hbe, hbkey⟩ := of_decide_eq_true hfor'
    by_cases heq : a = b
    · rw [heq]
    · exact (h.forall ha hb heq hae hbe (hakey.trans hbkey.symm)).2.2
  unfold entryFor
  cases hb : eligibleFor bs key with
  | nil =>
    rw [hb, List.perm_nil] at heligible
    rw [heligible]
    rfl
  | cons b rest =>
    rw [hb] at heligible
    cases ha : eligibleFor as key with
    | nil =>
      rw [ha, List.nil_perm] at heligible
      cases heligible
    | cons a rest' =>
      have hkind : a.site.kind = b.site.kind := by
        refine hkinds a ?_ b ?_
        · rw [ha]
          exact List.mem_cons_self
        · exact heligible.mem_iff.mpr List.mem_cons_self
      change some (a.site.kind, sortedRequests resolver as key) =
        some (b.site.kind, sortedRequests resolver bs key)
      rw [hkind, hrequests]

end Permuted

namespace Session

variable {resolver : Resolver Id} {as bs : List Occurrence} {s t : Session}

/-- The ledger lists the entries that the occurrences leave, type by type. -/
theorem Reflects.entries_eq (h : Reflects resolver as s) :
    s.ledger.entries =
      (eligibleKeys as).filterMap fun key => (entryFor resolver as key).map (key, ·) := by
  rw [← h.keys, Ledger.keys, List.filterMap_map]
  have hentry : ∀ p ∈ s.ledger.entries,
      ((fun key => (entryFor resolver as key).map (key, ·)) ∘ Prod.fst) p = some p := by
    rintro ⟨key, e⟩ hmem
    rw [Function.comp_apply, ← h.entries, h.get?_of_mem hmem, Option.map_some]
  rw [List.filterMap_congr hentry, List.filterMap_some]

/-- A fragment shows the kind and the requests by location of an entry, and nothing else of it. -/
theorem Reflects.finish_fragments (h : Reflects resolver as s) (settings : Settings)
    (render : Renderer) :
    (s.finish settings render).fragments = (eligibleKeys as).filterMap fun key =>
      ((entryFor resolver as key).map fun e => (e.kind, inSourceOrder e)).map
        fun (kind, rs) => .ofMembers settings.emit key kind (renderedMembers render rs) := by
  unfold finish
  rw [h.entries_eq, List.map_filterMap]
  simp only [Option.map_map]
  rfl

theorem Reflects.fragments_perm (hs : Reflects resolver as s) (ht : Reflects resolver bs t)
    (hperm : as.Perm bs) (h : as.Pairwise Compatible) (settings : Settings) (render : Renderer) :
    (s.finish settings render).fragments.Perm (t.finish settings render).fragments := by
  rw [hs.finish_fragments, ht.finish_fragments]
  simp only [map_entryFor_of_perm hperm h]
  exact (eligibleKeys_perm hperm).filterMap _

/-- Before they are put in order, the diagnostics differ in their order only. -/
theorem findings_perm (hperm : as.Perm bs) (h : as.Pairwise Compatible) (render : Renderer) :
    (rejections resolver as ++ (eligibleKeys as).flatMap fun key =>
      unknownFonts render (sortedRequests resolver as key)).Perm
    (rejections resolver bs ++ (eligibleKeys bs).flatMap fun key =>
      unknownFonts render (sortedRequests resolver bs key)) := by
  refine (rejections_perm hperm h).append ?_
  simp only [sortedRequests_eq_of_perm hperm h]
  exact (eligibleKeys_perm hperm).flatMap_right _

theorem Reflects.diagnostics_perm (hs : Reflects resolver as s) (ht : Reflects resolver bs t)
    (hperm : as.Perm bs) (h : as.Pairwise Compatible) (settings : Settings) (render : Renderer) :
    (s.finish settings render).diagnostics.Perm (t.finish settings render).diagnostics := by
  rw [hs.finish_diagnostics, ht.finish_diagnostics]
  exact (ordered_perm _ _).trans ((findings_perm hperm h render).trans (ordered_perm _ _).symm)

/-- Diagnostics at different locations are sorted by location in one way. -/
theorem Reflects.diagnostics_eq (hs : Reflects resolver as s) (ht : Reflects resolver bs t)
    (hperm : as.Perm bs) (h : as.Pairwise Compatible) {settings : Settings} (render : Renderer)
    (horder : settings.diagnostics.order = .location)
    (hnodup : ((s.finish settings render).diagnostics.map Diagnostic.location).Nodup) :
    (s.finish settings render).diagnostics = (t.finish settings render).diagnostics := by
  rw [hs.finish_diagnostics, horder] at hnodup ⊢
  rw [((ordered_perm _ _).map _).nodup_iff] at hnodup
  rw [ht.finish_diagnostics, horder]
  exact Span.sortBy_eq_of_perm (findings_perm hperm h render) hnodup

/-! ### Permuted visits -/

/-- Visits succeed exactly if every declaration with markers can be resolved. -/
theorem run_visitAll_eq_ok_iff {ds : List Declaration} :
    (visitAll resolver s ds).run = .ok t ↔
      (∀ d ∈ ds, d.site.markers = [] ∨ ∃ type, (resolver.resolve d).run = .ok type) ∧
        visitEach resolver s ds = t := by
  induction ds generalizing s with
  | nil => simp [visitAll, visitEach]
  | cons d ds ih =>
    have hvisit : (s.visit resolver d).run.2 = none ↔
        d.site.markers = [] ∨ ∃ type, (resolver.resolve d).run = .ok type := by
      rw [run_visit_snd]
      by_cases hempty : d.site.markers = []
      · simp [hempty]
      · cases (resolver.resolve d).run <;> simp [hempty]
    rw [List.forall_mem_cons, ← hvisit, and_assoc, visitAll, Id.run_bind, visitEach,
      List.foldl_cons]
    have hrest := ih (s := (s.visit resolver d).run.1)
    -- The visits go on from the first visit's session, or they end with its error.
    generalize (s.visit resolver d).run = result at hrest ⊢
    obtain ⟨u, _ | error⟩ := result
    · rw [eq_self, true_and]
      exact hrest
    · constructor
      · intro h
        cases h
      · rintro ⟨h, _⟩
        cases h

/-- Suppose that visits to declarations succeed, and that no two eligible occurrences of a type ask
for the same name, stand at the same place or are on sites of different kinds. Then visits to the
same declarations in any other order succeed too, and end in the same fragments and the same
diagnostics up to their order. Diagnostics that are put in the order of their locations are the same
list, provided that no two are at the same location. -/
theorem finish_perm_of_perm {ds ds' : List Declaration} (hperm : ds.Perm ds')
    (hs : (visitAll resolver {} ds).run = .ok s)
    (h : (occurrences resolver ds).Pairwise Compatible) :
    ∃ t, (visitAll resolver {} ds').run = .ok t ∧
      ∀ (settings : Settings) (render : Renderer),
        (s.finish settings render).fragments.Perm (t.finish settings render).fragments ∧
        (s.finish settings render).diagnostics.Perm (t.finish settings render).diagnostics ∧
        (settings.diagnostics.order = .location →
          ((s.finish settings render).diagnostics.map Diagnostic.location).Nodup →
          (s.finish settings render).diagnostics = (t.finish settings render).diagnostics) := by
  obtain ⟨hresolvable, rfl⟩ := run_visitAll_eq_ok_iff.mp hs
  have hresolvable' : ∀ d ∈ ds',
      d.site.markers = [] ∨ ∃ type, (resolver.resolve d).run = .ok type := by
    intro d hd
    exact hresolvable d (hperm.mem_iff.mpr hd)
  refine ⟨_, run_visitAll_eq_ok_iff.mpr ⟨hresolvable', rfl⟩, ?_⟩
  intro settings render
  have hoccurrences : (occurrences resolver ds).Perm (occurrences resolver ds') :=
    hperm.flatMap_right _
  have hreflects := reflects_visitEach resolver ds
  have hreflects' := reflects_visitEach resolver ds'
  exact ⟨hreflects.fragments_perm hreflects' hoccurrences h settings render,
    hreflects.diagnostics_perm hreflects' hoccurrences h settings render,
    hreflects.diagnostics_eq hreflects' hoccurrences h render⟩

/-- Two sites of one type and a site of another one are visited backwards, so that the types are met
in the other order. The member of the second type clashes with one that it has. -/
theorem finish_perm_of_perm_backwards :
    let site (name memberName : String) (start : Nat) : Site :=
      { name, isPartial := true, attributes :=
        [{ Attribute.ofTexts memberName "big" "x" with span := { file := "a.cs", start } }] }
    let ds : List Declaration := [site "A" "M" 5, site "A" "L" 2, site "B" "Taken" 9]
    let resolver : Resolver Id :=
      { resolve := fun d => .ok { key := d.site.key }, existingMembers := fun _ => ["Taken"] }
    (occurrences resolver ds).Pairwise Compatible ∧
      ∃ s t, (visitAll resolver {} ds).run = .ok s ∧
        (visitAll resolver {} ds.reverse).run = .ok t ∧
        s.ledger.keys = [{ name := "A" }, { name := "B" }] ∧
        t.ledger.keys = [{ name := "B" }, { name := "A" }] ∧
        s.diagnostics.length = 1 ∧
        ∀ (settings : Settings) (render : Renderer),
          (s.finish settings render).fragments.Perm (t.finish settings render).fragments ∧
          (s.finish settings render).diagnostics.Perm (t.finish settings render).diagnostics := by
  intro site ds resolver
  have hs : (visitAll resolver {} ds).run = .ok (visitEach resolver {} ds) :=
    run_visitAll {} ds fun d _ => ⟨_, rfl⟩
  have hcompatible : (occurrences resolver ds).Pairwise Compatible := by decide +kernel
  obtain ⟨t, ht, houtput⟩ := finish_perm_of_perm (List.reverse_perm ds).symm hs hcompatible
  have heq : visitEach resolver {} ds.reverse = t := (run_visitAll_eq_ok_iff.mp ht).2
  refine ⟨hcompatible, _, t, hs, ht, by decide +kernel, ?_, by decide +kernel, ?_⟩
  · rw [← heq]
    decide +kernel
  · intro settings render
    exact ⟨(houtput settings render).1, (houtput settings render).2.1⟩

end Session

end BannerGen
