import BannerGen.Proofs.Schedule

/-!
# Types do not disturb each other

All types share one ledger. Still, what a session holds for a type and the fragment that it writes
for it come from the declarations of that type alone, and among these from the ones with markers
(`Session.entry_and_fragment_eq_of_filter_eq`). Declarations of other types, nested ones and ones
without markers may be added, left out or moved around them.

Without a session this says that the entry of a type is determined by the occurrences that are
eligible for it (`entryFor_eligibleFor`), and these are found on the declarations that are marked
for the type (`eligibleFor_occurrences`).
-/

namespace BannerGen

open Occurrence

/-- The declaration has a marker, and it belongs to the type `key`, which is not nested. The key
that the host gives counts in its normalized form. -/
def Declaration.isMarkedFor (resolver : Resolver Id) (key : TypeKey) (d : Declaration) : Bool :=
  !d.site.markers.isEmpty &&
    match (resolver.resolve d).run with
    | .ok type => !type.isNested && type.key.normalized = key
    | .error _ => false

/-- If no key is repeated, the pairs with a given key are the one that is found under it. -/
theorem Assoc.filter_fst_eq {α β : Type} [DecidableEq α] {key : α} {l : List (α × β)}
    (hnodup : (l.map Prod.fst).Nodup) :
    l.filter (·.1 = key) = ((l.lookup key).map (key, ·)).toList := by
  induction l with
  | nil => rfl
  | cons e rest ih =>
    obtain ⟨k, v⟩ := e
    obtain ⟨hk, hrest⟩ := List.nodup_cons.mp hnodup
    by_cases heq : k = key
    · -- The key does not come again, so nothing else passes the filter.
      subst heq
      have hnil : rest.filter (·.1 = k) = [] := by
        rw [List.filter_eq_nil_iff]
        intro p hp hpk
        exact hk (List.mem_map.mpr ⟨p, hp, of_decide_eq_true hpk⟩)
      simp [hnil]
    · have hne : (key == k) = false := beq_eq_false_iff_ne.mpr fun h => heq h.symm
      simp [heq, hne, List.lookup_cons, ih hrest]

/-! ### The entry of a type -/

section Entry

variable (resolver : Resolver Id) (as : List Occurrence) (key : TypeKey)

/-- An occurrence clashes with those before it that are eligible for its type, and with no other. -/
theorem clashes_eligibleFor (a : Occurrence) :
    a.Clashes resolver (eligibleFor as a.key) ↔ a.Clashes resolver as := by
  simp only [Clashes, eligibleFor, List.mem_filter, decide_eq_true_eq, and_assoc,
    and_self_left]

/-- The occurrences accepted for a type are those that would be accepted if no others were there
than the eligible ones of the type. -/
theorem acceptedFor_eligibleFor :
    acceptedFor resolver (eligibleFor as key) key = acceptedFor resolver as key := by
  induction as using List.reverseRecOn with
  | nil => rfl
  | append_singleton as a ih =>
    rw [eligibleFor_concat]
    by_cases ha : a.IsEligibleFor key
    · obtain ⟨heligible, rfl⟩ := ha
      rw [if_pos ⟨heligible, rfl⟩, acceptedFor_concat_of_isEligible resolver _ heligible,
        acceptedFor_concat_of_isEligible resolver _ heligible, ih]
      simp only [clashes_eligibleFor]
    · rw [if_neg ha, List.append_nil, acceptedFor_concat_of_not_isEligibleFor resolver as ha, ih]

/-- The entry of a type is determined by the occurrences that are eligible for it. -/
theorem entryFor_eligibleFor :
    entryFor resolver (eligibleFor as key) key = entryFor resolver as key := by
  have hself : eligibleFor (eligibleFor as key) key = eligibleFor as key := by
    rw [eligibleFor, eligibleFor, List.filter_filter]
    simp only [Bool.and_self]
  simp only [entryFor, entryOf, hself, acceptedFor_eligibleFor]

end Entry

/-! ### The declarations of a type -/

section Declarations

variable {resolver : Resolver Id} {key : TypeKey}

/-- A declaration that is not marked for a type has no eligible occurrences for it. -/
theorem eligibleFor_occurrencesAt {d : Declaration} (h : d.isMarkedFor resolver key = false) :
    eligibleFor (occurrencesAt resolver d) key = [] := by
  rw [eligibleFor, List.filter_eq_nil_iff]
  intro a ha hfor
  -- An eligible occurrence would make its declaration one that is marked for the type.
  obtain ⟨⟨hnested, -, -⟩, hkey⟩ := of_decide_eq_true hfor
  rw [occurrencesAt] at ha
  rw [Declaration.isMarkedFor] at h
  cases hresolve : (resolver.resolve d).run with
  | error failure =>
    rw [hresolve] at ha
    cases ha
  | ok type =>
    rw [hresolve] at ha h
    obtain ⟨m, hm, rfl⟩ := List.mem_map.mp ha
    have hmarkers : d.site.markers.isEmpty = false :=
      List.isEmpty_eq_false_iff_exists_mem.mpr ⟨m, hm⟩
    have hnested' : type.isNested = false := hnested
    have hkey' : type.key.normalized = key := hkey
    simp [hmarkers, hnested', hkey'] at h

/-- The eligible occurrences of a type are those of the declarations that are marked for it. -/
theorem eligibleFor_occurrences (ds : List Declaration) :
    eligibleFor (occurrences resolver ds) key = eligibleFor
      (occurrences resolver (ds.filter (Declaration.isMarkedFor resolver key))) key := by
  induction ds with
  | nil => rfl
  | cons d ds ih =>
    have hcons : ∀ rest : List Declaration, eligibleFor (occurrences resolver (d :: rest)) key =
        eligibleFor (occurrencesAt resolver d) key ++
          eligibleFor (occurrences resolver rest) key := by
      intro rest
      rw [← eligibleFor_append, occurrences, List.flatMap_cons]
      rfl
    cases h : d.isMarkedFor resolver key with
    | true => rw [List.filter_cons_of_pos h, hcons, hcons, ih]
    | false =>
      rw [List.filter_cons_of_neg (by simp [h]), hcons, eligibleFor_occurrencesAt h, ih,
        List.nil_append]

end Declarations

namespace Session

variable {resolver : Resolver Id} {s t : Session} {key : TypeKey}

/-- The fragment of a type is written from its entry, and a type without an entry has none. -/
theorem filter_fragments (h : s.ledger.keys.Nodup) (settings : Settings) (render : Renderer) :
    (s.finish settings render).fragments.filter (·.key = key) =
      ((s.ledger.get? key).map fun e => Fragment.ofMembers settings.emit key e.kind
        (renderedMembers render (inSourceOrder e))).toList := by
  have hkeys : ((fun fr : Fragment => decide (fr.key = key)) ∘ fun p : TypeKey × Entry =>
      Fragment.ofMembers settings.emit p.1 p.2.kind
        (renderedMembers render (inSourceOrder p.2))) = fun p => decide (p.1 = key) := rfl
  rw [finish, List.filter_map, hkeys, Assoc.filter_fst_eq h, Ledger.get?]
  cases s.ledger.entries.lookup key <;> rfl

/-- Suppose that two sequences of visits succeed, and that the declarations marked for a type are
the same in both, in the same order. Then both sessions hold the same entry for the type, or both
none, and both outputs hold the same fragment for it, or both none. -/
theorem entry_and_fragment_eq_of_filter_eq {ds ds' : List Declaration}
    (hs : (visitAll resolver {} ds).run = .ok s)
    (ht : (visitAll resolver {} ds').run = .ok t)
    (h : ds.filter (Declaration.isMarkedFor resolver key) =
      ds'.filter (Declaration.isMarkedFor resolver key)) :
    s.ledger.get? key = t.ledger.get? key ∧
      ∀ (settings : Settings) (render : Renderer), ∃ fragment? : Option Fragment,
        (s.finish settings render).fragments.filter (·.key = key) = fragment?.toList ∧
        (t.finish settings render).fragments.filter (·.key = key) = fragment?.toList := by
  obtain ⟨-, rfl⟩ := run_visitAll_eq_ok_iff.mp hs
  obtain ⟨-, rfl⟩ := run_visitAll_eq_ok_iff.mp ht
  have hreflects := reflects_visitEach resolver ds
  have hreflects' := reflects_visitEach resolver ds'
  have heligible : eligibleFor (occurrences resolver ds) key =
      eligibleFor (occurrences resolver ds') key := by
    rw [eligibleFor_occurrences, h, ← eligibleFor_occurrences]
  -- Both entries are the one that these occurrences alone would give.
  have hentry : (visitEach resolver {} ds).ledger.get? key =
      (visitEach resolver {} ds').ledger.get? key := by
    rw [hreflects.entries, hreflects'.entries, ← entryFor_eligibleFor, heligible,
      entryFor_eligibleFor]
  refine ⟨hentry, fun settings render => ⟨_, filter_fragments hreflects.nodup settings render, ?_⟩⟩
  rw [filter_fragments hreflects'.nodup, hentry]

/-- A type in a namespace with two declarations, among a type of the same name in another namespace
that asks for the same name, a nested one of the same key and one without markers. The host gives
namespaces with blanks around them. With the neighbours left out or moved, the entry and the
fragment of the type are the same. -/
theorem entry_and_fragment_eq_of_filter_eq_neighbours :
    let site (scope memberName : String) : Site :=
      { name := "A", scope := some scope, isPartial := true
        attributes := [.ofTexts memberName "big" "x"] }
    let inner : Site := { site "N" "M" with id := 7 }
    let plain : Site := { name := "A", scope := some "N" }
    let resolver : Resolver Id :=
      { resolve := fun d => .ok
          { key := { name := d.site.name, scope := d.site.scope.map (" " ++ ·) }
            container := if d.id = 7 then some { name := "Outer" } else none }
        existingMembers := fun _ => [] }
    let key : TypeKey := { name := "A", scope := some "N" }
    let ds : List Declaration := [site "O" "M", inner, site "N" "M", plain, site "N" "L"]
    let ds' : List Declaration := [site "N" "M", site "N" "L", site "O" "L", site "O" "M"]
    ds.filter (Declaration.isMarkedFor resolver key) =
        ds'.filter (Declaration.isMarkedFor resolver key) ∧
      ∃ s t, (visitAll resolver {} ds).run = .ok s ∧ (visitAll resolver {} ds').run = .ok t ∧
        (s.ledger.get? key).map (fun e => e.requests.map Request.memberName) = some ["M", "L"] ∧
        s.ledger.get? key = t.ledger.get? key ∧
        ∀ (settings : Settings) (render : Renderer), ∃ fragment? : Option Fragment,
          (s.finish settings render).fragments.filter (·.key = key) = fragment?.toList ∧
          (t.finish settings render).fragments.filter (·.key = key) = fragment?.toList := by
  intro site inner plain resolver key ds ds'
  have hs : (visitAll resolver {} ds).run = .ok (visitEach resolver {} ds) :=
    run_visitAll {} ds fun d _ => ⟨_, rfl⟩
  have ht : (visitAll resolver {} ds').run = .ok (visitEach resolver {} ds') :=
    run_visitAll {} ds' fun d _ => ⟨_, rfl⟩
  have h : ds.filter (Declaration.isMarkedFor resolver key) =
      ds'.filter (Declaration.isMarkedFor resolver key) := by decide +kernel
  exact ⟨h, _, _, hs, ht, by decide +kernel, entry_and_fragment_eq_of_filter_eq hs ht h⟩

end Session

end BannerGen
