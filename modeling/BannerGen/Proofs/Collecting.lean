import BannerGen.Proofs.Occurrence

/-!
# Collecting

A session that visits declarations changes a ledger step by step. `Session.Reflects` says that a
session holds what a list of occurrences comes to by `rejections` and `entryFor`, which know no
state. A fresh session reflects the empty list, and handling one marker adds its occurrence to the
list (`Reflects.collect`). So after any visits the session reflects the occurrences of the
declarations visited (`reflects_visitEach`), where those that cannot be resolved have none.
-/

namespace BannerGen

/-- The occurrences of a declaration: the markers of its site in order, or none if it cannot be
resolved. -/
def occurrencesAt (resolver : Resolver Id) (d : Declaration) : List Occurrence :=
  match (resolver.resolve d).run with
  | .ok type => d.site.markers.map (.ofMarker d.site type)
  | .error _ => []

/-- The occurrences of declarations, in the order of the declarations. -/
def occurrences (resolver : Resolver Id) (ds : List Declaration) : List Occurrence :=
  ds.flatMap (occurrencesAt resolver)

namespace Session

open Occurrence

variable {resolver : Resolver Id} {as : List Occurrence} {s : Session}

/-- The session after visiting declarations one after the other. One that cannot be resolved does
not stop the visits. -/
def visitEach (resolver : Resolver Id) (s : Session) (ds : List Declaration) : Session :=
  ds.foldl (fun s d => (s.visit resolver d).run.1) s

/-- The session holds what the occurrences come to. -/
structure Reflects (resolver : Resolver Id) (as : List Occurrence) (s : Session) : Prop where
  /-- The diagnostics are those of the rejected occurrences. -/
  diagnostics : s.diagnostics = rejections resolver as
  /-- The types are those of the eligible occurrences. -/
  keys : s.ledger.keys = eligibleKeys as
  /-- Every type has the entry that the occurrences leave for it. -/
  entries : ∀ key, s.ledger.get? key = entryFor resolver as key

/-- A fresh session reflects that there were no occurrences. -/
theorem reflects_nil : Reflects resolver [] {} where
  diagnostics := rfl
  keys := rfl
  entries _ := rfl

/-- Only the ledger and the diagnostics matter. -/
theorem Reflects.congr {t : Session} (h : Reflects resolver as s) (hledger : t.ledger = s.ledger)
    (hdiagnostics : t.diagnostics = s.diagnostics) : Reflects resolver as t where
  diagnostics := hdiagnostics ▸ h.diagnostics
  keys := hledger ▸ h.keys
  entries := hledger ▸ h.entries

/-- No type is listed twice in the ledger. -/
theorem Reflects.nodup (h : Reflects resolver as s) : s.ledger.keys.Nodup := by
  rw [h.keys]
  exact nodup_eligibleKeys as

/-- An entry that is listed is found under its type. -/
theorem Reflects.get?_of_mem (h : Reflects resolver as s) {key : TypeKey} {e : Entry}
    (hmem : (key, e) ∈ s.ledger.entries) : s.ledger.get? key = some e :=
  Assoc.lookup_eq_some_of_mem h.nodup hmem

/-! ### One marker -/

/-- An occurrence that is not eligible leaves nothing but its diagnostic. -/
theorem Reflects.report {a : Occurrence} {d : Diagnostic} (h : Reflects resolver as s)
    (ha : ¬ a.IsEligible) (hd : a.rejection? resolver as = some d) :
    Reflects resolver (as ++ [a]) (s.report d) where
  diagnostics := by
    rw [rejections_concat, hd, ← h.diagnostics]
    rfl
  keys := by
    rw [eligibleKeys_concat, if_neg fun hc => ha hc.1]
    exact h.keys
  entries key := by
    rw [entryFor_concat_of_not_isEligibleFor resolver as fun hfor => ha hfor.1]
    exact h.entries key

/-- What claiming a name does to a session. -/
theorem run_accept (resolver : Resolver Id) (key : TypeKey) (kind : TypeKind) (s : Session)
    (request : Request) :
    (s.accept resolver key kind request).run =
      let (entry, registration) :=
        ((s.ledger.get? key).getD (.seeded kind (resolver.existingMembers key).run)).accept request
      { s with
        ledger := s.ledger.insert key entry
        diagnostics := s.diagnostics ++ match registration with
          | .accepted => []
          | .duplicate =>
            [.about .duplicateMemberName request.memberNameLocation request.memberName] } := by
  have hentry : (s.ledger.entryOrSeed key kind (resolver.existingMembers key)).run =
      (s.ledger.get? key).getD (.seeded kind (resolver.existingMembers key).run) := by
    rw [Ledger.entryOrSeed]
    cases s.ledger.get? key <;> rfl
  rw [accept, Id.run_bind, hentry]
  generalize ((s.ledger.get? key).getD _).accept request = outcome
  obtain ⟨entry, registration⟩ := outcome
  cases registration <;> simp [Session.report]

/-- An eligible occurrence claims its name. -/
theorem Reflects.accept {a : Occurrence} (h : Reflects resolver as s) (ha : a.IsEligible) :
    Reflects resolver (as ++ [a])
      (s.accept resolver a.key a.site.kind a.request).run := by
  obtain ⟨e, he, haccept⟩ := exists_accept_entryFor resolver as ha
  rw [run_accept, h.entries, haccept]
  refine ⟨?_, ?_, fun key => ?_⟩
  · -- A diagnostic is added exactly if the name clashes.
    rw [rejections_concat, rejection?_of_isEligible ha, ← h.diagnostics]
    by_cases hc : a.Clashes resolver as
    · simp only [if_pos hc]
      rfl
    · simp only [if_neg hc]
      rfl
  · -- The type comes last when it is met for the first time, and keeps its place after that.
    rw [Ledger.keys_insert, eligibleKeys_concat, h.keys]
    by_cases hmem : a.key ∈ eligibleKeys as <;> simp [ha, hmem]
  · by_cases hkey : key = a.key
    · subst hkey
      rw [Ledger.get?_insert_self, he]
    · -- The entries of other types stay, on both sides.
      have hnot : ¬ a.IsEligibleFor key := fun hfor => hkey hfor.2.symm
      rw [Ledger.get?_insert_of_ne hkey, entryFor_concat_of_not_isEligibleFor resolver as hnot]
      exact h.entries key

/-- A marker that is not eligible is reported by the first of the checks that it fails. -/
theorem collect_of_not_isEligible (resolver : Resolver Id) (as : List Occurrence) (s : Session)
    {a : Occurrence} (ha : ¬ a.IsEligible) :
    ∃ d, a.rejection? resolver as = some d ∧
      (s.collect resolver a.site a.type (a.attr, a.marker)).run = s.report d := by
  by_cases hnested : a.type.isNested = true
  · exact ⟨_, by simp [rejection?, hnested]; rfl, by simp [Session.collect, hnested]⟩
  by_cases hpartial : a.site.isPartial = true
  · have hvalid : ¬ Identifier.isValid a.marker.memberName.value = true := fun hvalid =>
      ha ⟨by simpa using hnested, hpartial, hvalid⟩
    exact ⟨_, by simp [rejection?, hnested, hpartial, memberName, hvalid]; rfl,
      by simp [Session.collect, hnested, hpartial, hvalid]⟩
  · exact ⟨_, by simp [rejection?, hnested, hpartial]; rfl,
      by simp [Session.collect, hnested, hpartial]⟩

/-- An eligible marker claims its name. -/
theorem collect_of_isEligible (resolver : Resolver Id) (s : Session) {a : Occurrence}
    (ha : a.IsEligible) :
    s.collect resolver a.site a.type (a.attr, a.marker) =
      s.accept resolver a.key a.site.kind a.request := by
  obtain ⟨hnested, hpartial, hvalid⟩ := ha
  rw [memberName] at hvalid
  simp [Session.collect, hnested, hpartial, hvalid, key, request]

/-- Handling a marker adds its occurrence. -/
theorem Reflects.collect (h : Reflects resolver as s) (a : Occurrence) :
    Reflects resolver (as ++ [a])
      (s.collect resolver a.site a.type (a.attr, a.marker)).run := by
  by_cases ha : a.IsEligible
  · rw [collect_of_isEligible resolver s ha]
    exact h.accept ha
  · obtain ⟨d, hd, hcollect⟩ := collect_of_not_isEligible resolver as s ha
    rw [hcollect]
    exact h.report ha hd

/-! ### Many markers, many declarations -/

/-- Handling the markers of a site adds their occurrences. -/
theorem Reflects.collectAll (site : Site) (type : ResolvedType)
    (markers : List (Attribute × Marker)) (h : Reflects resolver as s) :
    Reflects resolver
      (as ++ markers.map (.ofMarker site type))
      (markers.foldlM (Session.collect resolver site type) s).run := by
  induction markers generalizing as s with
  | nil => simpa using h
  | cons m markers ih =>
    have hstep := ih (h.collect (.ofMarker site type m))
    rwa [List.append_assoc, List.singleton_append] at hstep

/-- Visiting a declaration adds its occurrences; a visit that fails adds none. -/
theorem Reflects.visit (h : Reflects resolver as s) (d : Declaration) :
    Reflects resolver (as ++ occurrencesAt resolver d) (s.visit resolver d).run.1 := by
  have hcount : Reflects resolver as { s with visited := s.visited + 1 } := h.congr rfl rfl
  rw [occurrencesAt, Session.visit]
  by_cases hempty : d.site.markers.isEmpty = true
  · -- The host is not asked, but whatever it would answer there are no occurrences.
    rw [if_pos hempty]
    rw [List.isEmpty_iff] at hempty
    cases (resolver.resolve d).run <;> simpa [hempty] using hcount
  · rw [if_neg hempty, Id.run_bind]
    cases (resolver.resolve d).run with
    | ok type => exact hcount.collectAll d.site type d.site.markers
    | error failure => simpa using hcount

/-- A session reflects the occurrences of the declarations that it has visited. -/
theorem Reflects.visitEach (h : Reflects resolver as s) (ds : List Declaration) :
    Reflects resolver (as ++ occurrences resolver ds) (s.visitEach resolver ds) := by
  induction ds generalizing as s with
  | nil => simpa [occurrences, Session.visitEach] using h
  | cons d ds ih =>
    have hstep := ih (h.visit d)
    rwa [List.append_assoc] at hstep

/-- A session that starts afresh reflects the occurrences of the declarations that it visits. -/
theorem reflects_visitEach (resolver : Resolver Id) (ds : List Declaration) :
    Reflects resolver (occurrences resolver ds) (visitEach resolver {} ds) := by
  simpa using reflects_nil.visitEach ds

/-- A visit fails exactly if the declaration has a marker and cannot be resolved. -/
theorem run_visit_snd (resolver : Resolver Id) (s : Session) (d : Declaration) :
    (s.visit resolver d).run.2 =
      if d.site.markers = [] then none
      else match (resolver.resolve d).run with
        | .ok _ => none
        | .error failure => some { id := d.site.id, name := d.site.name, failure } := by
  rw [Session.visit]
  by_cases hempty : d.site.markers = []
  · simp [hempty]
  · rw [if_neg hempty, if_neg (by simpa using hempty), Id.run_bind]
    cases (resolver.resolve d).run <;> rfl

/-- If every declaration can be resolved, visiting all of them is visiting each of them. -/
theorem run_visitAll (s : Session) (ds : List Declaration)
    (h : ∀ d ∈ ds, ∃ type, (resolver.resolve d).run = .ok type) :
    (visitAll resolver s ds).run = .ok (visitEach resolver s ds) := by
  induction ds generalizing s with
  | nil => rfl
  | cons d ds ih =>
    obtain ⟨type, htype⟩ := h d List.mem_cons_self
    have hnone : (s.visit resolver d).run.2 = none := by
      rw [run_visit_snd, htype]
      exact ite_self none
    have hrest := ih (s.visit resolver d).run.1 fun e he => h e (List.mem_cons_of_mem d he)
    rw [visitAll, Id.run_bind, visitEach, List.foldl_cons]
    -- Both facts speak of the result of the first visit, so they go along when it is taken apart.
    revert hnone hrest
    obtain ⟨t, error⟩ := (s.visit resolver d).run
    rintro rfl hrest
    exact hrest

/-- A declaration that is visited with success has an occurrence for each of its markers, and one
whose visit fails has none. -/
theorem map_occurrencesAt (resolver : Resolver Id) (s : Session) (d : Declaration) :
    (occurrencesAt resolver d).map (fun a => (a.attr, a.marker)) =
      if (s.visit resolver d).run.2 = none then d.site.markers else [] := by
  rw [run_visit_snd, occurrencesAt]
  cases (resolver.resolve d).run with
  | ok type => simp [ofMarker, Function.comp_def]
  | error failure => by_cases hempty : d.site.markers = [] <;> simp [hempty]

/-- After any visits from a fresh session, the diagnostics are those of the rejected occurrences
in order, the types of the ledger are those of the eligible occurrences in the order in which they
first occur, and the entry of a type has the kind of the first eligible occurrence for it, the
requests accepted for it in order, and the names that its members have or that eligible
occurrences ask for. The occurrences are the markers of the declarations whose visits succeed. -/
theorem visitEach_refines_outcomes (resolver : Resolver Id) (ds : List Declaration) :
    let as := occurrences resolver ds
    let s := visitEach resolver {} ds
    (∀ (t : Session) (d : Declaration),
      (occurrencesAt resolver d).map (fun a => (a.attr, a.marker)) =
        if (t.visit resolver d).run.2 = none then d.site.markers else []) ∧
    s.diagnostics = rejections resolver as ∧
    s.ledger.keys = eligibleKeys as ∧ s.ledger.keys.Nodup ∧
    (∀ key, (s.ledger.get? key).isSome ↔ ∃ a ∈ as, a.IsEligibleFor key) ∧
    ∀ key e, s.ledger.get? key = some e →
      (eligibleFor as key).head?.map (fun first => first.site.kind) = some e.kind ∧
      e.requests = (acceptedFor resolver as key).map Occurrence.request ∧
      ∀ name, e.IsTaken name ↔
        (∃ n ∈ (resolver.existingMembers key).run,
          Identifier.canonical n = Identifier.canonical name) ∨
        ∃ a ∈ as, a.IsEligibleFor key ∧ a.canonicalName = Identifier.canonical name := by
  intro as s
  have h : Reflects resolver as s := reflects_visitEach resolver ds
  refine ⟨map_occurrencesAt resolver, h.diagnostics, h.keys, h.nodup, fun key => ?_,
    fun key e he => ?_⟩
  · rw [h.entries, entryFor, Option.isSome_map, List.isSome_head?, eligibleFor]
    simp [List.filter_eq_nil_iff]
  · rw [h.entries, entryFor, Option.map_eq_some_iff] at he
    obtain ⟨first, hfirst, rfl⟩ := he
    refine ⟨?_, rfl, isTaken_entryOf resolver as key first.site.kind⟩
    rw [hfirst]
    rfl

end Session

end BannerGen
