import BannerGen.Proofs.Failure
import BannerGen.Proofs.Provenance
import BannerGen.Proofs.Schedule

/-!
# What a host is asked

A host is asked for the type of a declaration and for the members of a type, and each answer may be
expensive. `Resolver.logged` is a host that keeps a log of the questions. Two laws connect the log
with a run:

* `Session.erases_visits` — the log does not show: without it, the run is the run of the host
  itself.
* `Session.logs_visits` — the host is asked for the type of exactly the marked declarations, once
  for every visit, and for the members of exactly the types of the ledger, in their order.

So a run depends on these answers only. For two hosts that agree on them, the occurrences are the
same and come to the same (`Session.Reflects.agrees`).
-/

namespace BannerGen

/-- A question to a host. -/
inductive Question where
  /-- Which type does this declaration belong to? -/
  | resolution (d : Declaration)
  /-- Which members does this type have? -/
  | members (key : TypeKey)
deriving DecidableEq, Repr

namespace Question

/-- The declaration that is asked about, if the question is for its type. -/
def declaration? : Question → Option Declaration
  | resolution d => some d
  | members _ => none

/-- The type that is asked about, if the question is for its members. -/
def key? : Question → Option TypeKey
  | resolution _ => none
  | members key => some key

end Question

/-- One of the attributes of the declaration is recognized as a marker. -/
def Declaration.IsMarked (d : Declaration) : Prop :=
  ∃ attr ∈ d.site.attributes, ∃ m, attr.recognize = .recognized m

instance : DecidablePred Declaration.IsMarked := fun _ =>
  decidable_of_iff _ Site.markers_ne_nil_iff

/-- A type is listed once, however often its entry is set. -/
theorem Ledger.nodup_keys_insert {l : Ledger} (h : l.keys.Nodup) (key : TypeKey) (e : Entry) :
    (l.insert key e).keys.Nodup := by
  rw [keys_insert]
  by_cases hmem : key ∈ l.keys
  · rwa [if_pos hmem]
  · rw [if_neg hmem]
    simpa using h.concat hmem

/-! ### What one step can do -/

namespace Session

variable (s : Session)

/-- The session after the name of a request is claimed in the entry `e`. -/
def settle (s : Session) (key : TypeKey) (r : Request) (e : Entry) : Session :=
  let s' := { s with ledger := s.ledger.insert key (e.accept r).1 }
  match (e.accept r).2 with
  | .accepted => s'
  | .duplicate => s'.report (.about .duplicateMemberName r.memberNameLocation r.memberName)

@[simp]
theorem ledger_settle (key : TypeKey) (r : Request) (e : Entry) :
    (s.settle key r e).ledger = s.ledger.insert key (e.accept r).1 := by
  unfold settle
  cases (e.accept r).2 <;> rfl

/-- Only finding the entry of the type can ask the host. -/
theorem accept_eq_bind {n : Type → Type} [Monad n] (resolver : Resolver n) (key : TypeKey)
    (kind : TypeKind) (r : Request) :
    s.accept resolver key kind r =
      s.ledger.entryOrSeed key kind (resolver.existingMembers key) >>= fun e =>
        pure (s.settle key r e) := by
  unfold accept settle
  congr 1
  funext e
  rcases e.accept r with ⟨entry, _ | _⟩ <;> rfl

/-- A marker is reported, without asking the host, or it claims its name. -/
theorem collect_cases (site : Site) (type : ResolvedType) (marker : Attribute × Marker) :
    (∃ d, ∀ {n : Type → Type} [Monad n] (resolver : Resolver n),
      s.collect resolver site type marker = pure (s.report d)) ∨
    ∀ {n : Type → Type} [Monad n] (resolver : Resolver n),
      s.collect resolver site type marker = s.accept resolver type.key.normalized site.kind
        (.ofMarker marker.1.span marker.2) := by
  unfold collect
  by_cases hnested : type.isNested = true
  · exact .inl ⟨_, fun resolver => if_pos hnested⟩
  by_cases hpartial : site.isPartial = true
  · by_cases hvalid : Identifier.isValid marker.2.memberName.value = true
    · refine .inr fun resolver => ?_
      simp [hnested, hpartial, hvalid]
    · refine .inl ⟨.about .invalidMemberName marker.2.memberName.span marker.2.memberName.value,
        fun resolver => ?_⟩
      simp [hnested, hpartial, hvalid]
  · refine .inl ⟨.about .typeNotMergeable marker.1.span site.name, fun resolver => ?_⟩
    simp [hnested, hpartial]

end Session

section Logged

variable {m : Type → Type} [Monad m]

/-- The same host, with a log of the questions that it is asked. -/
def Resolver.logged (resolver : Resolver m) : Resolver (StateT (List Question) m) where
  resolve d := do
    modify (· ++ [.resolution d])
    resolver.resolve d
  existingMembers key := do
    modify (· ++ [.members key])
    resolver.existingMembers key

/-- Visits declarations one after the other, and gives the session after them and the error of every
visit that fails. -/
def Session.visits (resolver : Resolver m) (s : Session) :
    List Declaration → m (Session × List (Option Unresolved))
  | [] => return (s, [])
  | d :: ds => do
    let (s, error) ← s.visit resolver d
    let (s, errors) ← visits resolver s ds
    return (s, error :: errors)

/-- Without its log, `x` does what `y` does. -/
def Erases {α : Type} (x : StateT (List Question) m α) (y : m α) : Prop :=
  ∀ log, Prod.fst <$> x.run log = y

variable [LawfulMonad m] {α β : Type}

namespace Resolver

@[simp]
theorem run_logged_resolve (resolver : Resolver m) (d : Declaration) (log : List Question) :
    (resolver.logged.resolve d).run log =
      (·, log ++ [.resolution d]) <$> resolver.resolve d := by
  simp [logged]

@[simp]
theorem run_logged_existingMembers (resolver : Resolver m) (key : TypeKey)
    (log : List Question) :
    (resolver.logged.existingMembers key).run log =
      (·, log ++ [.members key]) <$> resolver.existingMembers key := by
  simp [logged]

end Resolver

/-! ### The log does not show -/

namespace Erases

theorem pure (a : α) : Erases (Pure.pure a : StateT (List Question) m α) (Pure.pure a) := by
  intro log
  simp

theorem bind {x : StateT (List Question) m α} {y : m α} {k : α → StateT (List Question) m β}
    {l : α → m β} (hx : Erases x y) (hk : ∀ a, Erases (k a) (l a)) :
    Erases (x >>= k) (y >>= l) := by
  intro log
  rw [StateT.run_bind, map_bind, ← hx log, bind_map_left]
  -- Whatever the log is by then, the rest does not show it either.
  refine bind_congr fun r => ?_
  exact hk r.1 r.2

theorem foldlM {step : β → α → StateT (List Question) m β} {step' : β → α → m β}
    (h : ∀ b a, Erases (step b a) (step' b a)) (l : List α) (b : β) :
    Erases (l.foldlM step b) (l.foldlM step' b) := by
  induction l generalizing b with
  | nil => exact .pure b
  | cons a l ih =>
    rw [List.foldlM_cons, List.foldlM_cons]
    exact (h b a).bind ih

theorem resolve (resolver : Resolver m) (d : Declaration) :
    Erases (resolver.logged.resolve d) (resolver.resolve d) := by
  intro log
  simp

theorem existingMembers (resolver : Resolver m) (key : TypeKey) :
    Erases (resolver.logged.existingMembers key) (resolver.existingMembers key) := by
  intro log
  simp

end Erases

namespace Session

variable (resolver : Resolver m) (s : Session)

theorem erases_accept (key : TypeKey) (kind : TypeKind) (r : Request) :
    Erases (s.accept resolver.logged key kind r) (s.accept resolver key kind r) := by
  have hentry : Erases (s.ledger.entryOrSeed key kind (resolver.logged.existingMembers key))
      (s.ledger.entryOrSeed key kind (resolver.existingMembers key)) := by
    unfold Ledger.entryOrSeed
    cases s.ledger.get? key with
    | some e => exact .pure e
    | none => exact (Erases.existingMembers resolver key).bind fun names => .pure _
  rw [accept_eq_bind, accept_eq_bind]
  exact hentry.bind fun e => .pure _

theorem erases_collect (site : Site) (type : ResolvedType) (marker : Attribute × Marker) :
    Erases (s.collect resolver.logged site type marker) (s.collect resolver site type marker) := by
  rcases collect_cases s site type marker with ⟨d, hreport⟩ | haccept
  · rw [hreport, hreport]
    exact .pure _
  · rw [haccept, haccept]
    exact erases_accept resolver s _ _ _

theorem erases_visit (d : Declaration) :
    Erases (s.visit resolver.logged d) (s.visit resolver d) := by
  unfold visit
  by_cases hempty : d.site.markers.isEmpty = true
  · simp only [hempty, if_true]
    exact .pure _
  simp only [hempty]
  refine (Erases.resolve resolver d).bind ?_
  rintro (failure | type)
  · exact .pure _
  · refine (Erases.foldlM ?_ d.site.markers _).bind fun t => .pure _
    intro t marker
    exact erases_collect resolver t d.site type marker

/-- Keeping a log changes nothing else about a run. -/
theorem erases_visits (ds : List Declaration) :
    Erases (s.visits resolver.logged ds) (s.visits resolver ds) := by
  induction ds generalizing s with
  | nil => exact .pure _
  | cons d ds ih =>
    refine (erases_visit resolver s d).bind ?_
    rintro ⟨t, error⟩
    exact (ih t).bind fun r => .pure _

end Session

/-! ### What the log holds -/

namespace Session

/-- What may have been asked between a session `s` and a session `t`, if the marked declarations
visited in between are `marked`: their types, and the members of the types that are new in the
ledger. -/
structure Consults (s : Session) (marked : List Declaration) (asked : List Question) (t : Session) :
    Prop where
  /-- The host was asked for the type of each of the declarations, in their order. -/
  declarations : asked.filterMap Question.declaration? = marked
  /-- The host was asked for the members of the new types, in their order. -/
  keys : t.ledger.keys = s.ledger.keys ++ asked.filterMap Question.key?
  /-- No type is new twice. -/
  nodup : s.ledger.keys.Nodup → t.ledger.keys.Nodup
  /-- The types that it was asked about are normalized. -/
  normalized : ∀ key ∈ asked.filterMap Question.key?, key.normalized = key

namespace Consults

variable {s t u : Session}

/-- Nothing needs to be asked for the same types. -/
theorem of_keys_eq (h : t.ledger.keys = s.ledger.keys) : Consults s [] [] t where
  declarations := rfl
  keys := by simp [h]
  nodup := by simp [h]
  normalized := by simp

theorem trans {marked marked' : List Declaration} {asked asked' : List Question}
    (h : Consults s marked asked t) (h' : Consults t marked' asked' u) :
    Consults s (marked ++ marked') (asked ++ asked') u where
  declarations := by rw [List.filterMap_append, h.declarations, h'.declarations]
  keys := by rw [List.filterMap_append, h'.keys, h.keys, List.append_assoc]
  nodup hs := h'.nodup (h.nodup hs)
  normalized := by
    rw [List.filterMap_append, List.forall_mem_append]
    exact ⟨h.normalized, h'.normalized⟩

/-- Asking for the type of a declaration brings no types to the ledger. -/
theorem resolution (d : Declaration) (h : t.ledger.keys = s.ledger.keys) :
    Consults s [d] [.resolution d] t where
  declarations := rfl
  keys := by simp [h, Question.key?]
  nodup := by simp [h]
  normalized := by simp [Question.key?]

/-- Asking for the members of a type comes with a new entry for it. -/
theorem members {key : TypeKey} {e : Entry} (hkey : key.normalized = key)
    (hnew : key ∉ s.ledger.keys) (h : t.ledger = s.ledger.insert key e) :
    Consults s [] [.members key] t where
  declarations := rfl
  keys := by
    rw [h, Ledger.keys_insert, if_neg hnew]
    rfl
  nodup hs := by
    rw [h]
    exact Ledger.nodup_keys_insert hs key e
  normalized := by simpa [Question.key?] using hkey

end Consults

end Session

/-- Run from any log, `x` leads from the session `s` to the session that `session` reads off its
result, and adds to the log what it asks on the way. -/
def Logs (s : Session) (marked : List Declaration) (session : α → Session)
    (x : StateT (List Question) m α) : Prop :=
  ∀ log, Ensures (fun r : α × List Question =>
    ∃ asked, r.2 = log ++ asked ∧ s.Consults marked asked (session r.1)) (x.run log)

namespace Logs

variable {s : Session}

theorem pure {session : α → Session} {a : α} (h : (session a).ledger.keys = s.ledger.keys) :
    Logs s [] session (Pure.pure a : StateT (List Question) m α) := by
  intro log
  rw [StateT.run_pure]
  exact .pure ⟨[], by simp, .of_keys_eq h⟩

theorem bind {marked marked' : List Declaration} {session : α → Session} {session' : β → Session}
    {x : StateT (List Question) m α} {k : α → StateT (List Question) m β}
    (hx : Logs s marked session x) (hk : ∀ a, Logs (session a) marked' session' (k a)) :
    Logs s (marked ++ marked') session' (x >>= k) := by
  intro log
  rw [StateT.run_bind]
  refine (hx log).bind ?_
  rintro ⟨a, log'⟩ ⟨asked, rfl, h⟩
  refine (hk a _).imp ?_
  rintro ⟨b, log''⟩ ⟨asked', rfl, h'⟩
  exact ⟨asked ++ asked', List.append_assoc .., h.trans h'⟩

end Logs

namespace Session

variable {resolver : Resolver m} {s : Session}

theorem logs_accept {key : TypeKey} (hkey : key.normalized = key) (kind : TypeKind)
    (r : Request) : Logs s [] id (s.accept resolver.logged key kind r) := by
  intro log
  rw [accept_eq_bind, Ledger.entryOrSeed]
  by_cases hmem : key ∈ s.ledger.keys
  · -- The type has an entry already, so nothing is asked.
    obtain ⟨e, he⟩ := Option.isSome_iff_exists.mp (Ledger.isSome_get?_iff.mpr hmem)
    simp only [he, pure_bind, StateT.run_pure]
    refine .pure ⟨[], by simp, .of_keys_eq ?_⟩
    rw [id, ledger_settle, Ledger.keys_insert, if_pos hmem]
  · -- The members are asked for, and the type comes to the ledger.
    have hnone : s.ledger.get? key = none := by
      rwa [← Option.not_isSome_iff_eq_none, Ledger.isSome_get?_iff]
    simp only [hnone, bind_assoc, pure_bind, StateT.run_bind, Resolver.run_logged_existingMembers,
      bind_map_left, StateT.run_pure]
    refine (Ensures.trivially _).bind fun names _ => ?_
    exact .pure ⟨[.members key], rfl, .members hkey hmem (ledger_settle ..)⟩

theorem logs_collect (site : Site) (type : ResolvedType) (marker : Attribute × Marker) :
    Logs s [] id (s.collect resolver.logged site type marker) := by
  rcases collect_cases s site type marker with ⟨d, hreport⟩ | haccept
  · rw [hreport]
    exact .pure rfl
  · -- Whatever the host answered, the key that is used is normalized.
    rw [haccept]
    exact logs_accept (TypeKey.normalized_normalized _) _ _

theorem logs_collectAll (site : Site) (type : ResolvedType) (markers : List (Attribute × Marker)) :
    Logs s [] id (markers.foldlM (collect resolver.logged site type) s) := by
  induction markers generalizing s with
  | nil => exact .pure rfl
  | cons marker markers ih =>
    rw [List.foldlM_cons]
    exact (logs_collect site type marker).bind fun t => ih

/-- A visit asks for the type of the declaration if it is marked, and otherwise asks nothing. -/
theorem logs_visit (d : Declaration) :
    Logs s ([d].filter (·.IsMarked)) Prod.fst (s.visit resolver.logged d) := by
  unfold visit
  by_cases hempty : d.site.markers = []
  · have hmarked : ¬ d.IsMarked := fun h => Site.markers_ne_nil_iff.mpr h hempty
    simp only [hempty, List.isEmpty_nil, if_true, List.filter_cons, hmarked]
    exact .pure rfl
  have hmarked : d.IsMarked := Site.markers_ne_nil_iff.mp hempty
  have hsome : d.site.markers.isEmpty = false := by simpa using hempty
  simp only [hsome, List.filter_cons, List.filter_nil, hmarked, decide_true, if_true]
  -- The question for the type comes first, and the markers are handled after the answer.
  have hresolve : Logs s [d] (fun _ => { s with visited := s.visited + 1 })
      (resolver.logged.resolve d) := by
    intro log
    rw [Resolver.run_logged_resolve, map_eq_pure_bind]
    refine (Ensures.trivially _).bind fun answer _ => ?_
    exact .pure ⟨[.resolution d], rfl, .resolution d rfl⟩
  rw [← List.append_nil [d]]
  refine hresolve.bind ?_
  rintro (failure | type)
  · exact .pure rfl
  · exact (logs_collectAll d.site type d.site.markers).bind fun t => .pure rfl

/-- Visits ask for the types of the marked declarations, once for every visit. -/
theorem logs_visits (ds : List Declaration) :
    Logs s (ds.filter (·.IsMarked)) Prod.fst (s.visits resolver.logged ds) := by
  induction ds generalizing s with
  | nil => exact .pure rfl
  | cons d ds ih =>
    have hsplit : (d :: ds).filter (·.IsMarked) =
        [d].filter (·.IsMarked) ++ (ds.filter (·.IsMarked) ++ []) := by
      rw [List.append_nil, ← List.filter_append, List.singleton_append]
    rw [hsplit]
    refine (logs_visit d).bind ?_
    rintro ⟨t, error⟩
    exact ih.bind fun r => .pure rfl

end Session

end Logged

/-! ### Hosts that give the same answers -/

/-- Two hosts give the same type for every marked declaration in `ds`, and they know members of the
same names for every type in `keys`. -/
structure Resolver.AgreeOn (r r' : Resolver Id) (ds : List Declaration) (keys : List TypeKey) :
    Prop where
  /-- The types of the marked declarations are the same, and so are the reasons for having none. -/
  resolve : ∀ d ∈ ds, d.IsMarked → (r.resolve d).run = (r'.resolve d).run
  /-- The sets of member names are the same. -/
  members : ∀ key ∈ keys, ∀ name,
    name ∈ (r.existingMembers key).run ↔ name ∈ (r'.existingMembers key).run

/-- Two entries hold the same requests, and the same set of names is taken in both. -/
structure Entry.Agree (e e' : Entry) : Prop where
  /-- The kind of the type. -/
  kind : e.kind = e'.kind
  /-- The accepted requests, in order. -/
  requests : e.requests = e'.requests
  /-- The set of names that are taken. -/
  taken : ∀ name, name ∈ e.taken ↔ name ∈ e'.taken

/-- Two sessions hold the same. The names that are taken in an entry count as a set. -/
structure Session.Agree (s t : Session) : Prop where
  /-- The number of visits. -/
  visited : s.visited = t.visited
  /-- The diagnostics, in order. -/
  diagnostics : s.diagnostics = t.diagnostics
  /-- The types and their entries, in order. -/
  entries : List.Forall₂ (fun p q => p.1 = q.1 ∧ p.2.Agree q.2) s.ledger.entries t.ledger.entries

section Agreement

open Occurrence

variable {r r' : Resolver Id} {as : List Occurrence} {ds : List Declaration}

/-- A declaration without markers has no occurrences, whatever the host would answer. -/
theorem occurrencesAt_congr {d : Declaration}
    (h : d.IsMarked → (r.resolve d).run = (r'.resolve d).run) :
    occurrencesAt r d = occurrencesAt r' d := by
  unfold occurrencesAt
  by_cases hmarked : d.IsMarked
  · rw [h hmarked]
  · have hempty : d.site.markers = [] := by
      by_contra hne
      exact hmarked (Site.markers_ne_nil_iff.mp hne)
    rw [hempty]
    cases (r.resolve d).run <;> cases (r'.resolve d).run <;> rfl

theorem Declaration.failure?_congr {d : Declaration}
    (h : d.IsMarked → (r.resolve d).run = (r'.resolve d).run) :
    d.failure? r = d.failure? r' := by
  unfold Declaration.failure?
  by_cases hempty : d.site.markers = []
  · rw [if_pos hempty, if_pos hempty]
  · rw [h (Site.markers_ne_nil_iff.mp hempty)]

/-- Only the members of its own type can be in the way of an occurrence, and only if it is
eligible. -/
theorem Occurrence.rejection?_congr {a : Occurrence} (earlier : List Occurrence)
    (h : a.IsEligible → ∀ name,
      name ∈ (r.existingMembers a.key).run ↔ name ∈ (r'.existingMembers a.key).run) :
    a.rejection? r earlier = a.rejection? r' earlier := by
  ext d
  rw [rejection?_eq_some_iff, rejection?_eq_some_iff]
  have hclash : a.IsEligible → (a.Clashes r earlier ↔ a.Clashes r' earlier) := by
    intro ha
    unfold Clashes
    simp only [h ha]
  refine or_congr_right (or_congr_right (or_congr_right ?_))
  exact and_congr_right fun ha => and_congr_left' (hclash ha)

variable (h : ∀ key ∈ eligibleKeys as, ∀ name,
  name ∈ (r.existingMembers key).run ↔ name ∈ (r'.existingMembers key).run)

include h

/-- Hosts that know the same members of the types that are asked for reject the same occurrences. -/
theorem rejection?_congr_of_mem_history {earlier : List Occurrence} {a : Occurrence}
    (ha : (earlier, a) ∈ history as) : a.rejection? r earlier = a.rejection? r' earlier := by
  refine rejection?_congr earlier fun heligible => h a.key ?_
  exact mem_eligibleKeys.mpr ⟨a, mem_of_mem_history ha, heligible, rfl⟩

theorem rejections_congr : rejections r as = rejections r' as := by
  unfold rejections
  refine List.filterMap_congr ?_
  rintro ⟨earlier, a⟩ ha
  exact rejection?_congr_of_mem_history h ha

theorem acceptedFor_congr (key : TypeKey) : acceptedFor r as key = acceptedFor r' as key := by
  have haccepted : accepted r as = accepted r' as := by
    unfold accepted
    congr 1
    refine List.filter_congr ?_
    rintro ⟨earlier, a⟩ ha
    show decide (a.rejection? r earlier = none) = decide (a.rejection? r' earlier = none)
    rw [rejection?_congr_of_mem_history h ha]
  unfold acceptedFor
  rw [haccepted]

theorem entryFor_agree (key : TypeKey) :
    Option.Rel Entry.Agree (entryFor r as key) (entryFor r' as key) := by
  unfold entryFor
  cases hfirst : (eligibleFor as key).head? with
  | none => exact .none
  | some first =>
    have hmem : first ∈ eligibleFor as key := List.mem_of_mem_head? hfirst
    rw [eligibleFor, List.mem_filter, decide_eq_true_eq] at hmem
    have hkey : key ∈ eligibleKeys as := mem_eligibleKeys.mpr ⟨first, hmem⟩
    have hrequests := acceptedFor_congr h key
    refine .some ⟨rfl, by simp only [entryOf, hrequests], fun name => ?_⟩
    simp only [entryOf, hrequests, List.mem_append, List.mem_map, h key hkey]

end Agreement

namespace Session

variable {r r' : Resolver Id} {s t : Session} {as : List Occurrence} {ds : List Declaration}

/-- Visits without effects are those of `visitEach`, with the error of every one that fails. -/
theorem run_visits (s : Session) (ds : List Declaration) :
    (s.visits r ds).run = (s.visitEach r ds, ds.map (Declaration.failure? r)) := by
  induction ds generalizing s with
  | nil => rfl
  | cons d ds ih =>
    have hrest := ih (s.visit r d).run.1
    rw [visits, Id.run_bind, visitEach, List.foldl_cons, List.map_cons,
      ← run_visit_snd_eq_failure? s d]
    rw [visitEach] at hrest
    -- Both facts speak of the result of the first visit, so it is named before it is taken apart.
    generalize (s.visit r d).run = result at hrest ⊢
    obtain ⟨t, error⟩ := result
    rw [Id.run_bind, hrest]
    rfl

theorem visited_collect (site : Site) (type : ResolvedType) (marker : Attribute × Marker) :
    (s.collect r site type marker).run.visited = s.visited := by
  let a : Occurrence := .ofMarker site type marker
  show (s.collect r a.site a.type (a.attr, a.marker)).run.visited = s.visited
  by_cases ha : a.IsEligible
  · rw [collect_of_isEligible r s ha, run_accept]
  · obtain ⟨d, -, hcollect⟩ := collect_of_not_isEligible r [] s ha
    rw [hcollect]
    rfl

theorem visited_collectAll (site : Site) (type : ResolvedType)
    (markers : List (Attribute × Marker)) :
    (markers.foldlM (collect r site type) s).run.visited = s.visited := by
  induction markers generalizing s with
  | nil => rfl
  | cons marker markers ih =>
    rw [List.foldlM_cons, Id.run_bind, ih, visited_collect]

/-- A visit counts, whether or not it fails. -/
theorem visited_visit (d : Declaration) : (s.visit r d).run.1.visited = s.visited + 1 := by
  unfold visit
  by_cases hempty : d.site.markers.isEmpty = true
  · rw [if_pos hempty]
    rfl
  · rw [if_neg hempty, Id.run_bind]
    rcases (r.resolve d).run with failure | type
    · rfl
    · exact visited_collectAll d.site type d.site.markers

theorem visited_visitEach (ds : List Declaration) :
    (s.visitEach r ds).visited = s.visited + ds.length := by
  induction ds generalizing s with
  | nil => rfl
  | cons d ds ih =>
    have hrest := ih (s := (s.visit r d).run.1)
    rw [visited_visit] at hrest
    rw [visitEach, List.foldl_cons, List.length_cons]
    rw [visitEach] at hrest
    omega

/-- Sessions that reflect the same occurrences agree, if the hosts know the same members of the
types that are asked for. -/
theorem Reflects.agree (hs : Reflects r as s) (ht : Reflects r' as t)
    (hvisited : s.visited = t.visited)
    (h : ∀ key ∈ eligibleKeys as, ∀ name,
      name ∈ (r.existingMembers key).run ↔ name ∈ (r'.existingMembers key).run) :
    s.Agree t where
  visited := hvisited
  diagnostics := by rw [hs.diagnostics, ht.diagnostics, rejections_congr h]
  entries := by
    rw [hs.entries_eq, ht.entries_eq]
    -- Both ledgers list the entries of the same types, so the entries are compared type by type.
    refine List.rel_filterMap (R := Eq) ?_ (List.forall₂_refl _)
    rintro key _ rfl
    show Option.Rel _ ((entryFor r as key).map (key, ·)) ((entryFor r' as key).map (key, ·))
    have hagree := entryFor_agree h key
    generalize entryFor r as key = e, entryFor r' as key = e' at hagree ⊢
    rcases hagree with hagree | -
    · exact .some ⟨rfl, hagree⟩
    · exact .none

/-- What does not show in which order names are taken is the same for sessions that agree. -/
theorem Agree.map_entries (h : s.Agree t) {α : Type} {f : TypeKey × Entry → α}
    (hf : ∀ key e e', e.Agree e' → f (key, e) = f (key, e')) :
    s.ledger.entries.map f = t.ledger.entries.map f := by
  have hall := h.entries
  generalize s.ledger.entries = l, t.ledger.entries = l' at hall ⊢
  induction hall with
  | nil => rfl
  | @cons p q _ _ hpq _ ih =>
    obtain ⟨key, e⟩ := p
    obtain ⟨key', e'⟩ := q
    obtain ⟨rfl, hagree⟩ := hpq
    rw [List.map_cons, List.map_cons, ih, hf key e e' hagree]

/-- Sessions that agree write the same output. -/
theorem Agree.finish_eq (h : s.Agree t) (settings : Settings) (render : Renderer) :
    s.finish settings render = t.finish settings render := by
  have hsorted : ∀ e e' : Entry, e.Agree e' → inSourceOrder e = inSourceOrder e' := by
    intro e e' hagree
    unfold inSourceOrder
    rw [hagree.requests]
  unfold finish
  rw [Output.mk.injEq, List.flatMap_def, List.flatMap_def, h.diagnostics]
  constructor
  · refine h.map_entries fun key e e' hagree => ?_
    simp only [hagree.kind, hsorted e e' hagree]
  · congr 3
    refine h.map_entries fun key e e' hagree => ?_
    simp only [hsorted e e' hagree]

/-- If the hosts list the members of the types that are asked for in the same order, sessions that
reflect the same occurrences hold the same ledger. -/
theorem Reflects.ledger_congr (hs : Reflects r as s) (ht : Reflects r' as t)
    (h : ∀ key ∈ eligibleKeys as, (r.existingMembers key).run = (r'.existingMembers key).run) :
    s.ledger = t.ledger := by
  have haccepted : ∀ key, acceptedFor r as key = acceptedFor r' as key :=
    acceptedFor_congr fun key hkey name => by rw [h key hkey]
  have hlists : s.ledger.entries = t.ledger.entries := by
    rw [hs.entries_eq, ht.entries_eq]
    refine List.filterMap_congr fun key hkey => ?_
    simp only [entryFor, entryOf, h key hkey, haccepted key]
  exact congrArg Ledger.mk hlists

/-- For every host and all visits from a fresh session, the host is asked for the type of a
declaration once for every visit to a marked one and at no other time, and for the members of
exactly the types of the ledger, in the order in which they were first met, once each and in
normalized form. Keeping the log of this changes nothing else about the run.

So if two hosts give the same types for the marked declarations and know the same members of the
types that are in the ledger in the end, the visits have the same results, the sessions hold the
same, and the outputs are the same. If the hosts also list these members in the same order, as they
do if they list them in increasing order, the sessions are equal. -/
theorem visits_ask_marked_sites_and_ledger_types {m : Type → Type} [Monad m] [LawfulMonad m]
    (resolver : Resolver m) (ds : List Declaration) :
    Erases (visits resolver.logged {} ds) (visits resolver {} ds) ∧
    (∀ (s : Session) (d : Declaration) (log : List Question),
      Ensures (fun r => ∃ asked, r.2 = log ++ asked ∧
          asked.filterMap Question.declaration? = if d.IsMarked then [d] else [])
        ((s.visit resolver.logged d).run log)) ∧
    Ensures (fun r =>
        r.2.filterMap Question.declaration? = ds.filter (·.IsMarked) ∧
        r.2.filterMap Question.key? = r.1.1.ledger.keys ∧
        r.1.1.ledger.keys.Nodup ∧
        ∀ key ∈ r.1.1.ledger.keys, key.normalized = key)
      ((visits resolver.logged {} ds).run []) ∧
    ∀ r r' : Resolver Id,
      let (s, errors) := (visits r {} ds).run
      let (t, errors') := (visits r' {} ds).run
      r.AgreeOn r' ds s.ledger.keys →
        errors = errors' ∧ s.Agree t ∧
        (∀ (settings : Settings) (render : Renderer),
          s.finish settings render = t.finish settings render) ∧
        ((∀ key ∈ s.ledger.keys,
          (r.existingMembers key).run = (r'.existingMembers key).run) → s = t) := by
  refine ⟨erases_visits resolver {} ds, fun s d log => ?_, ?_, fun r r' => ?_⟩
  · refine (logs_visit d log).imp ?_
    rintro ⟨t, log'⟩ ⟨asked, hlog, h⟩
    refine ⟨asked, hlog, ?_⟩
    rw [h.declarations, List.filter_singleton]
    simp
  · refine (logs_visits ds []).imp ?_
    rintro ⟨⟨t, errors⟩, log⟩ ⟨asked, hlog, h⟩
    obtain rfl : log = asked := hlog
    -- A fresh session has no types, so the types at the end are the ones asked about.
    have hkeys : t.ledger.keys = log.filterMap Question.key? := h.keys
    refine ⟨h.declarations, hkeys.symm, h.nodup List.nodup_nil, ?_⟩
    rw [hkeys]
    exact h.normalized
  · rw [run_visits, run_visits]
    intro hagree
    have hs := reflects_visitEach r ds
    have ht := reflects_visitEach r' ds
    have hoccurrences : occurrences r ds = occurrences r' ds := by
      unfold occurrences
      exact List.flatMap_congr fun d hd => occurrencesAt_congr (hagree.resolve d hd)
    rw [← hoccurrences] at ht
    have hvisited : (visitEach r {} ds).visited = (visitEach r' {} ds).visited := by
      rw [visited_visitEach, visited_visitEach]
    have hmembers := hagree.members
    rw [hs.keys] at hmembers ⊢
    have hsame := hs.agree ht hvisited hmembers
    refine ⟨?_, hsame, hsame.finish_eq, fun hlists => ?_⟩
    · exact List.map_congr_left fun d hd => Declaration.failure?_congr (hagree.resolve d hd)
    · rw [Session.mk.injEq]
      exact ⟨hs.ledger_congr ht hlists, hsame.diagnostics, hvisited⟩

/-- A declaration with two markers is visited twice, among one without markers, a nested one and one
that cannot be resolved. A host that counts its answers is asked four times for a type and once for
members. Two hosts that list these members in another order and disagree on the declaration without
markers and on the members of the nested type lead to the same errors and outputs. -/
theorem visits_ask_marked_sites_and_ledger_types_mixed :
    let marked (name : String) : Declaration := .mk
      { name, isPartial := true, attributes := [.ofTexts "M" "big" "x", .ofTexts "L" "big" "x"] } []
    let plain : Declaration := .ofKind .classType "Plain"
    let ds : List Declaration := [marked "A", plain, marked "Inner", marked "A", marked "Lost"]
    let type (d : Declaration) : Except ResolutionFailure ResolvedType :=
      if d.site.name = "Lost" then .error (.host "lost")
      else .ok { key := { name := d.site.name, scope := some " N " }
                 container := if d.site.name = "Inner" then some { name := "A" } else none }
    let key : TypeKey := { name := "A", scope := some "N" }
    let counting : Resolver (StateM Nat) :=
      { resolve := fun d => do
          modify (· + 1)
          return type d
        existingMembers := fun _ => do
          modify (· + 1)
          return ["L"] }
    let r : Resolver Id :=
      { resolve := type, existingMembers := fun _ => ["L", "K"] }
    let r' : Resolver Id :=
      { resolve := fun d => if d = plain then .error (.host "plain") else type d
        existingMembers := fun k => if k = key then ["K", "L"] else [] }
    let result := ((visits counting.logged {} ds).run []).run 0
    (result.2 = 5 ∧ result.1.2 =
      [.resolution (marked "A"), .members key, .resolution (marked "Inner"),
        .resolution (marked "A"), .resolution (marked "Lost")]) ∧
    result.1.2.filterMap Question.declaration? = ds.filter (·.IsMarked) ∧
    result.1.2.filterMap Question.key? = result.1.1.1.ledger.keys ∧
    r.AgreeOn r' ds (visits r {} ds).run.1.ledger.keys ∧
    (visits r {} ds).run.2 = (visits r' {} ds).run.2 ∧
    (visits r {} ds).run.1.Agree (visits r' {} ds).run.1 ∧
    ∀ (settings : Settings) (render : Renderer),
      (visits r {} ds).run.1.finish settings render =
        (visits r' {} ds).run.1.finish settings render := by
  intro marked plain ds type key counting r r' result
  have hasked := ensures_state_iff.mp
    (visits_ask_marked_sites_and_ledger_types counting ds).2.2.1 0
  have hkeys : (visits r {} ds).run.1.ledger.keys = [key] := by decide +kernel
  have hagree : r.AgreeOn r' ds (visits r {} ds).run.1.ledger.keys := by
    refine ⟨by decide +kernel, ?_⟩
    rw [hkeys]
    intro k hk name
    obtain rfl := List.mem_singleton.mp hk
    show name ∈ ["L", "K"] ↔ name ∈ ["K", "L"]
    simp [or_comm]
  obtain ⟨herrors, hsame, hfinish, -⟩ :=
    (visits_ask_marked_sites_and_ledger_types counting ds).2.2.2 r r' hagree
  exact ⟨by decide +kernel, hasked.1, hasked.2.1, hagree, herrors, hsame, hfinish⟩

end Session

end BannerGen
