import BannerGen.Ledger
import BannerGen.Proofs.Distinct

/-!
# The history of a ledger

A ledger is changed by operations. Each of them finds the entry of a type, or makes a new one, and
may then claim a name in it. What the ledger holds after any operations is said here by looking at
the operations alone.

* `Ledger.run` performs operations one after the other, from an empty ledger.
* `Entry.Records` says what an entry holds after operations, of which the first one on its type
  decides on its kind and on the names that are taken from the start.

An operation adds to what the entry of its own type records, and leaves the other entries alone
(`Entry.Records.act`, `Entry.Records.concat_of_ne`). So every entry records all operations
(`Ledger.records_run`), however those on different types are mixed.
-/

namespace BannerGen

/-! ### Acting on an entry -/

/-- What is done with the entry of a type. -/
inductive Entry.Action where
  /-- Nothing more is done. -/
  | find
  /-- A name is claimed. -/
  | register (name : String)
  /-- The name of a request is claimed, and the request is kept if the name was free. -/
  | accept (r : Request)
deriving DecidableEq, Repr

namespace Entry

/-- The name that is claimed. -/
def Action.name? : Action → Option String
  | .find => none
  | .register name => some name
  | .accept r => some r.memberName

/-- The request that is kept if its name was free. -/
def Action.request? : Action → Option Request
  | .find => none
  | .register _ => none
  | .accept r => some r

/-- Acts on an entry. There is no answer if no name is claimed. -/
def act (e : Entry) : Action → Entry × Option Registration
  | .find => (e, none)
  | .register name => (e.register name).map id some
  | .accept r => (e.accept r).map id some

variable {e : Entry} {a : Action} {name : String} {r : Request}

theorem Action.name?_of_request? (h : a.request? = some r) : a.name? = some r.memberName := by
  cases a <;> cases h
  rfl

theorem register_of_isTaken (h : e.IsTaken name) : e.register name = (e, .duplicate) :=
  if_pos h

theorem register_of_not_isTaken (h : ¬ e.IsTaken name) :
    e.register name = ({ e with taken := Identifier.canonical name :: e.taken }, .accepted) :=
  if_neg h

/-- Claiming a name that is taken changes nothing. -/
theorem act_of_isTaken (hname : a.name? = some name) (h : e.IsTaken name) :
    e.act a = (e, some .duplicate) := by
  cases a with
  | find => cases hname
  | register n =>
    cases hname
    rw [act, register_of_isTaken h]
    rfl
  | accept r =>
    cases hname
    rw [act, Entry.accept, register_of_isTaken h]
    rfl

/-- A name that is free is taken after it is claimed, and the request is kept. -/
theorem act_of_not_isTaken (hname : a.name? = some name) (h : ¬ e.IsTaken name) :
    e.act a = ({ e with requests := e.requests ++ a.request?.toList,
                        taken := Identifier.canonical name :: e.taken }, some .accepted) := by
  cases a with
  | find => cases hname
  | register n =>
    cases hname
    rw [act, register_of_not_isTaken h]
    simp [Action.request?]
  | accept r =>
    cases hname
    rw [act, Entry.accept, register_of_not_isTaken h]
    rfl

theorem act_of_name?_eq_none (hname : a.name? = none) : e.act a = (e, none) := by
  cases a <;> cases hname
  rfl

/-- A name that is claimed is accepted exactly if it was free. -/
theorem act_answer (e : Entry) (a : Action) :
    (e.act a).2 = a.name?.map fun name => if e.IsTaken name then .duplicate else .accepted := by
  cases hname : a.name? with
  | none => rw [act_of_name?_eq_none hname, Option.map_none]
  | some name =>
    rw [Option.map_some]
    by_cases h : e.IsTaken name
    · rw [act_of_isTaken hname h, if_pos h]
    · rw [act_of_not_isTaken hname h, if_neg h]

theorem act_kind (e : Entry) (a : Action) : (e.act a).1.kind = e.kind := by
  cases hname : a.name? with
  | none => rw [act_of_name?_eq_none hname]
  | some name =>
    by_cases h : e.IsTaken name
    · rw [act_of_isTaken hname h]
    · rw [act_of_not_isTaken hname h]

/-- The names that are taken stay so, and the name that is claimed is added. -/
theorem isTaken_act (e : Entry) (a : Action) (name : String) :
    (e.act a).1.IsTaken name ↔ e.IsTaken name ∨
      ∃ n, a.name? = some n ∧ Identifier.canonical n = Identifier.canonical name := by
  cases hname : a.name? with
  | none => simp [act_of_name?_eq_none hname]
  | some n =>
    simp only [Option.some.injEq, exists_eq_left']
    by_cases h : e.IsTaken n
    · -- The name was taken before, and so is every name of the same canonical form.
      rw [act_of_isTaken hname h]
      refine (or_iff_left_of_imp fun heq => ?_).symm
      rwa [IsTaken, ← heq]
    · rw [act_of_not_isTaken hname h]
      simp only [IsTaken, List.mem_cons, eq_comm, or_comm]

/-- A request is kept exactly if its name is accepted. -/
theorem requests_act (e : Entry) (a : Action) :
    (e.act a).1.requests =
      e.requests ++ (if (e.act a).2 = some .accepted then a.request? else none).toList := by
  cases hname : a.name? with
  | none => simp [act_of_name?_eq_none hname]
  | some name =>
    by_cases h : e.IsTaken name
    · simp [act_of_isTaken hname h]
    · simp [act_of_not_isTaken hname h]

end Entry

/-! ### Operations -/

namespace Ledger

/-- An operation on the entry of a type. -/
structure Operation where
  /-- The type. -/
  key : TypeKey
  /-- The kind of the type, for a new entry. -/
  kind : TypeKind
  /-- The names of the members of the type, if they are asked for. -/
  names : List String
  /-- What is done with the entry. -/
  action : Entry.Action
deriving DecidableEq, Repr

/-- What an operation comes to. -/
structure Outcome where
  /-- The answer, if a name was claimed. -/
  answer : Option Registration
  /-- How often the names of the members of the type were asked for. -/
  asked : Nat
deriving DecidableEq, Repr

/-- Gives the names of the members of the type, and counts how often it does. -/
def Operation.countedNames (op : Operation) : StateM Nat (List String) := do
  modify (· + 1)
  return op.names

/-- Performs an operation. -/
def perform (l : Ledger) (op : Operation) : Ledger × Outcome :=
  let (e, asked) := (l.entryOrSeed op.key op.kind op.countedNames).run 0
  let (e, answer) := e.act op.action
  (l.insert op.key e, { answer, asked })

/-- Performs operations one after the other, from an empty ledger. -/
def run (ops : List Operation) : Ledger × List Outcome :=
  ops.foldl (fun (l, outcomes) op =>
    let (l, outcome) := l.perform op
    (l, outcomes ++ [outcome])) ({}, [])

/-- The entry that an operation finds or makes. -/
def entryAt (l : Ledger) (op : Operation) : Entry :=
  (l.get? op.key).getD (.seeded op.kind op.names)

/-- What an operation does: it acts on the entry of its type, and it asks for the names of members
once if there is no entry yet. -/
theorem perform_eq (l : Ledger) (op : Operation) :
    l.perform op = (l.insert op.key ((l.entryAt op).act op.action).1,
      { answer := ((l.entryAt op).act op.action).2
        asked := if op.key ∈ l.keys then 0 else 1 }) := by
  rw [perform, entryOrSeed, entryAt]
  cases hget : l.get? op.key with
  | some e =>
    have hmem : op.key ∈ l.keys := isSome_get?_iff.mp (by rw [hget]; rfl)
    rw [if_pos hmem]
    rfl
  | none =>
    have hmem : op.key ∉ l.keys := fun h => by simpa [hget] using isSome_get?_iff.mpr h
    rw [if_neg hmem]
    rfl

theorem run_concat (ops : List Operation) (op : Operation) :
    run (ops ++ [op]) =
      (((run ops).1.perform op).1, (run ops).2 ++ [((run ops).1.perform op).2]) := by
  simp [run]

/-- There is one outcome for each operation. -/
theorem length_run (ops : List Operation) : (run ops).2.length = ops.length := by
  induction ops using List.reverseRecOn with
  | nil => rfl
  | append_singleton ops op ih => simp [run_concat, ih]

/-- Types are listed in the order of the first operations on them. -/
theorem keys_run (ops : List Operation) :
    (run ops).1.keys = (ops.map Operation.key).eraseDups := by
  induction ops using List.reverseRecOn with
  | nil => rfl
  | append_singleton ops op ih =>
    rw [run_concat, perform_eq, keys_insert, ih, List.map_append, List.map_singleton,
      eraseDups_concat]
    simp only [List.mem_eraseDups]

/-- An operation leaves the entries of other types as they are. -/
theorem get?_run_concat_of_ne (ops : List Operation) {op : Operation} {key : TypeKey}
    (h : key ≠ op.key) : (run (ops ++ [op])).1.get? key = (run ops).1.get? key := by
  rw [run_concat, perform_eq]
  exact get?_insert_of_ne h _ _

/-- An operation acts on the entry of its own type. -/
theorem get?_run_concat_self (ops : List Operation) (op : Operation) :
    (run (ops ++ [op])).1.get? op.key =
      some (((run ops).1.entryAt op).act op.action).1 := by
  rw [run_concat, perform_eq]
  exact get?_insert_self _ _ _

/-- The outcome of an operation is not changed by later ones. -/
theorem getElem?_run {ops : List Operation} {i : Nat} {op : Operation} (h : ops[i]? = some op) :
    (run ops).2[i]? = some ((run (ops.take i)).1.perform op).2 := by
  induction ops using List.reverseRecOn with
  | nil => cases h
  | append_singleton ops last ih =>
    rw [run_concat]
    by_cases hi : i < ops.length
    · rw [List.getElem?_append_left hi] at h
      have hi' : i < (run ops).2.length := by rwa [length_run]
      rw [List.getElem?_append_left hi', List.take_append_of_le_length (Nat.le_of_lt hi)]
      exact ih h
    · -- Otherwise it is the last operation.
      have hlast : i = ops.length := by
        have hbound := (List.getElem?_eq_some_iff.mp h).1
        simp only [List.length_append, List.length_singleton] at hbound
        omega
      subst hlast
      obtain rfl : last = op := by simpa using h
      rw [List.take_left, ← length_run, List.getElem?_concat_length]

end Ledger

/-! ### What an entry records -/

open Ledger

/-- The requests of the operations on a type whose names were accepted, in their order. -/
def Ledger.acceptedRequests (ops : List Operation) (outcomes : List Outcome) (key : TypeKey) :
    List Request :=
  (ops.zip outcomes).filterMap fun (op, outcome) =>
    if op.key = key ∧ outcome.answer = some .accepted then op.action.request? else none

/-- The entry holds what operations come to for the type `key`, and `first` is the first operation
on it. -/
structure Entry.Records (ops : List Operation) (outcomes : List Outcome) (key : TypeKey)
    (first : Operation) (e : Entry) : Prop where
  /-- The kind is that of the first operation. -/
  kind_eq : e.kind = first.kind
  /-- The names taken are those that the first operation brought, and those claimed since. -/
  isTaken_iff : ∀ name, e.IsTaken name ↔
    (∃ n ∈ first.names, Identifier.canonical n = Identifier.canonical name) ∨
      ∃ op ∈ ops, op.key = key ∧
        ∃ n, op.action.name? = some n ∧ Identifier.canonical n = Identifier.canonical name
  /-- The requests are those whose names were accepted. -/
  requests_eq : e.requests = acceptedRequests ops outcomes key
  /-- Different requests have different names. -/
  nodup : (e.requests.map fun r => Identifier.canonical r.memberName).Nodup
  /-- No request has a name that the first operation brought. -/
  free : ∀ r ∈ e.requests, ∀ n ∈ first.names,
    Identifier.canonical n ≠ Identifier.canonical r.memberName

section Records

variable {ops : List Operation} {outcomes : List Outcome} {key : TypeKey} {first op : Operation}
  {e : Entry}

theorem Ledger.acceptedRequests_concat (hlength : outcomes.length = ops.length) (op : Operation)
    (outcome : Outcome) (key : TypeKey) :
    acceptedRequests (ops ++ [op]) (outcomes ++ [outcome]) key =
      acceptedRequests ops outcomes key ++
        (if op.key = key ∧ outcome.answer = some .accepted then op.action.request?
          else none).toList := by
  rw [acceptedRequests, List.zip_append hlength.symm, List.filterMap_append, List.zip_cons_cons,
    List.zip_nil_left, List.filterMap_cons]
  split <;> simp [acceptedRequests, *]

theorem Ledger.acceptedRequests_of_forall_ne (h : ∀ op ∈ ops, op.key ≠ key) :
    acceptedRequests ops outcomes key = [] := by
  rw [acceptedRequests, List.filterMap_eq_nil_iff]
  rintro ⟨op, outcome⟩ hmem
  have hne := h op (List.of_mem_zip hmem).1
  simp [hne]

/-- A new entry records that there were no operations on its type. -/
theorem Entry.records_seeded (h : ∀ op ∈ ops, op.key ≠ key) (outcomes : List Outcome)
    (first : Operation) :
    (Entry.seeded first.kind first.names).Records ops outcomes key first where
  kind_eq := rfl
  isTaken_iff name := by
    have hnone : ¬ ∃ op ∈ ops, op.key = key ∧ ∃ n, op.action.name? = some n ∧
        Identifier.canonical n = Identifier.canonical name := by
      rintro ⟨op, hop, hkey, _⟩
      exact h op hop hkey
    rw [or_iff_left hnone, Entry.IsTaken, Entry.seeded, List.mem_map]
  requests_eq := (acceptedRequests_of_forall_ne h).symm
  nodup := List.nodup_nil
  free := by simp [Entry.seeded]

namespace Entry.Records

/-- An operation on another type changes nothing. -/
theorem concat_of_ne (h : e.Records ops outcomes key first)
    (hlength : outcomes.length = ops.length) (hne : op.key ≠ key) (outcome : Outcome) :
    e.Records (ops ++ [op]) (outcomes ++ [outcome]) key first where
  kind_eq := h.kind_eq
  isTaken_iff name := by
    rw [h.isTaken_iff name]
    simp [or_and_right, exists_or, hne]
  requests_eq := by
    rw [h.requests_eq, acceptedRequests_concat hlength, if_neg fun hc => hne hc.1,
      Option.toList_none, List.append_nil]
  nodup := h.nodup
  free := h.free

/-- The name of a request that was kept is taken. -/
theorem isTaken_of_mem (h : e.Records ops outcomes key first) {r : Request}
    (hr : r ∈ e.requests) : e.IsTaken r.memberName := by
  rw [h.requests_eq, acceptedRequests, List.mem_filterMap] at hr
  obtain ⟨⟨op, outcome⟩, hmem, hr⟩ := hr
  rw [Option.ite_none_right_eq_some] at hr
  obtain ⟨⟨hkey, _⟩, hr⟩ := hr
  rw [h.isTaken_iff]
  exact .inr ⟨op, (List.of_mem_zip hmem).1, hkey, r.memberName, Action.name?_of_request? hr, rfl⟩

/-- Acting on the entry of the type adds one operation to what it records. -/
theorem act (h : e.Records ops outcomes op.key first) (hlength : outcomes.length = ops.length)
    (asked : Nat) :
    (e.act op.action).1.Records (ops ++ [op])
      (outcomes ++ [{ answer := (e.act op.action).2, asked }]) op.key first := by
  have hrequests := requests_act e op.action
  -- A request that is kept now has a name that was free.
  have hnew : ∀ r ∈ (if (e.act op.action).2 = some .accepted then op.action.request?
      else none).toList, ¬ e.IsTaken r.memberName := by
    intro r hr htaken
    rw [Option.mem_toList, Option.ite_none_right_eq_some] at hr
    rw [act_of_isTaken (Action.name?_of_request? hr.2) htaken] at hr
    cases hr.1
  constructor
  · rw [act_kind, h.kind_eq]
  · intro name
    rw [isTaken_act, h.isTaken_iff]
    simp [or_and_right, exists_or, or_assoc]
  · rw [hrequests, h.requests_eq, acceptedRequests_concat hlength]
    simp
  · rw [hrequests, List.map_append, List.nodup_append]
    have hone (kept : Option Request) :
        (kept.toList.map fun r => Identifier.canonical r.memberName).Nodup := by
      cases kept <;> simp
    refine ⟨h.nodup, hone _, ?_⟩
    intro a ha b hb heq
    obtain ⟨old, hold, rfl⟩ := List.mem_map.mp ha
    obtain ⟨new, hmem, rfl⟩ := List.mem_map.mp hb
    have htaken := h.isTaken_of_mem hold
    rw [IsTaken, heq] at htaken
    exact hnew new hmem htaken
  · rw [hrequests, List.forall_mem_append]
    refine ⟨h.free, fun r hr n hn heq => hnew r hr ?_⟩
    exact (h.isTaken_iff _).mpr (.inl ⟨n, hn, heq⟩)

end Entry.Records

/-! ### All operations -/

namespace Ledger

/-- A type without operations has no entry. -/
theorem get?_run_eq_none (h : ∀ op ∈ ops, op.key ≠ key) : (run ops).1.get? key = none := by
  rw [← Option.not_isSome_iff_eq_none, isSome_get?_iff, keys_run, List.mem_eraseDups, List.mem_map]
  rintro ⟨op, hop, hkey⟩
  exact h op hop hkey

/-- After any operations, the entry of every type records them. -/
theorem records_run (h : ops.find? (·.key = key) = some first) :
    ∃ e, (run ops).1.get? key = some e ∧ e.Records ops (run ops).2 key first := by
  induction ops using List.reverseRecOn with
  | nil => cases h
  | append_singleton ops op ih =>
    have hlength := length_run ops
    rw [List.find?_append] at h
    by_cases hkey : op.key = key
    · subst hkey
      rw [get?_run_concat_self]
      refine ⟨_, rfl, ?_⟩
      rw [run_concat, perform_eq]
      refine Entry.Records.act ?_ hlength _
      cases hfind : ops.find? (·.key = op.key) with
      | some first' =>
        -- The type has an entry, which is acted on.
        rw [hfind] at h
        cases h
        obtain ⟨e, he, hrecords⟩ := ih hfind
        rw [entryAt, he]
        exact hrecords
      | none =>
        -- This is the first operation on the type, so it makes a new entry.
        rw [hfind] at h
        obtain rfl : op = first := by simpa using h
        have hne : ∀ op' ∈ ops, op'.key ≠ op.key := by simpa using hfind
        rw [entryAt, get?_run_eq_none hne]
        exact Entry.records_seeded hne _ _
    · have hfind : ops.find? (·.key = key) = some first := by simpa [hkey] using h
      obtain ⟨e, he, hrecords⟩ := ih hfind
      rw [get?_run_concat_of_ne ops (Ne.symm hkey), run_concat]
      exact ⟨e, he, hrecords.concat_of_ne hlength hkey _⟩

end Ledger

end Records

namespace Ledger

/-- After any operations, the ledger is what they say. One more operation changes the entry of its
own type only. There is an outcome for each operation: the names of members were asked for once if
it was the first operation on its type and otherwise not at all, and a name was accepted exactly if
it was not taken just before, in the entry that the operation found or made. A type without
operations has no entry, and the entry of a type with operations records them: its kind and the
names taken from the start are those of the first one. Types are listed in the order of the first
operations on them, without repetition, and stay listed. -/
theorem run_follows_operations (ops : List Operation) :
    (∀ op key, key ≠ op.key → (run (ops ++ [op])).1.get? key = (run ops).1.get? key) ∧
    (run ops).2.length = ops.length ∧
    (∀ (i : Nat) (op : Operation), ops[i]? = some op → ∃ outcome e,
      (run ops).2[i]? = some outcome ∧
      (run (ops.take i ++ [{ op with action := .find }])).1.get? op.key = some e ∧
      outcome.asked = (if op.key ∈ (ops.take i).map Operation.key then 0 else 1) ∧
      outcome.answer = op.action.name?.map fun name =>
        if e.IsTaken name then .duplicate else .accepted) ∧
    (∀ key, (∀ op ∈ ops, op.key ≠ key) → (run ops).1.get? key = none) ∧
    (∀ key first, ops.find? (·.key = key) = some first →
      ∃ e, (run ops).1.get? key = some e ∧ e.Records ops (run ops).2 key first) ∧
    (run ops).1.keys = (ops.map Operation.key).eraseDups ∧
    (run ops).1.keys.Nodup ∧
    ∀ more, (run ops).1.keys <+: (run (ops ++ more)).1.keys := by
  refine ⟨fun op key => get?_run_concat_of_ne ops, length_run ops, ?_,
    fun key => get?_run_eq_none, fun key first => records_run, keys_run ops, ?_, ?_⟩
  · intro i op hop
    -- With nothing more to do, the operation would leave the entry that it acts on.
    have hfound := get?_run_concat_self (ops.take i) { op with action := .find }
    refine ⟨_, _, getElem?_run hop, hfound, ?_, ?_⟩
    · simp only [perform_eq, keys_run, List.mem_eraseDups]
    · rw [perform_eq]
      exact Entry.act_answer _ _
  · rw [keys_run]
    exact nodup_eraseDups _
  · intro more
    rw [keys_run, keys_run, List.map_append, List.eraseDups_append]
    exact List.prefix_append _ _

/-- Operations on two types, whose namespaces differ by a blank. The first operation on `a` brings
the name `@Foo`; a later one comes with another kind and another name, which is not asked for. -/
theorem run_follows_operations_mixed :
    let a : TypeKey := { name := "A", scope := some "N" }
    let b : TypeKey := { name := "A", scope := some " N" }
    let request (name : String) : Request := { (default : Request) with memberName := name }
    let first : Operation := ⟨a, .classType, ["@Foo"], .find⟩
    let later : Operation := ⟨a, .structType, ["Bar"], .register "Foo"⟩
    let last : Operation := ⟨a, .classType, [], .accept (request "Bar")⟩
    let ops : List Operation := [first, ⟨b, .classType, [], .accept (request "Foo")⟩, later,
      ⟨a, .classType, [], .accept (request "@Bar")⟩, ⟨b, .classType, [], .register "Bar"⟩]
    b ≠ last.key ∧ (run (ops ++ [last])).1.get? b = (run ops).1.get? b ∧
      ops[2]? = some later ∧ (run ops).2[2]? = some { answer := some .duplicate, asked := 0 } ∧
      ops.find? (·.key = a) = some first ∧
      ∃ e, (run ops).1.get? a = some e ∧ e.kind = .classType ∧ e.requests = [request "@Bar"] ∧
        e.IsTaken "Foo" ∧ (run ops).1.keys = [a, b] := by
  intro a b request first later last ops
  have hne : b ≠ last.key := by decide
  have hfirst : ops.find? (·.key = a) = some first := by decide
  obtain ⟨hother, -, houtcome, -, hrecords, hkeys, -, -⟩ := run_follows_operations ops
  obtain ⟨e, he, hrecord⟩ := hrecords a first hfirst
  obtain ⟨⟨answer, asked⟩, found, ho, hfound, hasked, hanswer⟩ := houtcome 2 later rfl
  -- Before the later operation, only the name that the first one brought was taken.
  obtain rfl : { kind := .classType, taken := ["Foo"] } = found :=
    Option.some.inj (Eq.trans (by decide +kernel) hfound)
  have hduplicate : answer = some .duplicate := hanswer.trans (by decide +kernel)
  have hnot : asked = 0 := hasked.trans (by decide)
  refine ⟨hne, hother last b hne, rfl, ?_, hfirst, e, he, hrecord.kind_eq, ?_, ?_, ?_⟩
  · rw [ho, hduplicate, hnot]
  · rw [hrecord.requests_eq]
    decide +kernel
  · exact (hrecord.isTaken_iff _).mpr (.inl ⟨"@Foo", by decide, by decide +kernel⟩)
  · exact hkeys.trans (by decide)

end Ledger

end BannerGen
