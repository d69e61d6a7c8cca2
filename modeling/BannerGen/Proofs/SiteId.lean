import BannerGen.Proofs.Distinct
import BannerGen.Source.SiteId
import Mathlib.Data.List.Forall2
import Mathlib.Data.List.Nodup
import Mathlib.Logic.Function.Iterate

/-!
# Handing out identities

The identities that an allocator tries are those that follow each other by `SiteId.next`, and no
identity comes twice among the first `SiteId.last` of them (`SiteId.iterate_next_injOn`). So the
search ends at a free identity as long as there is one (`Allocator.search_not_mem`).

`Allocator.fill` takes the identities of a list of sites one after the other and hands out one for
every zero. What it makes of the list is said by `Allocator.Fills`: identities that are there stay,
and the new ones are free and different from each other.
-/

namespace BannerGen.SiteId

/-- The number is an identity. -/
def IsId (n : Nat) : Prop := 0 < n ∧ n ≤ last

theorem isId_next (n : Nat) : IsId (next n) := by
  unfold IsId next
  split
  · omega
  · exact ⟨Nat.one_pos, by decide⟩

/-- The identities are passed through in a circle. -/
theorem iterate_next {n : Nat} (h : IsId n) (i : Nat) :
    next^[i] n = (n - 1 + i) % last + 1 := by
  obtain ⟨hpos, hle⟩ := h
  induction i with
  | zero =>
    simp only [last] at hle ⊢
    rw [Function.iterate_zero_apply]
    omega
  | succ i ih =>
    rw [Function.iterate_succ_apply', ih, next]
    split
    next hlt =>
      simp only [last] at hle hlt ⊢
      omega
    next hlt =>
      simp only [last] at hle hlt ⊢
      omega

/-- A circle is gone round before an identity comes again. -/
theorem iterate_next_injOn {n i j : Nat} (h : IsId n) (hi : i < last) (hj : j < last)
    (heq : next^[i] n = next^[j] n) : i = j := by
  rw [iterate_next h, iterate_next h] at heq
  obtain ⟨hpos, hle⟩ := h
  simp only [last] at *
  omega

namespace Allocator

variable {a b : Allocator} {id candidate : Nat} {used ids jds : List Nat}

/-- The search passes over used identities up to the first free one, or to the end of its
steps. -/
theorem search_eq_iterate (used : List Nat) (steps candidate : Nat) :
    ∃ k ≤ steps, search used steps candidate = next^[k] candidate ∧
      (∀ i < k, next^[i] candidate ∈ used) ∧ (k < steps → next^[k] candidate ∉ used) := by
  induction steps generalizing candidate with
  | zero => exact ⟨0, Nat.le_refl 0, rfl, by simp, by simp⟩
  | succ steps ih =>
    by_cases hmem : candidate ∈ used
    · obtain ⟨k, hk, heq, hpassed, hfree⟩ := ih (next candidate)
      refine ⟨k + 1, by omega, ?_, ?_, ?_⟩
      · rw [search, if_pos hmem, heq, Function.iterate_succ_apply]
      · intro i hi
        cases i with
        | zero => exact hmem
        | succ i => exact hpassed i (by omega)
      · intro hlt
        exact hfree (by omega)
    · refine ⟨0, by omega, ?_, by simp, fun _ => hmem⟩
      rw [search, if_neg hmem]
      rfl

/-- The search finds a free identity if there are more identities than used ones. -/
theorem search_not_mem (hid : IsId candidate) (hlen : used.length < last) :
    search used used.length candidate ∉ used := by
  obtain ⟨k, hk, heq, hpassed, hfree⟩ := search_eq_iterate used used.length candidate
  rw [heq]
  rcases Nat.lt_or_eq_of_le hk with hlt | rfl
  · exact hfree hlt
  -- All steps are used up: one more used identity would be more of them than there are.
  intro hmem
  have htried : ((List.range (used.length + 1)).map fun i => next^[i] candidate).Nodup := by
    refine List.Nodup.map_on ?_ List.nodup_range
    intro i hi j hj hij
    rw [List.mem_range] at hi hj
    exact iterate_next_injOn hid (by omega) (by omega) hij
  have hsubset : ((List.range (used.length + 1)).map fun i => next^[i] candidate) ⊆ used := by
    intro id hin
    obtain ⟨i, hi, rfl⟩ := List.mem_map.mp hin
    rw [List.mem_range] at hi
    rcases Nat.lt_or_eq_of_le (Nat.le_of_lt_succ hi) with hlt | rfl
    · exact hpassed i hlt
    · exact hmem
  have hle := htried.length_le_of_subset hsubset
  rw [List.length_map, List.length_range] at hle
  omega

theorem isId_search (hid : IsId candidate) (steps : Nat) :
    IsId (search used steps candidate) := by
  induction steps generalizing candidate with
  | zero => exact hid
  | succ steps ih =>
    rw [search]
    split
    · exact ih (isId_next candidate)
    · exact hid

/-- What is handed out is an identity that was not in use and is in use now. -/
theorem allocate_eq_some (hid : IsId a.candidate) (h : a.allocate = some (id, b)) :
    id ∉ a.used ∧ IsId id ∧ b.used = id :: a.used ∧ IsId b.candidate := by
  unfold allocate at h
  split at h
  · cases h
  next hlen =>
    cases h
    exact ⟨search_not_mem hid (by omega), isId_search hid _, rfl, isId_next _⟩

/-- An identity is handed out unless all are in use. -/
theorem exists_allocate (a : Allocator) (hlen : a.used.length < last) :
    ∃ id b, a.allocate = some (id, b) := by
  rw [allocate, if_neg (by omega)]
  exact ⟨_, _, rfl⟩

theorem isId_candidate_ofUsed (ids : List Nat) : IsId (ofUsed ids).candidate := by
  simp only [ofUsed]
  split
  · exact ⟨Nat.one_pos, by decide⟩
  · exact isId_next _

/-- The identities in use are those given, without the zeros. -/
theorem mem_used_ofUsed {ids : List Nat} : id ∈ (ofUsed ids).used ↔ id ∈ ids ∧ id ≠ 0 := by
  simp [ofUsed]

/-- There are at most as many identities in use and zeros as there are numbers given. -/
theorem length_used_ofUsed_add_count (ids : List Nat) :
    (ofUsed ids).used.length + ids.count 0 ≤ ids.length := by
  have hused := (eraseDups_sublist (ids.filter (· ≠ 0))).length_le
  have hsplit := List.length_eq_length_filter_add (l := ids) (· ≠ 0)
  have hzeros : (ids.filter fun id => !decide (id ≠ 0)).length = ids.count 0 := by
    rw [List.count, List.countP_eq_length_filter]
    congr 2
    funext id
    by_cases h : id = 0 <;> simp [h]
  simp only [ofUsed]
  omega

/-! ### Filling in the missing identities of a list -/

/-- Hands out an identity for every zero of a list. -/
def fill (a : Allocator) : List Nat → Option (List Nat × Allocator)
  | [] => some ([], a)
  | id :: ids =>
    (if id = 0 then a.allocate else some (id, a)).bind fun r =>
      (r.2.fill ids).map fun t => (r.1 :: t.1, t.2)

theorem fill_cons_zero (a : Allocator) (ids : List Nat) :
    a.fill (0 :: ids) = a.allocate.bind fun r =>
      (r.2.fill ids).map fun t => (r.1 :: t.1, t.2) := by
  rw [fill, if_pos rfl]

theorem fill_cons_of_ne_zero (a : Allocator) (h : id ≠ 0) (ids : List Nat) :
    a.fill (id :: ids) = (a.fill ids).map fun t => (id :: t.1, t.2) := by
  rw [fill, if_neg h, Option.bind_some]

/-- Filling in a list is filling in its parts in turn. -/
theorem fill_append (a : Allocator) (ids jds : List Nat) :
    a.fill (ids ++ jds) =
      (a.fill ids).bind fun r => (r.2.fill jds).map fun t => (r.1 ++ t.1, t.2) := by
  induction ids generalizing a with
  | nil => cases h : a.fill jds <;> simp [fill, h]
  | cons id ids ih =>
    by_cases hid : id = 0
    · subst hid
      simp only [List.cons_append, fill_cons_zero, Option.bind_assoc]
      congr 1
      funext r
      rw [ih]
      cases r.2.fill ids <;> simp [Function.comp_def]
    · simp only [List.cons_append, fill_cons_of_ne_zero a hid, ih]
      cases a.fill ids <;> simp [Function.comp_def]

/-- The list `jds` is `ids` with identities from `fresh` in place of the zeros. -/
structure Fills (used ids jds fresh : List Nat) : Prop where
  /-- The identities that are there stay in their places, and the zeros are replaced. -/
  places : List.Forall₂ (fun i j => if i = 0 then IsId j else j = i) ids jds
  /-- The identities that are there stay, and the new ones are added. -/
  perm : jds.Perm (ids.filter (· ≠ 0) ++ fresh)
  /-- The new identities differ from each other. -/
  nodup : fresh.Nodup
  /-- The new identities were not in use. -/
  free : ∀ id ∈ fresh, id ∉ used ∧ IsId id

/-- Filling in a list gives new identities to its zeros, which are in use after it. -/
theorem fills_of_fill (hid : IsId a.candidate) (h : a.fill ids = some (jds, b)) :
    ∃ fresh, Fills a.used ids jds fresh := by
  induction ids generalizing a jds with
  | nil =>
    cases h
    exact ⟨[], .nil, by simp, List.nodup_nil, by simp⟩
  | cons id ids ih =>
    by_cases hzero : id = 0
    · subst hzero
      rw [fill_cons_zero, Option.bind_eq_some_iff] at h
      obtain ⟨⟨id, c⟩, hallocate, h⟩ := h
      obtain ⟨⟨kds, d⟩, hrest, heq⟩ := Option.map_eq_some_iff.mp h
      cases heq
      obtain ⟨hfree, hisId, hused, hcandidate⟩ := allocate_eq_some hid hallocate
      obtain ⟨fresh, hfills⟩ := ih hcandidate hrest
      -- The first identity is in use when the others are handed out, so it differs from them.
      refine ⟨id :: fresh, .cons (by rwa [if_pos rfl]) hfills.places, ?_, ?_, ?_⟩
      · have hfilter : (0 :: ids).filter (· ≠ 0) = ids.filter (· ≠ 0) := by simp
        rw [hfilter]
        exact (hfills.perm.cons id).trans List.perm_middle.symm
      · refine List.nodup_cons.mpr ⟨fun hin => ?_, hfills.nodup⟩
        exact (hfills.free id hin).1 (by simp [hused])
      · intro new hnew
        rcases List.mem_cons.mp hnew with rfl | hnew
        · exact ⟨hfree, hisId⟩
        · obtain ⟨hnot, hnewId⟩ := hfills.free new hnew
          exact ⟨fun hin => hnot (by simp [hused, hin]), hnewId⟩
    · rw [fill_cons_of_ne_zero a hzero] at h
      obtain ⟨⟨kds, d⟩, hrest, heq⟩ := Option.map_eq_some_iff.mp h
      cases heq
      obtain ⟨fresh, hfills⟩ := ih hid hrest
      refine ⟨fresh, .cons (by rw [if_neg hzero]) hfills.places, ?_, hfills.nodup, hfills.free⟩
      have hfilter : (id :: ids).filter (· ≠ 0) = id :: ids.filter (· ≠ 0) := by simp [hzero]
      rw [hfilter]
      exact hfills.perm.cons id

/-- The identities of `jds` in the places where `ids` has a zero. -/
def handedOut (ids jds : List Nat) : List Nat :=
  ((ids.zip jds).filter fun p => p.1 = 0).map Prod.snd

/-- What is not handed out was there before. -/
theorem perm_append_handedOut
    (h : List.Forall₂ (fun i j => if i = 0 then IsId j else j = i) ids jds) :
    jds.Perm (ids.filter (· ≠ 0) ++ handedOut ids jds) := by
  induction h with
  | nil => exact .refl _
  | @cons i j ids jds hij _ ih =>
    by_cases hzero : i = 0
    · -- The new identity comes after those that were there.
      have hfilter : (i :: ids).filter (· ≠ 0) = ids.filter (· ≠ 0) := by simp [hzero]
      have hnew : handedOut (i :: ids) (j :: jds) = j :: handedOut ids jds := by
        simp [handedOut, hzero]
      rw [hfilter, hnew]
      exact (ih.cons j).trans List.perm_middle.symm
    · have hfilter : (i :: ids).filter (· ≠ 0) = i :: ids.filter (· ≠ 0) := by simp [hzero]
      have hold : handedOut (i :: ids) (j :: jds) = handedOut ids jds := by
        simp [handedOut, hzero]
      rw [if_neg hzero] at hij
      rw [hfilter, hold, hij]
      exact ih.cons i

/-- The new identities are those handed out, in some order. -/
theorem Fills.perm_handedOut {fresh : List Nat} (h : Fills used ids jds fresh) :
    fresh.Perm (handedOut ids jds) :=
  (List.perm_append_left_iff _).mp (h.perm.symm.trans (perm_append_handedOut h.places))

/-- A list can be filled in if there are enough free identities for its zeros. -/
theorem exists_fill (hid : IsId a.candidate) (ids : List Nat)
    (hroom : a.used.length + ids.count 0 ≤ last) : ∃ jds b, a.fill ids = some (jds, b) := by
  induction ids generalizing a with
  | nil => exact ⟨[], a, rfl⟩
  | cons id ids ih =>
    by_cases hzero : id = 0
    · subst hzero
      rw [List.count_cons_self] at hroom
      obtain ⟨id, b, hallocate⟩ := exists_allocate a (by omega)
      obtain ⟨_, _, hused, hcandidate⟩ := allocate_eq_some hid hallocate
      have hroom' : b.used.length + ids.count 0 ≤ last := by
        rw [hused, List.length_cons]
        omega
      obtain ⟨jds, c, hrest⟩ := ih hcandidate hroom'
      exact ⟨id :: jds, c, by rw [fill_cons_zero, hallocate, Option.bind_some, hrest]; rfl⟩
    · rw [List.count_cons_of_ne hzero] at hroom
      obtain ⟨jds, b, hrest⟩ := ih hid hroom
      exact ⟨id :: jds, b, by rw [fill_cons_of_ne_zero a hzero, hrest]; rfl⟩

end Allocator

end BannerGen.SiteId
