import BannerGen.Proofs.SiteId
import Mathlib.Data.List.Iterate

/-!
# The order of new identities

The identities are passed through in a circle, and `SiteId.circle` lists them once round it. Those
that are not in use are what an allocator has left (`Allocator.remaining`), in the order in which it
hands them out: a call takes the first of them away (`Allocator.remaining_of_allocate`), and there
is none exactly if the call fails (`Allocator.allocate_eq_none_iff`). So all calls together run
through the list that is left in the beginning (`Allocator.remaining_calls`). This is the supply
(`Allocator.remaining_ofUsed`): the identities above all of those given, and then the gaps between
them.
-/

namespace BannerGen.SiteId

/-- All identities in increasing order. -/
def increasing : List Nat := List.range' 1 last

/-- All identities from `n` on, once round the circle. -/
def circle (n : Nat) : List Nat := List.iterate next n last

theorem mem_increasing {id : Nat} : id ∈ increasing ↔ IsId id := by
  rw [increasing, List.mem_range'_1, IsId]
  omega

/-- Up to the last identity, the next one is greater by one. -/
theorem iterate_next_eq_range' {n k : Nat} (h : n + k ≤ last + 1) :
    List.iterate next n k = List.range' n k := by
  induction k generalizing n with
  | zero => rfl
  | succ k ih =>
    rw [List.iterate, List.range'_succ]
    congr 1
    -- If this is the end of the list, the next identity may be the first one.
    cases k with
    | zero => rfl
    | succ k =>
      have hnext : next n = n + 1 := if_pos (by omega)
      rw [hnext]
      exact ih (by omega)

/-- The circle goes up to the last identity, and then from the first one on. -/
theorem circle_eq {n : Nat} (h : IsId n) :
    circle n = List.range' n (last + 1 - n) ++ List.range' 1 (n - 1) := by
  obtain ⟨hpos, hle⟩ := h
  have hround : next^[last + 1 - n] n = 1 := by
    rw [iterate_next ⟨hpos, hle⟩]
    have hsum : n - 1 + (last + 1 - n) = last := by omega
    rw [hsum, Nat.mod_self]
  have hlength : last = (last + 1 - n) + (n - 1) := by omega
  rw [circle]
  nth_rewrite 1 [hlength]
  rw [List.iterate_add, hround, iterate_next_eq_range' (by omega),
    iterate_next_eq_range' (by omega)]

/-- The circle from the identity after `m` on. -/
theorem circle_next {m : Nat} (h : m ≤ last) :
    circle (next m) = List.range' (m + 1) (last - m) ++ List.range' 1 m := by
  rw [circle_eq (isId_next m), next]
  split
  · congr 2
    omega
  next hlast =>
    obtain rfl : m = last := by omega
    simp

/-- The identities up to `m` and those above it. -/
theorem increasing_eq {m : Nat} (h : m ≤ last) :
    increasing = List.range' 1 m ++ List.range' (m + 1) (last - m) := by
  have hlength : last = m + (last - m) := by omega
  rw [increasing]
  nth_rewrite 1 [hlength]
  rw [← List.range'_append_1, Nat.add_comm 1 m]

theorem mem_circle {n id : Nat} (h : IsId n) : id ∈ circle n ↔ IsId id := by
  obtain ⟨hpos, hle⟩ := h
  rw [circle_eq ⟨hpos, hle⟩, List.mem_append, List.mem_range'_1, List.mem_range'_1, IsId]
  omega

/-- No identity comes twice on the circle. -/
theorem nodup_circle {n : Nat} (h : IsId n) : (circle n).Nodup := by
  rw [circle_eq h]
  refine List.nodup_append.mpr ⟨List.nodup_range', List.nodup_range', ?_⟩
  intro id hid jd hjd
  rw [List.mem_range'_1] at hid hjd
  omega

/-- Round the circle, every identity comes after itself. -/
theorem iterate_next_last {n : Nat} (h : IsId n) : next^[last] n = n := by
  obtain ⟨hpos, hle⟩ := h
  have hlt : n - 1 < last := by omega
  rw [iterate_next ⟨hpos, hle⟩, Nat.add_mod_right, Nat.mod_eq_of_lt hlt, Nat.sub_add_cancel hpos]

/-- The circle from a later identity on, cut where the circle started. -/
theorem circle_iterate_next {n k : Nat} (h : IsId n) (hk : k ≤ last) :
    circle (next^[k] n) = List.iterate next (next^[k] n) (last - k) ++ List.iterate next n k := by
  have hround : next^[last - k] (next^[k] n) = n := by
    rw [← Function.iterate_add_apply, Nat.sub_add_cancel hk, iterate_next_last h]
  have hlength : last = (last - k) + k := (Nat.sub_add_cancel hk).symm
  rw [circle]
  nth_rewrite 1 [hlength]
  rw [List.iterate_add, hround]

/-- The circle from `n` on, cut at a later identity. -/
theorem circle_cut {n k : Nat} (hk : k < last) :
    circle n = List.iterate next n k ++
      next^[k] n :: List.iterate next (next^[k + 1] n) (last - (k + 1)) := by
  have hlength : last = k + (1 + (last - (k + 1))) := by omega
  rw [circle]
  nth_rewrite 1 [hlength]
  rw [List.iterate_add, Nat.add_comm 1, List.iterate, ← Function.iterate_succ_apply' next]

/-- The circle behind that identity has the same parts in another order. -/
theorem circle_next_cut {n k : Nat} (h : IsId n) (hk : k < last) :
    circle (next (next^[k] n)) = List.iterate next (next^[k + 1] n) (last - (k + 1)) ++
      (List.iterate next n k ++ [next^[k] n]) := by
  rw [← Function.iterate_succ_apply' next, circle_iterate_next h hk, List.iterate_add next n k 1]
  rfl

namespace Allocator

variable {a b : Allocator} {id : Nat} {ids : List Nat}

/-! ### One call -/

/-- The numbers that an allocator keeps are identities, and none of those in use comes twice. -/
structure IsProper (a : Allocator) : Prop where
  /-- The search starts at an identity. -/
  candidate : IsId a.candidate
  /-- Only identities are in use. -/
  used : ∀ id ∈ a.used, IsId id
  /-- No identity in use is listed twice. -/
  nodup : a.used.Nodup

/-- The identities that are not in use, in the order in which they are tried. -/
def remaining (a : Allocator) : List Nat := (circle a.candidate).filter (· ∉ a.used)

/-- What a call leaves. If it fails it leaves the allocator as it was. -/
def afterCall (a : Allocator) : Allocator := a.allocate.elim a Prod.snd

theorem mem_remaining (h : a.IsProper) : id ∈ a.remaining ↔ IsId id ∧ id ∉ a.used := by
  simp [remaining, mem_circle h.candidate]

theorem afterCall_of_some (h : a.allocate = some (id, b)) : a.afterCall = b := by
  rw [afterCall, h, Option.elim_some]

theorem afterCall_of_none (h : a.allocate = none) : a.afterCall = a := by
  rw [afterCall, h, Option.elim_none]

theorem IsProper.allocate (h : a.IsProper) (hallocate : a.allocate = some (id, b)) :
    b.IsProper := by
  obtain ⟨hfree, hid, hused, hcandidate⟩ := allocate_eq_some h.candidate hallocate
  refine ⟨hcandidate, ?_, ?_⟩
  · rw [hused]
    exact List.forall_mem_cons.mpr ⟨hid, h.used⟩
  · rw [hused]
    exact List.nodup_cons.mpr ⟨hfree, h.nodup⟩

/-- What a call does that does not fail. -/
theorem allocate_eq_some_iff : a.allocate = some (id, b) ↔ a.used.length < last ∧
    id = search a.used a.used.length a.candidate ∧
    b = { used := id :: a.used, candidate := next id } := by
  unfold Allocator.allocate
  by_cases hfull : last ≤ a.used.length
  · rw [if_pos hfull]
    simp [hfull]
  · rw [if_neg hfull]
    simp only [Option.some.injEq, Prod.mk.injEq]
    constructor
    · rintro ⟨rfl, rfl⟩
      exact ⟨by omega, rfl, rfl⟩
    · rintro ⟨-, rfl, rfl⟩
      exact ⟨rfl, rfl⟩

/-- The search ends: it passes over used identities, not more than there are, to a free one. -/
theorem exists_steps_of_allocate (h : a.IsProper) (hallocate : a.allocate = some (id, b)) :
    ∃ k ≤ a.used.length, id = next^[k] a.candidate ∧ id ∉ a.used ∧
      ∀ i < k, next^[i] a.candidate ∈ a.used := by
  obtain ⟨k, hk, heq, hpassed, -⟩ := search_eq_iterate a.used a.used.length a.candidate
  obtain ⟨-, hid, -⟩ := allocate_eq_some_iff.mp hallocate
  exact ⟨k, hk, hid.trans heq, (allocate_eq_some h.candidate hallocate).1, hpassed⟩

/-- A call fails exactly if all identities are in use. -/
theorem allocate_eq_none_iff (h : a.IsProper) :
    a.allocate = none ↔ ∀ id, IsId id → id ∈ a.used := by
  constructor
  · intro hnone id hid
    have hfull : last ≤ a.used.length := by
      by_contra hroom
      obtain ⟨id, b, hsome⟩ := exists_allocate a (by omega)
      rw [hnone] at hsome
      cases hsome
    -- One more identity in use would be more of them than there are.
    by_contra hfree
    have hsubset : id :: a.used ⊆ increasing := by
      intro jd hjd
      rcases List.mem_cons.mp hjd with rfl | hjd
      · exact mem_increasing.mpr hid
      · exact mem_increasing.mpr (h.used jd hjd)
    have hle := (List.nodup_cons.mpr ⟨hfree, h.nodup⟩).length_le_of_subset hsubset
    rw [List.length_cons, increasing, List.length_range'] at hle
    omega
  · intro hall
    rw [Option.eq_none_iff_forall_ne_some]
    rintro ⟨id, b⟩ hsome
    obtain ⟨hfree, hid, -, -⟩ := allocate_eq_some h.candidate hsome
    exact hfree (hall id hid)

/-- What is not in use on a circle that is cut at its first free identity, before and after this
identity is taken and the circle is cut behind it. -/
theorem filter_cut {used before after : List Nat} (hbefore : ∀ x ∈ before, x ∈ used)
    (hfree : id ∉ used) (hafter : id ∉ after) :
    (before ++ id :: after).filter (· ∉ used) =
      id :: (after ++ (before ++ [id])).filter (· ∉ id :: used) := by
  have hpassed : before.filter (· ∉ used) = [] := by
    rw [List.filter_eq_nil_iff]
    intro x hx
    simpa using hbefore x hx
  have hbehind : (before ++ [id]).filter (· ∉ id :: used) = [] := by
    rw [List.filter_eq_nil_iff]
    intro x hx
    rcases List.mem_append.mp hx with hx | hx
    · simp [hbefore x hx]
    · simp [List.mem_singleton.mp hx]
  have hrest : after.filter (· ∉ id :: used) = after.filter (· ∉ used) := by
    refine List.filter_congr fun x hx => ?_
    have hne : x ≠ id := fun heq => hafter (heq ▸ hx)
    simp [hne]
  rw [List.filter_append, List.filter_append, hpassed, hbehind, hrest, List.nil_append,
    List.append_nil, List.filter_cons_of_pos (by simpa using hfree)]

/-- A call takes the first of the remaining identities away. -/
theorem remaining_of_allocate (h : a.IsProper) (hallocate : a.allocate = some (id, b)) :
    a.remaining = id :: b.remaining := by
  obtain ⟨hroom, -, rfl⟩ := allocate_eq_some_iff.mp hallocate
  obtain ⟨k, hk, rfl, hfree, hpassed⟩ := exists_steps_of_allocate h hallocate
  -- The circle is cut at the identity that is found, and the next search starts behind the cut.
  have hcut := circle_cut (n := a.candidate) (hk.trans_lt hroom)
  have hbefore : ∀ id ∈ List.iterate next a.candidate k, id ∈ a.used := by
    intro id hid
    obtain ⟨i, hi, rfl⟩ := List.mem_iterate.mp hid
    exact hpassed i hi
  have hafter : next^[k] a.candidate ∉
      List.iterate next (next^[k + 1] a.candidate) (last - (k + 1)) := by
    have hnodup := nodup_circle h.candidate
    rw [hcut] at hnodup
    exact (List.nodup_cons.mp (List.nodup_append.mp hnodup).2.1).1
  rw [remaining, remaining, hcut, circle_next_cut h.candidate (hk.trans_lt hroom)]
  exact filter_cut hbefore hfree hafter

theorem remaining_of_none (h : a.IsProper) (hallocate : a.allocate = none) :
    a.remaining = [] := by
  rw [List.eq_nil_iff_forall_not_mem]
  intro id hid
  obtain ⟨hisId, hfree⟩ := (mem_remaining h).mp hid
  exact hfree ((allocate_eq_none_iff h).mp hallocate id hisId)

/-! ### Calls one after the other -/

theorem IsProper.afterCall (h : a.IsProper) : a.afterCall.IsProper := by
  cases hallocate : a.allocate with
  | none => rwa [afterCall_of_none hallocate]
  | some r =>
    rw [afterCall_of_some hallocate]
    exact h.allocate hallocate

/-- A call answers with the first of the remaining identities. -/
theorem allocate_eq_head? (h : a.IsProper) : a.allocate.map Prod.fst = a.remaining.head? := by
  cases hallocate : a.allocate with
  | none => rw [remaining_of_none h hallocate, Option.map_none, List.head?_nil]
  | some r => rw [remaining_of_allocate h hallocate, Option.map_some, List.head?_cons]

theorem remaining_afterCall (h : a.IsProper) : a.afterCall.remaining = a.remaining.tail := by
  cases hallocate : a.allocate with
  | none => rw [afterCall_of_none hallocate, remaining_of_none h hallocate, List.tail_nil]
  | some r => rw [afterCall_of_some hallocate, remaining_of_allocate h hallocate, List.tail_cons]

theorem used_afterCall (h : a.IsProper) :
    a.afterCall.used = a.remaining.head?.toList ++ a.used := by
  cases hallocate : a.allocate with
  | none =>
    rw [afterCall_of_none hallocate, remaining_of_none h hallocate]
    rfl
  | some r =>
    obtain ⟨-, -, hused⟩ := allocate_eq_some_iff.mp hallocate
    rw [afterCall_of_some hallocate, remaining_of_allocate h hallocate, hused]
    rfl

theorem IsProper.calls (h : a.IsProper) (k : Nat) : (Allocator.afterCall^[k] a).IsProper := by
  induction k with
  | zero => exact h
  | succ k ih =>
    rw [Function.iterate_succ_apply']
    exact ih.afterCall

/-- Calls take the remaining identities away in their order. -/
theorem remaining_calls (h : a.IsProper) (k : Nat) :
    (afterCall^[k] a).remaining = a.remaining.drop k := by
  induction k with
  | zero => rfl
  | succ k ih =>
    rw [Function.iterate_succ_apply', remaining_afterCall (h.calls k), ih, List.tail_drop]

/-- What calls take away is in use after them. -/
theorem mem_used_calls (h : a.IsProper) (k : Nat) :
    id ∈ (afterCall^[k] a).used ↔ id ∈ a.used ∨ id ∈ a.remaining.take k := by
  induction k with
  | zero => simp
  | succ k ih =>
    rw [Function.iterate_succ_apply', used_afterCall (h.calls k), remaining_calls h,
      List.mem_append, ih, List.take_add_one, List.mem_append, List.head?_drop]
    tauto

/-! ### What is left in the beginning -/

/-- The identities that are handed out if the given ones are in use: those above all of them in
increasing order, and then the others that are not given, in increasing order too. -/
def supply (ids : List Nat) : List Nat :=
  increasing.filter (fun id => ∀ given ∈ ids, given < id) ++
    increasing.filter (fun id => id ∉ ids ∧ ∃ given ∈ ids, id ≤ given)

theorem isProper_ofUsed (hids : ∀ id ∈ ids, id ≤ last) : (ofUsed ids).IsProper := by
  refine ⟨isId_candidate_ofUsed ids, ?_, nodup_eraseDups _⟩
  intro id hid
  obtain ⟨hmem, hpos⟩ := mem_used_ofUsed.mp hid
  exact ⟨Nat.pos_of_ne_zero hpos, hids id hmem⟩

/-- The greatest of some numbers is one of them, unless it is zero. -/
theorem foldl_max_greatest (l : List Nat) :
    (∀ n ∈ l, n ≤ l.foldl max 0) ∧ (0 < l.foldl max 0 → l.foldl max 0 ∈ l) := by
  induction l using List.reverseRecOn with
  | nil => simp
  | append_singleton l n ih =>
    -- The last number is compared with the greatest of those before it.
    obtain ⟨hle, hmem⟩ := ih
    rw [List.foldl_append, List.foldl_cons, List.foldl_nil]
    constructor
    · intro i hi
      rcases List.mem_append.mp hi with hi | hi
      · exact (hle i hi).trans (Nat.le_max_left _ _)
      · rw [List.mem_singleton.mp hi]
        exact Nat.le_max_right _ _
    · intro hpos
      rw [List.mem_append, List.mem_singleton]
      rcases Nat.le_total n (l.foldl max 0) with h | h
      · rw [Nat.max_eq_left h] at hpos ⊢
        exact .inl (hmem hpos)
      · exact .inr (Nat.max_eq_right h)

/-- The search starts after the greatest of the given identities. -/
theorem exists_greatest (hids : ∀ id ∈ ids, id ≤ last) :
    ∃ m ≤ last, (ofUsed ids).candidate = next m ∧ (∀ id ∈ ids, id ≤ m) ∧ (0 < m → m ∈ ids) := by
  obtain ⟨hle, hmem⟩ := foldl_max_greatest (ofUsed ids).used
  have hgiven : 0 < (ofUsed ids).used.foldl max 0 → (ofUsed ids).used.foldl max 0 ∈ ids :=
    fun hpos => (mem_used_ofUsed.mp (hmem hpos)).1
  refine ⟨(ofUsed ids).used.foldl max 0, ?_, ?_, ?_, hgiven⟩
  · rcases Nat.eq_zero_or_pos ((ofUsed ids).used.foldl max 0) with hzero | hpos
    · omega
    · exact hids _ (hgiven hpos)
  · by_cases hnone : (ofUsed ids).used = []
    · rw [hnone]
      exact if_pos hnone
    · exact if_neg hnone
  · intro id hid
    rcases Nat.eq_zero_or_pos id with rfl | hpos
    · exact Nat.zero_le _
    · exact hle id (mem_used_ofUsed.mpr ⟨hid, Nat.ne_of_gt hpos⟩)

section Greatest

variable {m : Nat}

/-- The supply, if `m` is the greatest of the given identities. -/
theorem supply_eq (hm : m ≤ last) (hle : ∀ id ∈ ids, id ≤ m) (hmem : 0 < m → m ∈ ids) :
    supply ids = List.range' (m + 1) (last - m) ++ (List.range' 1 m).filter (· ∉ ids) := by
  have hbelow : ∀ id ∈ List.range' 1 m, ∃ given ∈ ids, id ≤ given := by
    intro id hid
    rw [List.mem_range'_1] at hid
    exact ⟨m, hmem (by omega), by omega⟩
  have habove : ∀ id ∈ List.range' (m + 1) (last - m), ∀ given ∈ ids, given < id := by
    intro id hid given hgiven
    rw [List.mem_range'_1] at hid
    exact (hle given hgiven).trans_lt (by omega)
  have hnotAbove : (List.range' 1 m).filter (fun id => ∀ given ∈ ids, given < id) = [] := by
    rw [List.filter_eq_nil_iff]
    intro id hid hall
    obtain ⟨given, hgiven, hidle⟩ := hbelow id hid
    exact Nat.not_lt_of_le hidle (of_decide_eq_true hall given hgiven)
  have hgaps : (List.range' 1 m).filter (fun id => id ∉ ids ∧ ∃ given ∈ ids, id ≤ given) =
      (List.range' 1 m).filter (· ∉ ids) := by
    refine List.filter_congr fun id hid => ?_
    simp [hbelow id hid]
  have hallAbove : (List.range' (m + 1) (last - m)).filter
      (fun id => ∀ given ∈ ids, given < id) = List.range' (m + 1) (last - m) :=
    List.filter_eq_self.mpr fun id hid => decide_eq_true (habove id hid)
  have hnoGaps : (List.range' (m + 1) (last - m)).filter
      (fun id => id ∉ ids ∧ ∃ given ∈ ids, id ≤ given) = [] := by
    rw [List.filter_eq_nil_iff]
    intro id hid hgap
    obtain ⟨-, given, hgiven, hidle⟩ := of_decide_eq_true hgap
    exact Nat.not_lt_of_le hidle (habove id hid given hgiven)
  rw [supply, increasing_eq hm, List.filter_append, List.filter_append, hnotAbove, hgaps,
    hallAbove, hnoGaps, List.nil_append, List.append_nil]

/-- What is left in the beginning, if the search starts after the greatest of the given
identities. -/
theorem remaining_ofUsed_eq (hm : m ≤ last) (hcandidate : (ofUsed ids).candidate = next m)
    (hle : ∀ id ∈ ids, id ≤ m) : (ofUsed ids).remaining =
      List.range' (m + 1) (last - m) ++ (List.range' 1 m).filter (· ∉ ids) := by
  have hfree : (List.range' (m + 1) (last - m)).filter (· ∉ (ofUsed ids).used) =
      List.range' (m + 1) (last - m) := by
    refine List.filter_eq_self.mpr fun id hid => decide_eq_true fun hused => ?_
    have hidle := hle id (mem_used_ofUsed.mp hused).1
    rw [List.mem_range'_1] at hid
    omega
  have hgaps : (List.range' 1 m).filter (· ∉ (ofUsed ids).used) =
      (List.range' 1 m).filter (· ∉ ids) := by
    refine List.filter_congr fun id hid => ?_
    rw [List.mem_range'_1] at hid
    have hne : id ≠ 0 := by omega
    simp [mem_used_ofUsed, hne]
  rw [remaining, hcandidate, circle_next hm, List.filter_append, hfree, hgaps]

end Greatest

/-- In the beginning the supply is left. -/
theorem remaining_ofUsed (hids : ∀ id ∈ ids, id ≤ last) :
    (ofUsed ids).remaining = supply ids := by
  obtain ⟨m, hm, hcandidate, hle, hmem⟩ := exists_greatest hids
  rw [remaining_ofUsed_eq hm hcandidate hle, supply_eq hm hle hmem]

/-- Identities are handed out in a known order until all are in use. After `k` calls the given
identities and the first `k` of the supply are in use, and none is listed twice; the next call
answers with the next one of the supply. As long as not all identities are in use it does not fail:
its search passes over identities in use, not more than there are, and ends at a free one. It fails
exactly if all identities are in use, and then it leaves the allocator as it was. -/
theorem calls_run_through_supply (ids : List Nat) (hids : ∀ id ∈ ids, id ≤ last) (k : Nat) :
    let a := afterCall^[k] (ofUsed ids)
    a.used.Nodup ∧ (∀ id, id ∈ a.used ↔ (id ∈ ids ∧ id ≠ 0) ∨ id ∈ (supply ids).take k) ∧
    a.allocate.map Prod.fst = (supply ids)[k]? ∧
    (a.used.length < last → ∃ id b, a.allocate = some (id, b) ∧
      0 < id ∧ id ≤ last ∧ id ∉ a.used ∧
      ∃ steps ≤ a.used.length, id = next^[steps] a.candidate ∧
        ∀ i < steps, next^[i] a.candidate ∈ a.used) ∧
    (a.allocate = none ↔ ∀ id, 0 < id → id ≤ last → id ∈ a.used) ∧
    (a.allocate = none → a.afterCall = a) := by
  intro a
  have hstart := isProper_ofUsed hids
  have hproper : a.IsProper := hstart.calls k
  refine ⟨hproper.nodup, ?_, ?_, ?_, ?_, afterCall_of_none⟩
  · intro id
    rw [mem_used_calls hstart, mem_used_ofUsed, remaining_ofUsed hids]
  · rw [allocate_eq_head? hproper, remaining_calls hstart, remaining_ofUsed hids, List.head?_drop]
  · intro hroom
    obtain ⟨id, b, hallocate⟩ := exists_allocate a hroom
    obtain ⟨hfree, ⟨hpos, hle⟩, -, -⟩ := allocate_eq_some hproper.candidate hallocate
    obtain ⟨steps, hsteps, hid, -, hpassed⟩ := exists_steps_of_allocate hproper hallocate
    exact ⟨id, b, hallocate, hpos, hle, hfree, steps, hsteps, hid, hpassed⟩
  · rw [allocate_eq_none_iff hproper]
    exact forall_congr' fun id => and_imp

/-- The greatest identity is in use, and so are the first and the third: the calls go through the
gaps from the beginning. -/
theorem calls_run_through_supply_wrapped :
    let ids := [3, last, 1, 0, 3]
    (∀ id ∈ ids, id ≤ last) ∧ (afterCall^[1] (ofUsed ids)).used = [2, 3, last, 1] ∧
      (supply ids)[0]? = some 2 ∧ (supply ids)[1]? = some 4 := by
  intro ids
  have hids : ∀ id ∈ ids, id ≤ last := by decide
  obtain ⟨-, -, hfirst, -⟩ := calls_run_through_supply ids hids 0
  obtain ⟨-, -, hsecond, -⟩ := calls_run_through_supply ids hids 1
  exact ⟨hids, by decide, hfirst.symm.trans (by decide), hsecond.symm.trans (by decide)⟩

end Allocator

end BannerGen.SiteId
