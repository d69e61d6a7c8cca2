/-!
# Association lists

A list of pairs of a key and a value, in the order in which the keys were first put in.
-/

namespace BannerGen.Assoc

variable {α β : Type} [DecidableEq α]

/-- Replaces the value of a key, or adds the key at the end. -/
def put (key : α) (v : β) : List (α × β) → List (α × β)
  | [] => [(key, v)]
  | (k, w) :: rest => if k = key then (k, v) :: rest else (k, w) :: put key v rest

/-- The value that was put in is found under its key. -/
@[simp]
theorem lookup_put_self (key : α) (v : β) (l : List (α × β)) :
    (put key v l).lookup key = some v := by
  induction l with
  | nil => simp [put]
  | cons e rest ih =>
    obtain ⟨k, w⟩ := e
    by_cases h : k = key
    · simp [put, h]
    · have hne : (key == k) = false := beq_eq_false_iff_ne.mpr fun e => h e.symm
      simp [put, h, List.lookup_cons, hne, ih]

/-- The values of other keys stay. -/
theorem lookup_put_of_ne {key other : α} (h : other ≠ key) (v : β) (l : List (α × β)) :
    (put key v l).lookup other = l.lookup other := by
  have hne : (other == key) = false := beq_eq_false_iff_ne.mpr h
  induction l with
  | nil => simp [put, List.lookup_cons, hne]
  | cons e rest ih =>
    obtain ⟨k, w⟩ := e
    by_cases hk : k = key
    · subst hk
      simp [put, List.lookup_cons, hne]
    · simp [put, hk, List.lookup_cons, ih]

/-- A key that is there keeps its place, and one that is not comes last. -/
theorem map_fst_put (key : α) (v : β) (l : List (α × β)) :
    (put key v l).map Prod.fst =
      if key ∈ l.map Prod.fst then l.map Prod.fst else l.map Prod.fst ++ [key] := by
  induction l with
  | nil => simp [put]
  | cons e rest ih =>
    obtain ⟨k, w⟩ := e
    by_cases hk : k = key
    · simp [put, hk]
    · have hne : ¬ key = k := fun e => hk e.symm
      simp only [put, hk, if_false, List.map_cons, ih, List.mem_cons, hne, false_or]
      split <;> simp

/-- A pair of the list is the one that was put in, or it was there before. -/
theorem mem_put {key : α} {v : β} {p : α × β} {l : List (α × β)} (h : p ∈ put key v l) :
    p = (key, v) ∨ p ∈ l := by
  induction l with
  | nil => exact .inl (List.mem_singleton.mp h)
  | cons e rest ih =>
    obtain ⟨k, w⟩ := e
    by_cases hk : k = key
    · subst hk
      rw [put, if_pos rfl] at h
      exact (List.mem_cons.mp h).imp_right (List.mem_cons_of_mem _)
    · rw [put, if_neg hk] at h
      rcases List.mem_cons.mp h with rfl | hrest
      · exact .inr List.mem_cons_self
      · exact (ih hrest).imp_right (List.mem_cons_of_mem _)

/-- Of the pairs that are put in one after the other, the last one of a key counts. -/
theorem lookup_foldl_put (key : α) (ps : List (α × β)) :
    ∀ l, (ps.foldl (fun l p => put p.1 p.2 l) l).lookup key =
      (ps.reverse.lookup key).or (l.lookup key) := by
  induction ps with
  | nil =>
    intro l
    rfl
  | cons p ps ih =>
    intro l
    obtain ⟨k, w⟩ := p
    rw [List.foldl_cons, ih, List.reverse_cons, List.lookup_append, Option.or_assoc]
    by_cases hkey : key = k
    · subst hkey
      simp
    · have hne : (key == k) = false := beq_eq_false_iff_ne.mpr hkey
      rw [lookup_put_of_ne hkey, List.lookup_cons, hne]
      rfl

/-- If no key is repeated, every pair of the list is found under its key. -/
theorem lookup_eq_some_of_mem {key : α} {v : β} {l : List (α × β)}
    (hnodup : (l.map Prod.fst).Nodup) (h : (key, v) ∈ l) : l.lookup key = some v := by
  induction l with
  | nil => cases h
  | cons e rest ih =>
    obtain ⟨k, w⟩ := e
    simp only [List.map_cons, List.nodup_cons] at hnodup
    rcases List.mem_cons.mp h with heq | hrest
    · cases heq
      simp
    · have hmem : key ∈ rest.map Prod.fst := List.mem_map_of_mem hrest
      have hne : (key == k) = false := beq_eq_false_iff_ne.mpr fun e => hnodup.1 (e ▸ hmem)
      simp [List.lookup_cons, hne, ih hnodup.2 hrest]

end BannerGen.Assoc
