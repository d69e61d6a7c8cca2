import BannerGen.Source.Span
import Mathlib.Data.List.Nodup

/-!
# The order of spans

Spans are compared field by field, so any two can be compared, and only equal spans come both
before and after each other. A list is therefore sorted by location in one way only, if no two of
its elements are at the same location (`Span.sortBy_eq_of_perm`), and a list that is in order stays
as it is (`Span.sortBy_of_pairwise`).
-/

namespace BannerGen.Span

/-- Spans are compared field by field. -/
theorem compare_eq_compareLex :
    Span.compare = compareLex (compareOn file) (compareLex (compareOn start)
      (compareLex (compareOn stop) (compareLex (compareOn line) (compareOn column)))) := rfl

instance : Std.TransCmp Span.compare := by
  rw [compare_eq_compareLex]
  infer_instance

/-- Only equal spans compare as equal. -/
theorem eq_of_compare_eq {a b : Span} (h : a.compare b = .eq) : a = b := by
  simp only [Span.compare, Ordering.then_eq_eq, Std.LawfulEqCmp.compare_eq_iff_eq] at h
  obtain ⟨hfile, hstart, hstop, hline, hcolumn⟩ := h
  have hcompare : Ord.compare a.file b.file = .eq := hfile
  rw [Std.LawfulEqCmp.compare_eq_iff_eq] at hcompare
  cases a
  cases b
  rw [Span.mk.injEq]
  exact ⟨hcompare, hstart, hstop, hline, hcolumn⟩

theorem le_trans {a b c : Span} (hab : a.le b = true) (hbc : b.le c = true) : a.le c = true :=
  Std.TransCmp.isLE_trans hab hbc

theorem le_total (a b : Span) : (a.le b || b.le a) = true := by
  unfold le
  have hswap : b.compare a = (a.compare b).swap := Std.OrientedCmp.eq_swap
  rw [hswap]
  cases a.compare b <;> rfl

theorem le_antisymm {a b : Span} (hab : a.le b = true) (hba : b.le a = true) : a = b := by
  unfold le at hab hba
  exact eq_of_compare_eq (Std.OrientedCmp.isLE_antisymm hab hba)

/-- What is sorted by location is in order. -/
theorem pairwise_sortBy {α : Type} (location : α → Span) (l : List α) :
    (sortBy location l).Pairwise fun a b => (location a).le (location b) = true := by
  apply List.pairwise_mergeSort
  · intro a b c hab hbc
    exact le_trans hab hbc
  · intro a b
    exact le_total (location a) (location b)

/-- Elements can be replaced before or after sorting. -/
theorem sortBy_map {α β : Type} (location : β → Span) (f : α → β) (l : List α) :
    sortBy location (l.map f) = (sortBy (fun a => location (f a)) l).map f := by
  unfold sortBy
  rw [List.map_mergeSort]
  intro a _ b _
  rfl

/-- Lists that differ in the order of their elements only are sorted alike, if no two elements are
at the same location. -/
theorem sortBy_eq_of_perm {α : Type} {location : α → Span} {l l' : List α} (h : l.Perm l')
    (hnodup : (l.map location).Nodup) : sortBy location l = sortBy location l' := by
  have hperm : (sortBy location l).Perm (sortBy location l') :=
    (List.mergeSort_perm l _).trans (h.trans (List.mergeSort_perm l' _).symm)
  refine hperm.eq_of_pairwise ?_ (pairwise_sortBy location l) (pairwise_sortBy location l')
  -- Elements that come before each other are at the same location, so they are one element.
  intro a b ha hb hab hba
  have ha' : a ∈ l := (List.mergeSort_perm l _).mem_iff.mp ha
  have hb' : b ∈ l := h.mem_iff.mpr ((List.mergeSort_perm l' _).mem_iff.mp hb)
  exact List.inj_on_of_nodup_map hnodup ha' hb' (le_antisymm hab hba)

/-! ### What is in order already -/

variable {a b : Span}

/-- What is in an earlier file comes first. -/
theorem le_of_file_lt (h : a.file < b.file) : a.le b = true := by
  have hfile : compareOfLessAndEq a.file b.file = .lt := if_pos h
  simp only [le, Span.compare, hfile, Ordering.then, Ordering.isLE]

/-- In one file, what begins earlier comes first. -/
theorem le_of_start_lt (hfile : a.file = b.file) (h : a.start < b.start) : a.le b = true := by
  have hequal : compareOfLessAndEq a.file b.file = .eq := by
    rw [hfile, compareOfLessAndEq, if_neg (String.lt_irrefl b.file), if_pos rfl]
  have hstart : Ord.compare a.start b.start = .lt := Nat.compare_eq_lt.mpr h
  simp only [le, Span.compare, hequal, hstart, Ordering.then, Ordering.isLE]

/-- Sorting leaves what is in order as it is. -/
theorem sortBy_of_pairwise {α : Type} {location : α → Span} {l : List α}
    (h : (l.map location).Pairwise fun x y => x.le y = true) : sortBy location l = l :=
  List.mergeSort_of_pairwise (List.pairwise_map.mp h)

end BannerGen.Span
