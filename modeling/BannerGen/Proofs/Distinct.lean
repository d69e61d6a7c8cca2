import Mathlib.Data.List.Induction
import Mathlib.Data.List.Nodup

/-!
# Leaving out repetitions

Of several equal elements of a list, `List.eraseDups` leaves the first one. One more element at the
end is either left out or comes last (`eraseDups_concat`), and from this follows the rest.
-/

namespace BannerGen

variable {α : Type} [DecidableEq α]

theorem eraseDups_concat (l : List α) (a : α) :
    (l ++ [a]).eraseDups = if a ∈ l then l.eraseDups else l.eraseDups ++ [a] := by
  rw [List.eraseDups_append]
  by_cases h : a ∈ l <;> simp [h, List.removeAll, List.eraseDups_cons]

/-- What is left is in the same order. -/
theorem eraseDups_sublist (l : List α) : l.eraseDups.Sublist l := by
  induction l using List.reverseRecOn with
  | nil => exact .slnil
  | append_singleton l a ih =>
    rw [eraseDups_concat]
    split
    · exact ih.trans (List.sublist_append_left l [a])
    · exact ih.append_right [a]

/-- No repetition is left. -/
theorem nodup_eraseDups (l : List α) : l.eraseDups.Nodup := by
  induction l using List.reverseRecOn with
  | nil => exact List.nodup_nil
  | append_singleton l a ih =>
    rw [eraseDups_concat]
    split
    · exact ih
    next h =>
      rw [← List.mem_eraseDups] at h
      rw [← List.concat_eq_append]
      exact ih.concat h

end BannerGen
