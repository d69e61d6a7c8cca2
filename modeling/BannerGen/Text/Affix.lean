/-!
# Dropping a beginning or an ending

A text without a given beginning or ending; a text that does not have it stays as it is.
-/

namespace BannerGen.Text

/-- The characters without the beginning `p`. -/
def dropStart (p cs : List Char) : List Char :=
  if p.isPrefixOf cs then cs.drop p.length else cs

/-- The characters without the ending `p`. -/
def dropEnd (p cs : List Char) : List Char :=
  if p.isSuffixOf cs then cs.take (cs.length - p.length) else cs

variable {p cs rest : List Char}

/-- What is left is the rest after the beginning, or all of a text that does not begin so. -/
theorem dropStart_eq_iff :
    dropStart p cs = rest ↔ cs = p ++ rest ∨ cs = rest ∧ ¬ p <+: rest := by
  unfold dropStart
  by_cases h : p <+: cs
  · obtain ⟨tail, rfl⟩ := h
    rw [if_pos (List.isPrefixOf_iff_prefix.mpr (List.prefix_append p tail)), List.drop_left,
      List.append_cancel_left_eq]
    refine (or_iff_left_of_imp ?_).symm
    rintro ⟨rfl, hnot⟩
    exact absurd (List.prefix_append p tail) hnot
  · rw [if_neg (mt List.isPrefixOf_iff_prefix.mp h)]
    constructor
    · rintro rfl
      exact .inr ⟨rfl, h⟩
    · rintro (rfl | ⟨rfl, _⟩)
      · exact absurd (List.prefix_append p rest) h
      · rfl

/-- What is left is the rest before the ending, or all of a text that does not end so. -/
theorem dropEnd_eq_iff :
    dropEnd p cs = rest ↔ cs = rest ++ p ∨ cs = rest ∧ ¬ p <:+ rest := by
  unfold dropEnd
  by_cases h : p <:+ cs
  · obtain ⟨head, rfl⟩ := h
    rw [if_pos (List.isSuffixOf_iff_suffix.mpr (List.suffix_append head p)), List.length_append,
      Nat.add_sub_cancel, List.take_left, List.append_cancel_right_eq]
    refine (or_iff_left_of_imp ?_).symm
    rintro ⟨rfl, hnot⟩
    exact absurd (List.suffix_append head p) hnot
  · rw [if_neg (mt List.isSuffixOf_iff_suffix.mp h)]
    constructor
    · rintro rfl
      exact .inr ⟨rfl, h⟩
    · rintro (rfl | ⟨rfl, _⟩)
      · exact absurd (List.suffix_append rest p) h
      · rfl

end BannerGen.Text
