/-!
# Replacing a pattern in a text

Every occurrence of a pattern is replaced, scanning from the left and without looking again at
what was put in.
-/

namespace BannerGen.Text

/-- Replaces the occurrences of `pattern`, which is not to be empty, from left to right. -/
def replaceChars (pattern replacement : List Char) : List Char → List Char
  | [] => []
  | c :: cs =>
    if pattern.isPrefixOf (c :: cs) ∧ pattern ≠ [] then
      replacement ++ replaceChars pattern replacement ((c :: cs).drop pattern.length)
    else c :: replaceChars pattern replacement cs
termination_by cs => cs.length
decreasing_by
  · rename_i h
    have : 0 < pattern.length := List.length_pos_iff.mpr h.2
    simp only [List.length_drop, List.length_cons]
    omega
  · simp

/-- Replaces the occurrences of `pattern` in a text from left to right. -/
def replace (s pattern replacement : String) : String :=
  String.ofList (replaceChars pattern.toList replacement.toList s.toList)

end BannerGen.Text
