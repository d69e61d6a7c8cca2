import BannerGen.FontTable
import BannerGen.Proofs.Distinct
import Mathlib.Data.List.Forall2

/-!
# Looking up fonts

A table is made by registering fonts one after the other. A font is found under a name exactly if
it is the first one that was registered under this name, up to the case of ASCII letters
(`FontTable.get?_ofList`). Other letters are told apart by their case (`FontTable.foldName_eq_iff`).
-/

namespace BannerGen.FontTable

/-! ### The case of letters -/

/-- The first character is a capital ASCII letter, and the second one is the small letter. -/
def IsCapitalOf (c d : Char) : Prop := 'A' ≤ c ∧ c ≤ 'Z' ∧ d.toNat = c.toNat + 32

/-- The characters are equal, or they are the capital and the small form of one ASCII letter. -/
def SameLetter (c d : Char) : Prop := c = d ∨ IsCapitalOf c d ∨ IsCapitalOf d c

theorem toNat_toLower (c : Char) :
    c.toLower.toNat = if 65 ≤ c.toNat ∧ c.toNat ≤ 90 then c.toNat + 32 else c.toNat := by
  have hupper : c.val ≥ 'A'.val ∧ c.val ≤ 'Z'.val ↔ 65 ≤ c.toNat ∧ c.toNat ≤ 90 := Iff.rfl
  by_cases h : 65 ≤ c.toNat ∧ c.toNat ≤ 90
  · have hle : c.val.toNat ≤ 90 := h.2
    have hlower : c.toLower.toNat = (c.val + 32).toNat :=
      congrArg Char.toNat (dif_pos (hupper.mpr h))
    rw [if_pos h, hlower, UInt32.toNat_add]
    -- The sum is small, so it does not wrap.
    apply Nat.mod_eq_of_lt
    show c.val.toNat + 32 < _
    omega
  · rw [if_neg h]
    exact congrArg Char.toNat (dif_neg (mt hupper.mp h))

theorem isCapitalOf_iff {c d : Char} :
    IsCapitalOf c d ↔ 65 ≤ c.toNat ∧ c.toNat ≤ 90 ∧ d.toNat = c.toNat + 32 := Iff.rfl

/-- Only the two forms of an ASCII letter are the same in lower case. -/
theorem toLower_eq_toLower_iff {c d : Char} : c.toLower = d.toLower ↔ SameLetter c d := by
  rw [← Char.toNat_inj, toNat_toLower, toNat_toLower, SameLetter, isCapitalOf_iff, isCapitalOf_iff,
    ← Char.toNat_inj]
  split <;> split <;> omega

/-- Names are looked up alike exactly if they agree letter by letter. -/
theorem foldName_eq_iff {a b : String} :
    foldName a = foldName b ↔ List.Forall₂ SameLetter a.toList b.toList := by
  rw [foldName, foldName, String.ofList_inj, ← List.forall₂_eq_eq_eq, List.forall₂_map_left_iff,
    List.forall₂_map_right_iff]
  simp only [toLower_eq_toLower_iff]

/-- A name that is in lower case already stays as it is. -/
theorem foldName_foldName (name : String) : foldName (foldName name) = foldName name := by
  have htwice (c : Char) : c.toLower.toLower = c.toLower := by
    rw [← Char.toNat_inj, toNat_toLower c.toLower, toNat_toLower c]
    by_cases h : 65 ≤ c.toNat ∧ c.toNat ≤ 90
    · rw [if_pos h, if_neg (by omega)]
    · rw [if_neg h, if_neg h]
  simp [foldName, Function.comp_def, htwice]

/-! ### Registration -/

variable {t : FontTable} {name q : String}

theorem contains_iff : t.contains name = true ↔ foldName name ∈ t.names := by
  simp [contains, get?, names, List.lookup_isSome_iff]

/-- Names that are looked up alike have the same font. -/
theorem get?_congr (t : FontTable) (h : foldName name = foldName q) : t.get? name = t.get? q := by
  rw [get?, get?, h]

/-- A font that was there before counts, and otherwise the one that is registered. -/
theorem get?_register (t : FontTable) (name : String) (font : String → String) (q : String) :
    (t.register name font).get? q =
      (t.get? q).or (if foldName name = foldName q then some font else none) := by
  rw [register]
  by_cases h : t.contains name = true
  · rw [if_pos h]
    by_cases hq : foldName name = foldName q
    · -- The name is that of a font, so what is registered is not found.
      rw [contains, get?_congr t hq, Option.isSome_iff_exists] at h
      obtain ⟨old, hold⟩ := h
      rw [hold, Option.some_or]
    · rw [if_neg hq, Option.or_none]
  · rw [if_neg h, get?, List.lookup_append]
    congr 1
    by_cases hq : foldName name = foldName q
    · rw [if_pos hq, hq, List.lookup_cons_self]
    · have hne : (foldName q == foldName name) = false := beq_eq_false_iff_ne.mpr (Ne.symm hq)
      rw [if_neg hq, List.lookup_cons, hne]
      rfl

/-- Names are listed in the order of registration. -/
theorem names_register (t : FontTable) (name : String) (font : String → String) :
    (t.register name font).names =
      if foldName name ∈ t.names then t.names else t.names ++ [foldName name] := by
  rw [register]
  by_cases h : foldName name ∈ t.names
  · rw [if_pos h, if_pos (contains_iff.mpr h)]
  · rw [if_neg h, if_neg (mt contains_iff.mp h)]
    simp [names]

theorem ofList_concat (fonts : List (String × (String → String))) (f : String × (String → String)) :
    ofList (fonts ++ [f]) = (ofList fonts).register f.1 f.2 := by
  simp [ofList]

/-- The first font that was registered under a name counts. -/
theorem get?_ofList (fonts : List (String × (String → String))) (q : String) :
    (ofList fonts).get? q =
      (fonts.find? fun f => foldName f.1 = foldName q).map Prod.snd := by
  induction fonts using List.reverseRecOn with
  | nil => rfl
  | append_singleton fonts f ih =>
    rw [ofList_concat, get?_register, ih, List.find?_append, Option.map_or]
    by_cases h : foldName f.1 = foldName q <;> simp [h]

/-- The names are those of the fonts in lower case, each where it was registered first. -/
theorem names_ofList (fonts : List (String × (String → String))) :
    (ofList fonts).names = (fonts.map fun f => foldName f.1).eraseDups := by
  induction fonts using List.reverseRecOn with
  | nil => rfl
  | append_singleton fonts f ih =>
    rw [ofList_concat, names_register, ih, List.map_append, List.map_singleton, eraseDups_concat]
    simp only [List.mem_eraseDups]

end BannerGen.FontTable
