import BannerGen.Source.Declaration
import Mathlib.Data.List.DropRight

/-!
# Normalized keys

Trimming a text twice is trimming it once, so a normalized key stays as it is when it is normalized
again (`TypeKey.normalized_normalized`). In particular the key of a site is normalized.
-/

namespace BannerGen

namespace Text

/-- Trimming drops blanks from the start and then from the end. -/
theorem trimChars_eq (cs : List Char) :
    trimChars cs = (cs.dropWhile isBlank).rdropWhile isBlank := rfl

/-- A trimmed text does not start with a blank. -/
theorem dropWhile_trimChars (cs : List Char) :
    (trimChars cs).dropWhile isBlank = trimChars cs := by
  rw [List.dropWhile_eq_self_iff]
  intro hlen hblank
  -- What is left after dropping at the end starts as it did before.
  have hinit : trimChars cs <+: cs.dropWhile isBlank := List.rdropWhile_prefix isBlank _
  have hpos : 0 < (cs.dropWhile isBlank).length := hlen.trans_le hinit.length_le
  refine List.dropWhile_get_zero_not isBlank cs hpos ?_
  rw [← hblank]
  simpa using congrArg isBlank (hinit.getElem hlen).symm

/-- Trimming twice is trimming once. -/
@[simp]
theorem trimChars_trimChars (cs : List Char) : trimChars (trimChars cs) = trimChars cs := by
  rw [trimChars_eq (trimChars cs), dropWhile_trimChars, trimChars_eq]
  exact List.rdropWhile_idempotent isBlank _

@[simp]
theorem trim_trim (s : String) : trim (trim s) = trim s := by
  simp [trim]

end Text

/-- Normalizing a path twice is normalizing it once. -/
@[simp]
theorem normalizeScope_normalizeScope (scope : Option String) :
    normalizeScope (normalizeScope scope) = normalizeScope scope := by
  cases scope with
  | none => rfl
  | some s =>
    by_cases h : Text.trim s = "" <;> simp [normalizeScope, h]

namespace TypeKey

@[simp]
theorem normalized_of (name : String) (scope : Option String) :
    (of name scope).normalized = of name scope := by
  simp [normalized, of]

@[simp]
theorem normalized_normalized (k : TypeKey) : k.normalized.normalized = k.normalized :=
  normalized_of k.name k.scope

end TypeKey

@[simp]
theorem Site.normalized_key (s : Site) : s.key.normalized = s.key :=
  TypeKey.normalized_of s.name s.scope

end BannerGen
