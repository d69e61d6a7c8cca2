import BannerGen.Text.CodePoints
import BannerGen.Text.LowerCase.Table

/-!
# Lower-casing

The full lower-casing of Unicode, which is independent of any language. A character has at most
one lower case, with two exceptions: a capital I with a dot above becomes a small i followed by a
combining dot above, and a capital sigma at the end of a word becomes a final sigma.
-/

namespace BannerGen.Text

namespace LowerCase

/-- The lower case of a character that does not depend on its context. -/
def charOf (c : Char) : Char :=
  let n := c.toNat
  match runs.find? fun r => r.1 ≤ n && n ≤ r.2.1 && (n - r.1) % r.2.2.1 = 0 with
  | some r => Char.ofNat (r.2.2.2 + (c.toNat - r.1))
  | none => c

/-- Whether a cased character follows after characters that are passed over. -/
def meetsCased (cs : List Char) : Bool :=
  match cs.dropWhile (inRanges ignorableRanges) with
  | c :: _ => inRanges casedRanges c
  | [] => false

/-- The lower case of a character between `before`, which is in reverse order, and `after`. -/
def inContext (before : List Char) (c : Char) (after : List Char) : List Char :=
  if c = 'Σ' then [if meetsCased before && !meetsCased after then 'ς' else 'σ']
  else if c = 'İ' then ['i', '\u0307']
  else [charOf c]

/-- The lower case of characters that come after `before`, which is in reverse order. -/
def go (before : List Char) : List Char → List Char
  | [] => []
  | c :: cs => inContext before c cs ++ go (c :: before) cs

end LowerCase

/-- The lower case of a text. -/
def lowerCase (s : String) : String := String.ofList (LowerCase.go [] s.toList)

end BannerGen.Text
