import BannerGen.FontAttribute.Literal

/-!
# Numerals

What a number denotes that is written as a literal. A whole number has a base, which its first two
characters may give, and a suffix, which is a name. A number with a point or an exponent is not
whole; an exponent has at least one digit.
-/

namespace BannerGen.FontAttribute

/-- A number as it is written. -/
inductive Numeral where
  /-- A whole number with the name directly after it. -/
  | whole (value : Nat) (suffix : String)
  /-- A number with a point or an exponent. -/
  | fractional
deriving DecidableEq, Repr

namespace Numeral

/-- Whether a row of characters after the mark of an exponent makes it one. -/
def isExponent : List Char → Bool
  | '_' :: cs => isExponent cs
  | '+' :: _ | '-' :: _ => true
  | c :: _ => c.isDigit
  | [] => false

/-- Whether a row of characters after decimal digits makes the number a fractional one. -/
def isFraction : List Char → Bool
  | '.' :: _ => true
  | 'e' :: cs | 'E' :: cs => isExponent cs
  | _ => false

/-- The whole number that digits in the given base denote, with what comes after them. A decimal
digit that is not one in this base is refused. -/
def wholeIn? (base : Nat) (cs : List Char) : Option Numeral :=
  let isPart (c : Char) : Bool := c = '_' || c.isDigit || Text.isDigitIn base c
  let digits := (cs.takeWhile isPart).filter (· ≠ '_')
  if digits ≠ [] ∧ digits.all (Text.isDigitIn base) then
    some (.whole (Text.ofDigits base digits) (String.ofList (cs.dropWhile isPart)))
  else none

/-- The number that a literal denotes, if it is one. -/
def ofChars? : List Char → Option Numeral
  | '0' :: 'x' :: cs => wholeIn? 16 cs
  | '0' :: 'o' :: cs => wholeIn? 8 cs
  | '0' :: 'b' :: cs => wholeIn? 2 cs
  | [] => none
  | c :: cs =>
    if c.isDigit then
      if isFraction ((c :: cs).dropWhile fun c => c.isDigit || c = '_') then some .fractional
      else wholeIn? 10 (c :: cs)
    else none

/-- The number that a literal with the given spelling denotes, if it is one. -/
def ofSpelling? (spelling : String) : Option Numeral := ofChars? spelling.toList

end Numeral

end BannerGen.FontAttribute
