import BannerGen.Toml.Text

/-!
# Numbers in TOML

Between two digits there may be one underscore. An integer lies in the range of 64 bits with a
sign; in the bases two, eight and sixteen it has no sign. A fractional number is one of double
precision: it is refused if it is so large that it rounds to infinity. Its value is not kept.
-/

namespace BannerGen.Toml

open Text (Reader)
open Text.Reader

/-- Takes at least one digit with the property `p`, with single underscores between the digits. -/
def digits (p : Char → Bool) : Reader (List Char) :=
  List.flatten <$> separated (takeWhile1 p) (word "_")

/-- Takes an optional sign and tells whether it is a minus. -/
def sign : Reader Bool :=
  (do word "-"; return true) <|> (do word "+"; return false) <|> return false

/-- Takes a decimal number without a fraction: whether it is negative, and its digits. Only zero
itself starts with the digit zero. -/
def wholeDigits : Reader (Bool × List Char) := do
  let negative ← sign
  let ds ← (do word "0"; return ['0']) <|> do
    ahead (one (· ≠ '0'))
    digits Char.isDigit
  return (negative, ds)

/-- The number with the given sign and size, if it has 64 bits. -/
def inRange? (negative : Bool) (n : Nat) : Option Int :=
  if n < Nat.pow 2 63 then some (if negative then -n else n)
  else if negative ∧ n = Nat.pow 2 63 then some (-n)
  else none

/-- Takes an integer after the mark of its base. -/
def basedInteger (mark : String) (base : Nat) : Reader Int := do
  word mark
  ofOption (inRange? false (Text.ofDigits base (← digits (Text.isDigitIn base))))

/-- Takes an integer. -/
def integer : Reader Int :=
  basedInteger "0x" 16 <|> basedInteger "0o" 8 <|> basedInteger "0b" 2 <|> do
    let (negative, ds) ← wholeDigits
    ofOption (inRange? negative (Text.ofDigits 10 ds))

/-- The least number that rounds to infinity in double precision. -/
def overflowBound : Nat := Nat.pow 2 1024 - Nat.pow 2 970

/-- Whether `n` times ten to the power `scale` is at least `overflowBound`. The bound has 309
digits, and only a number with as many digits before its point is compared with it. -/
def overflows (n : Nat) (scale : Int) : Bool :=
  let places : Int := (Nat.toDigits 10 n).length + scale
  if n = 0 ∨ places < 309 then false
  else if 309 < places then true
  else decide (overflowBound * Nat.pow 10 (-scale).toNat ≤ n * Nat.pow 10 scale.toNat)

/-- Takes the exponent of a number. -/
def exponent : Reader Int := do
  word "e" <|> word "E"
  let negative ← sign
  let n := Text.ofDigits 10 (← digits Char.isDigit)
  return if negative then -n else n

/-- Takes the digits after the point of a number. -/
def fraction : Reader (List Char) := do
  word "."
  digits Char.isDigit

/-- Takes a number with a fraction, an exponent or both. -/
def finiteNumber : Reader Unit := do
  let (negative, whole) ← wholeDigits
  let (part, scale) ← (do return ([], ← exponent)) <|> do
    return (← fraction, (← optional exponent).getD 0)
  let large := overflows (Text.ofDigits 10 (whole ++ part)) (scale - part.length)
  ofOption (if !negative && large then none else some ())

/-- Takes a number of double precision. -/
def floating : Reader Unit :=
  finiteNumber <|> do
    let _ ← sign
    word "inf" <|> word "nan"

end BannerGen.Toml
