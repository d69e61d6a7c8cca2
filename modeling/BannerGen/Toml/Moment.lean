import BannerGen.Toml.Text

/-!
# Dates and times in TOML

A date, a time of day, or both, with or without the distance from universal time. Dates are those
of the Gregorian calendar, and a minute may have a leap second. The moment itself is not kept.
-/

namespace BannerGen.Toml

open Text (Reader)
open Text.Reader

/-- Whether a year has a leap day. -/
def isLeapYear (year : Nat) : Bool :=
  year % 4 = 0 && (year % 100 ≠ 0 || year % 400 = 0)

/-- The number of days in a month. -/
def daysIn (year month : Nat) : Nat :=
  if month = 2 then (if isLeapYear year then 29 else 28)
  else if month ∈ [4, 6, 9, 11] then 30
  else 31

/-- Takes a number of `n` digits that lies between `low` and `high`. -/
def numeral (n low high : Nat) : Reader Nat := do
  let value := Text.ofDigits 10 (← exactly n Char.isDigit)
  ofOption (if low ≤ value ∧ value ≤ high then some value else none)

/-- Takes a date. -/
def date : Reader Unit := do
  let year ← numeral 4 0 9999
  word "-"
  let month ← numeral 2 1 12
  word "-"
  let _ ← numeral 2 1 (daysIn year month)

/-- Takes hours and minutes. -/
def hourAndMinute : Reader Unit := do
  let _ ← numeral 2 0 23
  word ":"
  let _ ← numeral 2 0 59

/-- Takes a time of day. -/
def timeOfDay : Reader Unit := do
  hourAndMinute
  word ":"
  let _ ← numeral 2 0 60
  let _ ← optional do
    word "."
    takeWhile1 Char.isDigit

/-- Takes a distance from universal time. -/
def offset : Reader Unit :=
  word "Z" <|> word "z" <|> do
    word "+" <|> word "-"
    hourAndMinute

/-- Takes a date with or without a time, or a time alone. -/
def moment : Reader Unit :=
  (do
    date
    let _ ← optional do
      word "T" <|> word "t" <|> word " "
      timeOfDay
      optional offset) <|> timeOfDay

end BannerGen.Toml
