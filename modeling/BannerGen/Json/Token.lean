import BannerGen.Json.Value
import BannerGen.Text.Digits

/-!
# JSON tokens

`Token.scan` cuts a text into tokens. It is a left fold of a step function over the characters, so
that scanning a concatenation is scanning one part after the other. A numeral has no closing mark:
it ends where a character follows that cannot extend it, and that character is then read afresh.

White space is the space, the tab, the line feed and the carriage return. A string literal may
hold every character but control characters below U+0020, and the escapes
`\" \\ \/ \b \f \n \r \t \uXXXX`. Two consecutive `\u` escapes that form a surrogate pair denote
one character; a surrogate without its partner leaves the literal without text.
-/

namespace BannerGen.Json

/-- A token of a JSON text. -/
inductive Token where
  /-- An opening square bracket. -/
  | openArray
  /-- A closing square bracket. -/
  | closeArray
  /-- An opening brace. -/
  | openObject
  /-- A closing brace. -/
  | closeObject
  /-- A comma. -/
  | comma
  /-- A colon. -/
  | colon
  /-- A keyword, a numeral or a string. -/
  | scalar (v : Value)
deriving Inhabited, Repr

namespace Token

/-- How much of a numeral has been read. -/
inductive Numeral where
  /-- A leading minus sign. -/
  | minus
  /-- The integer part `0`. -/
  | zero (negative : Bool)
  /-- An integer part with the given value. -/
  | digits (negative : Bool) (n : Nat)
  /-- A decimal point without a digit after it. -/
  | point
  /-- At least one digit of the fraction. -/
  | fraction
  /-- The mark `e` or `E`. -/
  | scale
  /-- The sign of the exponent. -/
  | scaleSign
  /-- At least one digit of the exponent. -/
  | scaleDigits
deriving Repr, DecidableEq

/-- Extends a numeral by one character, if the character can extend it. -/
def Numeral.push : Numeral → Char → Option Numeral
  | .minus, c =>
    if c = '0' then some (.zero true)
    else if c.isDigit then some (.digits true (c.toNat - '0'.toNat))
    else none
  | .zero _, c =>
    if c = '.' then some .point
    else if c = 'e' ∨ c = 'E' then some .scale
    else none
  | .digits negative n, c =>
    if c.isDigit then some (.digits negative (10 * n + (c.toNat - '0'.toNat)))
    else if c = '.' then some .point
    else if c = 'e' ∨ c = 'E' then some .scale
    else none
  | .point, c => if c.isDigit then some .fraction else none
  | .fraction, c =>
    if c.isDigit then some .fraction
    else if c = 'e' ∨ c = 'E' then some .scale
    else none
  | .scale, c =>
    if c = '+' ∨ c = '-' then some .scaleSign
    else if c.isDigit then some .scaleDigits
    else none
  | .scaleSign, c => if c.isDigit then some .scaleDigits else none
  | .scaleDigits, c => if c.isDigit then some .scaleDigits else none

/-- The value of a complete numeral; `none` if it cannot end here. -/
def Numeral.value? : Numeral → Option Value
  | .zero false => some (.natural 0)
  | .digits false n => some (.natural n)
  | .zero true | .digits true _ | .fraction | .scaleDigits => some .number
  | .minus | .point | .scale | .scaleSign => none

/-- The text of a string literal read so far. -/
structure Literal where
  /-- The characters in reverse order; `none` once a surrogate was left unpaired. -/
  chars : Option (List Char) := some []
  /-- A leading surrogate that waits for its partner. -/
  high : Option Nat := none
deriving Repr, DecidableEq

namespace Literal

/-- Appends a character. A surrogate that was waiting stays unpaired. -/
def push (t : Literal) (c : Char) : Literal :=
  { chars := if t.high.isSome then none else t.chars.map (c :: ·) }

/-- Whether the number is a leading surrogate. -/
def IsHigh (u : Nat) : Prop := 0xD800 ≤ u ∧ u < 0xDC00

/-- Whether the number is a trailing surrogate. -/
def IsLow (u : Nat) : Prop := 0xDC00 ≤ u ∧ u < 0xE000

instance (u : Nat) : Decidable (IsHigh u) := inferInstanceAs (Decidable (_ ∧ _))

instance (u : Nat) : Decidable (IsLow u) := inferInstanceAs (Decidable (_ ∧ _))

/-- Appends the character of a `\u` escape, pairing surrogates. -/
def pushUnit (t : Literal) (u : Nat) : Literal :=
  match t.high with
  | some h =>
    if IsLow u then
      { chars := t.chars.map (Char.ofNat (0x10000 + (h - 0xD800) * 0x400 + (u - 0xDC00)) :: ·) }
    else { chars := none }
  | none =>
    if IsHigh u then { chars := t.chars, high := some u }
    else if IsLow u then { chars := none }
    else t.push (Char.ofNat u)

/-- The text of the literal at its closing quote. -/
def text? (t : Literal) : Option String :=
  if t.high.isSome then none else t.chars.map fun cs => String.ofList cs.reverse

end Literal

/-- What the scanner is in the middle of. -/
inductive Mode where
  /-- Between two tokens. -/
  | between
  /-- Inside a keyword, before the characters `rest`. -/
  | keyword (rest : List Char) (v : Value)
  /-- Inside a numeral. -/
  | numeral (n : Numeral)
  /-- Inside a string. -/
  | literal (t : Literal)
  /-- After a backslash in a string. -/
  | escape (t : Literal)
  /-- Inside a `\u` escape, with `missing` digits to come after the value `u`. -/
  | unit (t : Literal) (missing : Nat) (u : Nat)
deriving Repr

/-- The state of the scanner: its mode and the tokens found so far, the last one first. -/
structure Scan where
  /-- What the scanner is in the middle of. -/
  mode : Mode := .between
  /-- The tokens found, in reverse order. -/
  found : List Token := []
deriving Repr

/-- The character that a one-letter escape stands for. -/
def escape? : Char → Option Char
  | '"' => some '"'
  | '\\' => some '\\'
  | '/' => some '/'
  | 'b' => some '\x08'
  | 'f' => some '\x0c'
  | 'n' => some '\n'
  | 'r' => some '\r'
  | 't' => some '\t'
  | _ => none

/-- Whether the character may stand between tokens. -/
def isBlank (c : Char) : Bool :=
  c = ' ' || c = '\t' || c = '\n' || c = '\r'

namespace Scan

/-- Records a complete token. -/
def emit (s : Scan) (t : Token) : Scan :=
  { mode := .between, found := t :: s.found }

/-- Reads a character that starts a token or separates two. -/
def start (s : Scan) (c : Char) : Option Scan :=
  if isBlank c then some { s with mode := .between }
  else match c with
    | '[' => some (s.emit .openArray)
    | ']' => some (s.emit .closeArray)
    | '\x7b' => some (s.emit .openObject)
    | '\x7d' => some (s.emit .closeObject)
    | ',' => some (s.emit .comma)
    | ':' => some (s.emit .colon)
    | '"' => some { s with mode := .literal {} }
    | 't' => some { s with mode := .keyword ['r', 'u', 'e'] (.bool true) }
    | 'f' => some { s with mode := .keyword ['a', 'l', 's', 'e'] (.bool false) }
    | 'n' => some { s with mode := .keyword ['u', 'l', 'l'] .null }
    | '-' => some { s with mode := .numeral .minus }
    | '0' => some { s with mode := .numeral (.zero false) }
    | c =>
      if c.isDigit then some { s with mode := .numeral (.digits false (c.toNat - '0'.toNat)) }
      else none

/-- Reads one character; `none` if it cannot stand here. -/
def step (s : Scan) (c : Char) : Option Scan :=
  match s.mode with
  | .between => s.start c
  | .keyword [] v => (s.emit (.scalar v)).start c
  | .keyword [d] v => if c = d then some (s.emit (.scalar v)) else none
  | .keyword (d :: rest) v => if c = d then some { s with mode := .keyword rest v } else none
  | .numeral n =>
    match n.push c with
    | some n => some { s with mode := .numeral n }
    -- The numeral ends before `c`, which is then the start of something else.
    | none => n.value?.bind fun v => (s.emit (.scalar v)).start c
  | .literal t =>
    if c = '"' then some (s.emit (.scalar (.string t.text?)))
    else if c = '\\' then some { s with mode := .escape t }
    else if c.toNat < 0x20 then none
    else some { s with mode := .literal (t.push c) }
  | .escape t =>
    if c = 'u' then some { s with mode := .unit t 4 0 }
    else (escape? c).map fun d => { s with mode := .literal (t.push d) }
  | .unit t missing u =>
    (Text.hexDigit? c).map fun d =>
      if missing ≤ 1 then { s with mode := .literal (t.pushUnit (16 * u + d)) }
      else { s with mode := .unit t (missing - 1) (16 * u + d) }

/-- The tokens found, provided that the text may end here. -/
def finish (s : Scan) : Option (List Token) :=
  match s.mode with
  | .between => some s.found.reverse
  | .numeral n => n.value?.map fun v => (Token.scalar v :: s.found).reverse
  | _ => none

/-- Reads a run of characters. -/
def run (s : Scan) (cs : List Char) : Option Scan := cs.foldlM step s

/-- Reading a concatenation is reading its parts in turn. -/
theorem run_append (s : Scan) (cs ds : List Char) :
    s.run (cs ++ ds) = (s.run cs).bind fun t => t.run ds := by
  simp only [run, List.foldlM_append]
  rfl

end Scan

/-- The tokens of a text, or `none` if it is not made of tokens. -/
def scan (cs : List Char) : Option (List Token) :=
  (Scan.run {} cs).bind Scan.finish

end Token

end BannerGen.Json
