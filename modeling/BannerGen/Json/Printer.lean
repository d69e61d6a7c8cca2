import BannerGen.Json.Value

/-!
# Writing JSON

`Value.pretty` writes a value over several lines: two spaces of indentation per level, one item or
member per line, a colon and a space after a key, `[]` and `{}` for empty containers, and no line
feed at the end. In strings the quote, the backslash and the control characters are escaped and
everything else stands for itself.

The classes `Value.number` and `Value.string none` stand for many spellings; one of each is
written.
-/

namespace BannerGen.Json

/-- The hexadecimal digit of a number below 16. -/
def hexDigit (d : Nat) : Char :=
  if d < 10 then Char.ofNat ('0'.toNat + d) else Char.ofNat ('a'.toNat + (d - 10))

/-- The spelling of a character inside a string literal. -/
def escapeChar (c : Char) : List Char :=
  if c = '"' then ['\\', '"']
  else if c = '\\' then ['\\', '\\']
  else if c = '\x08' then ['\\', 'b']
  else if c = '\x0c' then ['\\', 'f']
  else if c = '\n' then ['\\', 'n']
  else if c = '\r' then ['\\', 'r']
  else if c = '\t' then ['\\', 't']
  else if c.toNat < 0x20 then
    ['\\', 'u', '0', '0', hexDigit (c.toNat / 16), hexDigit (c.toNat % 16)]
  else [c]

/-- The literal of a string; a lone surrogate stands for every string without text. -/
def quote : Option String → List Char
  | some s => '"' :: s.toList.flatMap escapeChar ++ ['"']
  | none => "\"\\ud800\"".toList

/-- A line feed and the indentation of the given level. -/
def newline (level : Nat) : List Char :=
  '\n' :: List.replicate (2 * level) ' '

namespace Value

mutual

/-- The characters of a value that starts on a line of the given level. -/
def layout (level : Nat) : Value → List Char
  | .null => "null".toList
  | .bool true => "true".toList
  | .bool false => "false".toList
  | .natural n => Nat.toDigits 10 n
  | .number => "-0".toList
  | .string s => quote s
  | .array [] => "[]".toList
  | .array (v :: vs) =>
    '[' :: newline (level + 1) ++ layout (level + 1) v ++ layoutItems (level + 1) vs
      ++ newline level ++ [']']
  | .object [] => "\x7b\x7d".toList
  | .object ((k, v) :: ms) =>
    '\x7b' :: newline (level + 1) ++ quote k ++ ": ".toList ++ layout (level + 1) v
      ++ layoutMembers (level + 1) ms ++ newline level ++ ['\x7d']

/-- The further items of an array, each after a comma. -/
def layoutItems (level : Nat) : List Value → List Char
  | [] => []
  | v :: vs => ',' :: newline level ++ layout level v ++ layoutItems level vs

/-- The further members of an object, each after a comma. -/
def layoutMembers (level : Nat) : List (Option String × Value) → List Char
  | [] => []
  | (k, v) :: ms =>
    ',' :: newline level ++ quote k ++ ": ".toList ++ layout level v ++ layoutMembers level ms

end

/-- The text of a value over several lines. -/
def pretty (v : Value) : String := String.ofList (layout 0 v)

end Value

end BannerGen.Json
