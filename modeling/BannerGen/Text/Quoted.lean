import BannerGen.Text.CodePoints
import BannerGen.Text.Quoted.Table

/-!
# Quoted texts

A text between quotes, in a form that shows every character of it: quotes, backslashes and the
usual control characters as a backslash and a letter, and other characters that do not show as
`\u` and their number in braces.
-/

namespace BannerGen.Text

namespace Quoted

/-- The spelling of a character in a quoted text. -/
def charOf (c : Char) : List Char :=
  if c = '"' then ['\\', '"']
  else if c = '\\' then ['\\', '\\']
  else if c = '\n' then ['\\', 'n']
  else if c = '\r' then ['\\', 'r']
  else if c = '\t' then ['\\', 't']
  else if c = '\x00' then ['\\', '0']
  else if inRanges hiddenRanges c then
    ['\\', 'u', '\x7b'] ++ Nat.toDigits 16 c.toNat ++ ['\x7d']
  else [c]

end Quoted

/-- A text between quotes, with every character shown. -/
def quoted (s : String) : String :=
  String.ofList ('"' :: s.toList.flatMap Quoted.charOf ++ ['"'])

end BannerGen.Text
