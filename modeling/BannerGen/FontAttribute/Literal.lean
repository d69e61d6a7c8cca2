import BannerGen.FontAttribute.Alphabet
import BannerGen.Text.Digits
import BannerGen.Text.Reader

/-!
# Literals

The literals of the language that functions are written in: quoted ones, single characters and
numbers. A quoted literal is a text, a row of bytes or a text that ends with a zero, and may be
*raw*, which means that it has no escapes and ends at a quote that is followed by as many hashes as
it starts with. Only the texts denote something here; of the other literals it matters where they
end. A name may be written directly after any literal.
-/

namespace BannerGen.FontAttribute

open Text (Reader)
open Text.Reader

/-- Takes a name. -/
def nameChars : Reader (List Char) := do
  let first ← one isNameStart
  let others ← takeWhile isNamePart
  return first :: others

/-- Takes the name directly after a literal, if there is one. -/
def suffix : Reader Unit := do
  let _ ← optional nameChars

/-- The kinds of quoted literals. -/
inductive QuotedKind where
  /-- A text. -/
  | text
  /-- A row of bytes, written in ASCII. -/
  | bytes
  /-- A text that ends with a zero and holds no other. -/
  | zeroEnded
deriving DecidableEq, Repr

namespace QuotedKind

/-- What stands before the quote. -/
def mark : QuotedKind → String
  | .text => ""
  | .bytes => "b"
  | .zeroEnded => "c"

/-- Whether a character may stand for itself. -/
def allows : QuotedKind → Char → Bool
  | .text, _ => true
  | .bytes, c => c.toNat < 0x80
  | .zeroEnded, c => c ≠ '\x00'

/-- Whether a number of two hexadecimal digits may be given by an escape. -/
def allowsCode : QuotedKind → Nat → Bool
  | .text, n => n < 0x80
  | .bytes, _ => true
  | .zeroEnded, n => n ≠ 0

/-- Whether a character may be given by the escape with its number. -/
def allowsScalar : QuotedKind → Char → Bool
  | .text, _ => true
  | .bytes, _ => false
  | .zeroEnded, c => c ≠ '\x00'

/-- Takes up to six hexadecimal digits in braces, with underscores after the first one. -/
def bracedDigits : Reader (List Char) := do
  word "\x7b"
  ahead (one (Text.isDigitIn 16))
  let ds ← takeWhile fun c => Text.isDigitIn 16 c || c = '_'
  word "\x7d"
  let ds := ds.filter (· ≠ '_')
  ofOption (if ds.length ≤ 6 then some ds else none)

/-- Takes an escape and gives the character that it stands for. -/
def escaped (k : QuotedKind) : Reader Char := do
  word "\\"
  match ← next with
  | 'x' => do
    let n := Text.ofDigits 16 (← exactly 2 (Text.isDigitIn 16))
    ofOption (if k.allowsCode n then Text.scalar? n else none)
  | 'u' => do
    let c ← ofOption (Text.scalar? (Text.ofDigits 16 (← bracedDigits)))
    ofOption (if k.allowsScalar c then some c else none)
  | '0' => ofOption (if k.allowsCode 0 then some '\x00' else none)
  | 'n' => return '\n'
  | 'r' => return '\r'
  | 't' => return '\t'
  | '\\' => return '\\'
  | '\'' => return '\''
  | '"' => return '"'
  | _ => failure

/-- Takes a backslash at the end of a line, and the blanks and line ends up to the next character
that is neither. -/
def continued : Reader Unit := do
  word "\\"
  word "\n" <|> word "\r\n"
  let _ ← repeated (word " " <|> word "\t" <|> word "\n" <|> word "\r\n")

/-- Takes a part of a literal with escapes. A line end denotes a line feed. -/
def part (k : QuotedKind) : Reader (List Char) :=
  takeWhile1 (fun c => k.allows c && c ≠ '"' && c ≠ '\\' && c ≠ '\r')
    <|> (do word "\r\n"; return ['\n'])
    <|> (do continued; return [])
    <|> do return [← k.escaped]

/-- Takes a literal with escapes. -/
def cooked (k : QuotedKind) : Reader (List Char) := do
  word (k.mark ++ "\"")
  let parts ← repeated k.part
  word "\""
  suffix
  return parts.flatten

/-- The characters before the first occurrence of `close`, and what comes after it. Each of them
must be allowed, and a carriage return must be followed by a line feed. -/
def upTo (k : QuotedKind) (close : List Char) : List Char → Option (List Char × List Char)
  | [] => none
  | c :: cs =>
    if close.isPrefixOf (c :: cs) then some ([], (c :: cs).drop close.length)
    else if k.allows c && (c ≠ '\r' || cs.head? = some '\n') then
      (upTo k close cs).map fun (before, rest) => (c :: before, rest)
    else none

/-- The number of hashes that a raw literal has at most. -/
def hashLimit : Nat := 255

/-- Takes a raw literal. -/
def raw (k : QuotedKind) : Reader (List Char) := do
  word (k.mark ++ "r")
  let hashes ← takeWhile (· = '#')
  word "\""
  ofOption (if hashes.length ≤ hashLimit then some () else none)
  let chars ← fun cs => upTo k ('"' :: hashes) cs
  suffix
  return chars

/-- Takes a quoted literal. -/
def literal (k : QuotedKind) : Reader (List Char) := k.cooked <|> k.raw

end QuotedKind

/-- Takes a single character between apostrophes. -/
def character (k : QuotedKind) : Reader Unit := do
  word (k.mark ++ "'")
  let _ ← k.escaped <|> one fun c => k.allows c && c ≠ '\\'
  word "'"
  suffix

/-- Refuses a text that starts with a character of a name. -/
def wordBreak : Reader Unit := notAhead (one isNamePart)

/-- Takes a number with a point or an exponent. The point of `1..2` and that of `1.max` are not
part of the number. -/
def fractional : Reader Unit := do
  ahead (one Char.isDigit)
  let isDigitOrMark (c : Char) : Bool := c.isDigit || c = '_'
  let _ ← takeWhile isDigitOrMark
  let point ← optional do
    word "."
    notAhead (one fun c => c = '.' || isNameStart c)
    takeWhile isDigitOrMark
  let exponent ← optional do
    word "e" <|> word "E"
    let _ ← takeWhile (· = '_')
    let _ ← optional (word "+" <|> word "-")
    let _ ← takeWhile (· = '_')
    ahead (one Char.isDigit)
    takeWhile isDigitOrMark
  ofOption (if point.isNone && exponent.isNone then none else some ())
  suffix
  wordBreak

/-- Takes the digits of a number in the given base. A decimal digit that is not one in this base is
refused. -/
def wholeDigits (base : Nat) : Reader Unit := do
  let ds ← takeWhile fun c => c.isDigit || c = '_' || Text.isDigitIn base c
  let proper := ds.filter (· ≠ '_')
  ofOption (if proper ≠ [] ∧ proper.all (Text.isDigitIn base) then some () else none)

/-- Takes a whole number. -/
def whole : Reader Unit := do
  ahead (one Char.isDigit)
  let base ← (do word "0x"; return 16) <|> (do word "0o"; return 8) <|> (do word "0b"; return 2)
    <|> return 10
  wholeDigits base
  suffix
  wordBreak

/-- Takes a literal that is not a text. -/
def otherLiteral : Reader Unit :=
  discard (QuotedKind.bytes.literal) <|> discard (QuotedKind.zeroEnded.literal)
    <|> character .bytes <|> character .text <|> fractional <|> whole

end BannerGen.FontAttribute
