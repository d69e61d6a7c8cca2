import BannerGen.Text.Digits
import BannerGen.Text.Reader

/-!
# Texts, blanks and comments in TOML

There are four forms of texts. A *basic* text stands between quotes and has escapes, a *literal*
text stands between apostrophes and has none; either may run over several lines if its marks are
tripled. Right after a tripled mark a line end is passed over, and a text that ends in up to two
of its marks may be followed by the tripled mark directly.

Control characters other than the tab cannot stand anywhere, except in line ends: a line feed, with
or without a carriage return before it.
-/

namespace BannerGen.Toml

open Text (Reader)
open Text.Reader

/-- Whether a character may stand in a comment. -/
def isPrintable (c : Char) : Bool := c = '\t' || (0x20 ≤ c.toNat && c.toNat ≠ 0x7F)

/-- Whether a character is blank within a line. -/
def isSpace (c : Char) : Bool := c = ' ' || c = '\t'

/-- Takes blanks within a line. -/
def spaces : Reader Unit := do
  let _ ← takeWhile isSpace

/-- Takes a line end. -/
def newline : Reader Unit := word "\n" <|> word "\r\n"

/-- Takes a comment, without the end of the line. -/
def comment : Reader Unit := do
  word "#"
  let _ ← takeWhile isPrintable

/-- Takes what may follow at the end of a line, and the end of the line or of the text. -/
def lineEnd : Reader Unit := do
  spaces
  let _ ← optional comment
  newline <|> atEnd

/-- Takes blanks, line ends and comments. -/
def blanks : Reader Unit := do
  let _ ← repeated (discard (takeWhile1 isSpace) <|> newline <|> do comment; newline)

/-- The character that a one-letter escape stands for. -/
def escape? : Char → Option Char
  | '"' => some '"'
  | '\\' => some '\\'
  | 'b' => some '\x08'
  | 'f' => some '\x0c'
  | 'n' => some '\n'
  | 'r' => some '\r'
  | 't' => some '\t'
  | _ => none

/-- Takes an escape and gives the character that it stands for. -/
def escaped : Reader Char := do
  word "\\"
  match ← next with
  | 'u' => ofOption (Text.scalar? (Text.ofDigits 16 (← exactly 4 (Text.isDigitIn 16))))
  | 'U' => ofOption (Text.scalar? (Text.ofDigits 16 (← exactly 8 (Text.isDigitIn 16))))
  | c => ofOption (escape? c)

/-- Takes a backslash at the end of a line, and the blanks and line ends up to the next character
that is neither. -/
def continued : Reader Unit := do
  word "\\"
  spaces
  newline
  let _ ← repeated (discard (takeWhile1 isSpace) <|> newline)

/-- Whether a character stands for itself in a basic text. -/
def isBasic (c : Char) : Bool := isPrintable c && c ≠ '"' && c ≠ '\\'

/-- Whether a character stands for itself in a literal text. -/
def isLiteral (c : Char) : Bool := isPrintable c && c ≠ '\''

/-- Takes a basic text on one line. -/
def basicText : Reader (List Char) := do
  word "\""
  let parts ← repeated (takeWhile1 isBasic <|> do return [← escaped])
  word "\""
  return parts.flatten

/-- Takes a literal text on one line. -/
def literalText : Reader (List Char) := do
  word "'"
  let chars ← takeWhile isLiteral
  word "'"
  return chars

/-- Takes a part of a basic text on several lines that is not a mark. -/
def basicPart : Reader (List Char) :=
  takeWhile1 isBasic <|> (do newline; return ['\n']) <|> (do continued; return [])
    <|> do return [← escaped]

/-- Takes a part of a literal text on several lines that is not a mark. -/
def literalPart : Reader (List Char) := takeWhile1 isLiteral <|> do newline; return ['\n']

/-- Takes one or two marks that do not end a text on several lines, because a part of it follows
them. -/
def innerMarks (mark : Char) (part : Reader (List Char)) : Reader (List Char) := do
  let marks ← takeWhile1 (· = mark)
  ahead part
  ofOption (if marks.length ≤ 2 then some marks else none)

/-- Takes a text on several lines, made of the given parts, between tripled marks. -/
def linesText (mark : Char) (part : Reader (List Char)) : Reader (List Char) := do
  let _ ← exactly 3 (· = mark)
  let _ ← optional newline
  let parts ← repeated (part <|> innerMarks mark part)
  let marks ← exactly 5 (· = mark) <|> exactly 4 (· = mark) <|> exactly 3 (· = mark)
  return parts.flatten ++ marks.drop 3

/-- Takes a text in any of its forms. -/
def anyText : Reader String :=
  String.ofList <$> (linesText '"' basicPart <|> basicText <|> linesText '\'' literalPart
    <|> literalText)

/-- Whether a character may stand in a key without quotes. -/
def isBare (c : Char) : Bool := c.isAlphanum || c = '_' || c = '-'

/-- Takes a key without dots. -/
def simpleKey : Reader String :=
  String.ofList <$> (basicText <|> literalText <|> takeWhile1 isBare)

/-- The number of parts that a key has at most. -/
def keyLimit : Nat := 79

/-- Takes a key, whose parts are separated by dots. -/
def key : Reader (List String) := do
  let parts ← separated (do spaces; let k ← simpleKey; spaces; return k) (word ".")
  ofOption (if parts.length ≤ keyLimit then some parts else none)

end BannerGen.Toml
