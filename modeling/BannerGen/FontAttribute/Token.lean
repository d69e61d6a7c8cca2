import BannerGen.FontAttribute.Literal
import BannerGen.Text.Blank

/-!
# Tokens

The source of a function and the arguments of an attribute are read as tokens. Delimiters come in
pairs, and what stands between two of them is one token with it. Comments are passed over, except
that comments which document something stand for an attribute with their text. A byte order mark in
front of the text is passed over too.

What a macro puts in place of one of its variables comes between invisible delimiters. No text has
them, and the tokens between them are found as if the delimiters were not there.
-/

namespace BannerGen.FontAttribute

open Text (Reader)
open Text.Reader

/-- The kinds of delimiters. -/
inductive Delimiter where
  /-- Parentheses. -/
  | paren
  /-- Square brackets. -/
  | bracket
  /-- Braces. -/
  | brace
deriving DecidableEq, Repr

/-- A token. -/
inductive Token where
  /-- A name. A raw one is not taken for a keyword. -/
  | name (isRaw : Bool) (s : String)
  /-- A literal that denotes a text. -/
  | text (s : String)
  /-- Any other literal, as it is written. -/
  | literal (spelling : String)
  /-- A punctuation mark, and whether another one follows it directly. -/
  | mark (c : Char) (isJoint : Bool)
  /-- The tokens between two delimiters. -/
  | group (d : Delimiter) (inner : List Token)
  /-- The tokens between two invisible delimiters. -/
  | invisible (inner : List Token)
deriving BEq, Repr, Inhabited

namespace Token

/-- A keyword, or any other name that is not raw. -/
def word (s : String) : Token := .name false s

mutual

/-- The tokens of a row without the invisible delimiters, at any depth. -/
def visible : List Token → List Token
  | [] => []
  | t :: ts => visibleIn t ++ visible ts

/-- A token without invisible delimiters. -/
def visibleIn : Token → List Token
  | .invisible inner => visible inner
  | .group d inner => [.group d (visible inner)]
  | t => [t]

end

mutual

/-- The first token that is not an invisible delimiter, and what comes after it. -/
def next? : List Token → Option (Token × List Token)
  | [] => none
  | t :: ts =>
    match nextIn? t with
    | some (first, rest) => some (first, rest ++ ts)
    | none => next? ts

/-- The first token that a token consists of, and what comes after it between invisible
delimiters. -/
def nextIn? : Token → Option (Token × List Token)
  | .invisible inner => next? inner
  | t => some (t, [])

end

end Token

/-- The words that are names only if they are raw. -/
def keywords : List String :=
  ["_", "abstract", "as", "async", "await", "become", "box", "break", "const", "continue", "crate",
   "do", "dyn", "else", "enum", "extern", "false", "final", "fn", "for", "if", "impl", "in", "let",
   "loop", "macro", "match", "mod", "move", "mut", "override", "priv", "pub", "ref", "return",
   "Self", "self", "static", "struct", "super", "trait", "true", "try", "type", "typeof", "unsafe",
   "unsized", "use", "virtual", "where", "while", "yield"]

/-- What is read from a text in one step. -/
inductive Lexeme where
  /-- Tokens without delimiters. -/
  | tokens (ts : List Token)
  /-- An opening delimiter. -/
  | opening (d : Delimiter)
  /-- A closing delimiter. -/
  | closing (d : Delimiter)
deriving Inhabited

namespace Lexeme

/-- The rest of a block comment with `depth` more comments around it, up to its end. -/
def blockEnd : (depth : Nat) → List Char → Option (List Char × List Char)
  | _, [] => none
  | depth, '/' :: '*' :: cs =>
    (blockEnd (depth + 1) cs).map fun (inner, rest) => ('/' :: '*' :: inner, rest)
  | 0, '*' :: '/' :: cs => some ([], cs)
  | depth + 1, '*' :: '/' :: cs =>
    (blockEnd depth cs).map fun (inner, rest) => ('*' :: '/' :: inner, rest)
  | depth, c :: cs => (blockEnd depth cs).map fun (inner, rest) => (c :: inner, rest)

/-- Takes a block comment that starts with the given mark, and gives what follows the mark. -/
def block (start : String) : Reader (List Char) := do
  Reader.word start
  fun cs => blockEnd 0 cs

/-- Takes a comment up to the end of the line that starts with the given mark, and gives what
follows the mark. -/
def line (start : String) : Reader (List Char) := do
  Reader.word start
  let chars ← Reader.takeWhile (· ≠ '\n')
  let lineEnd ← optional (Reader.ahead (Reader.word "\n"))
  return if lineEnd.isSome && chars.getLast? = some '\r' then chars.dropLast else chars

/-- Takes a comment that documents nothing. -/
def comment : Reader Unit :=
  discard (line "////") <|> Reader.word "/**/"
    <|> (do Reader.ahead (Reader.word "/***"); discard (block "/*"))
    <|> do
      Reader.notAhead (Reader.word "///" <|> Reader.word "//!" <|> Reader.word "/**"
        <|> Reader.word "/*!")
      discard (line "//") <|> discard (block "/*")

/-- Whether a character may stand between tokens. -/
def isBlank (c : Char) : Bool := Text.isBlank c || c = '\u200E' || c = '\u200F'

/-- Takes blanks and comments. -/
def blanks : Reader Unit := do
  let _ ← Reader.repeated (discard (Reader.takeWhile1 isBlank) <|> comment)

/-- Whether every carriage return is followed by a line feed. -/
def hasLineEnds : List Char → Bool
  | [] => true
  | '\r' :: cs => cs.head? = some '\n' && hasLineEnds cs
  | _ :: cs => hasLineEnds cs

/-- The tokens that a documenting comment stands for. An *inner* one documents what it is in. -/
def documentation (isInner : Bool) (chars : List Char) : List Token :=
  .mark '#' false :: (if isInner then [.mark '!' false] else [])
    ++ [.group .bracket [.word "doc", .mark '=' false, .text (String.ofList chars)]]

/-- Takes a comment that documents something. -/
def documenting : Reader (List Token) := do
  let (isInner, chars) ← (fun chars => (true, chars)) <$> (line "//!" <|> block "/*!")
    <|> (fun chars => (false, chars)) <$> (line "///" <|> block "/**")
  Reader.ofOption (if hasLineEnds chars then some (documentation isInner chars) else none)

/-- The characters of punctuation marks. -/
def markChars : List Char := "~!@#$%^&*-=+|;:,<.>/?'".toList

/-- Takes the character of a punctuation mark. A slash that starts a comment is none. -/
def markChar : Reader Char := do
  Reader.notAhead (Reader.word "//" <|> Reader.word "/*")
  Reader.one markChars.contains

/-- Takes a name. A leading `r#` makes it raw, which some names cannot be. -/
def anyName : Reader Token :=
  (do
    Reader.word "r#"
    let s := String.ofList (← nameChars)
    Reader.ofOption (if s ∈ ["_", "super", "self", "Self", "crate"] then none
      else some (.name true s)))
  <|> do
    Reader.notAhead (Reader.word "r#")
    return .word (String.ofList (← nameChars))

/-- Takes an apostrophe in front of a name that is not the content of a character literal. -/
def lifetimeMark : Reader Token := do
  Reader.word "'"
  Reader.ahead do
    let isRaw ← optional (Reader.ahead (Reader.word "r#"))
    let _ ← anyName
    Reader.notAhead (Reader.word "'")
    if isRaw.isNone then Reader.notAhead (Reader.word "#")
  return .mark '\'' true

/-- Takes a punctuation mark other than the one of a lifetime. -/
def plainMark : Reader Token := do
  let c ← markChar
  let joint ← optional (Reader.ahead markChar)
  Reader.ofOption (if c = '\'' then none else some (.mark c joint.isSome))

/-- What a quoted literal starts with. A name cannot start like this. -/
def quotedStarts : List String :=
  ["r\"", "r#\"", "r##", "b\"", "b'", "br\"", "br#", "c\"", "cr\"", "cr#"]

/-- Takes a name that does not start like a quoted literal. -/
def plainName : Reader Token := fun cs =>
  if quotedStarts.any fun s => s.toList.isPrefixOf cs then none else anyName cs

/-- Takes a literal that is not a text, and keeps its spelling. -/
def spelled : Reader Token := fun cs =>
  (otherLiteral cs).map fun (_, rest) =>
    (.literal (String.ofList (cs.take (cs.length - rest.length))), rest)

/-- Takes a token without delimiters. -/
def leaf : Reader Token :=
  (fun chars => Token.text (String.ofList chars)) <$> QuotedKind.text.literal
    <|> spelled <|> lifetimeMark <|> plainMark <|> plainName

/-- What stands for tokens that could not be read. -/
def errorMark : String := "(/*ERROR*/)"

/-- Takes the mark of an error. It is one token, and not a pair of delimiters. -/
def error : Reader Token := do
  Reader.word errorMark
  return .literal errorMark

/-- Takes a delimiter. -/
def delimiter : Reader Lexeme := do
  match ← Reader.next with
  | '(' => return .opening .paren
  | ')' => return .closing .paren
  | '[' => return .opening .bracket
  | ']' => return .closing .bracket
  | '\x7b' => return .opening .brace
  | '\x7d' => return .closing .brace
  | _ => failure

/-- Takes blanks and what comes after them. -/
def lexeme : Reader Lexeme := do
  blanks
  Lexeme.tokens <$> documenting <|> (fun t => Lexeme.tokens [t]) <$> error <|> delimiter
    <|> (fun t => Lexeme.tokens [t]) <$> leaf

/-- What a text consists of. -/
def read? (s : String) : Option (List Lexeme) :=
  Reader.readAll? (do
    let _ ← optional (Reader.word "\uFEFF")
    let l ← Reader.repeated lexeme
    blanks
    return l) s.toList

end Lexeme

/-- The tokens read so far: those since the last opening delimiter that is not closed, and for each
such delimiter those before it. -/
structure Nesting where
  /-- The tokens since the last opening delimiter. -/
  current : List Token := []
  /-- The delimiters that are not closed, the last one first, with the tokens before each. -/
  pending : List (Delimiter × List Token) := []
deriving Inhabited

namespace Nesting

/-- Adds what was read in one step. A closing delimiter must match the last opening one. -/
def add (n : Nesting) : Lexeme → Option Nesting
  | .tokens ts => some { n with current := n.current ++ ts }
  | .opening d => some { current := [], pending := (d, n.current) :: n.pending }
  | .closing d =>
    match n.pending with
    | (e, before) :: pending =>
      if d = e then some { current := before ++ [.group d n.current], pending } else none
    | [] => none

/-- All tokens, provided that every delimiter is closed. -/
def finish? (n : Nesting) : Option (List Token) :=
  match n.pending with
  | [] => some n.current
  | _ :: _ => none

end Nesting

/-- The tokens of a text. -/
def tokens? (s : String) : Option (List Token) := do
  let n ← (← Lexeme.read? s).foldlM Nesting.add {}
  n.finish?

end BannerGen.FontAttribute
