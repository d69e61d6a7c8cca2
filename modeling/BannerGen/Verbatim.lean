/-!
# Verbatim literals

A verbatim string literal is written `@"…"`. Between its quotes every character stands for itself,
line breaks included, except that a quote is written twice.
-/

namespace BannerGen.Verbatim

/-- The characters of a text between the quotes of a literal. -/
def escapeChars : List Char → List Char
  | [] => []
  | c :: cs => if c = '"' then '"' :: '"' :: escapeChars cs else c :: escapeChars cs

/-- The text between the quotes of a literal. -/
def escape (s : String) : String := String.ofList (escapeChars s.toList)

/-- Whether a text is written between the quotes as it is. -/
def isPlain (s : String) : Bool := !s.toList.contains '"'

/-- The literal of a text. -/
def literal (s : String) : String := "@\"" ++ escape s ++ "\""

/-- Reads the characters after the opening quote of a literal: gives the text up to the first
quote that is not doubled, and what comes after that quote. -/
def read? : List Char → Option (List Char × List Char)
  | [] => none
  | '"' :: '"' :: cs => (read? cs).map fun (t, rest) => ('"' :: t, rest)
  | c :: cs => if c = '"' then some ([], cs) else (read? cs).map fun (t, rest) => (c :: t, rest)

end BannerGen.Verbatim
