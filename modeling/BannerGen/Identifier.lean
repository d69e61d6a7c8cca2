import BannerGen.Identifier.Alphabet

/-!
# Identifiers

The names that a member may have. A leading `@` lets a reserved word stand as a name and is
otherwise of no consequence, so `@Foo` and `Foo` name the same member.
-/

namespace BannerGen.Identifier

/-- The words that are no names without a leading `@`. -/
def reservedWords : List String :=
  ["abstract", "as", "base", "bool", "break", "byte", "case", "catch", "char", "checked", "class",
   "const", "continue", "decimal", "default", "delegate", "do", "double", "else", "enum", "event",
   "explicit", "extern", "false", "finally", "fixed", "float", "for", "foreach", "goto", "if",
   "implicit", "in", "int", "interface", "internal", "is", "lock", "long", "namespace", "new",
   "null", "object", "operator", "out", "override", "params", "private", "protected", "public",
   "readonly", "ref", "return", "sbyte", "sealed", "short", "sizeof", "stackalloc", "static",
   "string", "struct", "switch", "this", "throw", "true", "try", "typeof", "uint", "ulong",
   "unchecked", "unsafe", "ushort", "using", "virtual", "void", "volatile", "while"]

/-- Whether a word is reserved. -/
def isReserved (name : String) : Bool := reservedWords.contains name

/-- The name without one leading `@`. Members with the same canonical name are the same. -/
def canonical (name : String) : String :=
  match name.toList with
  | '@' :: body => String.ofList body
  | _ => name

/-- Whether the characters form a word of the alphabet of identifiers. -/
def isWord : List Char → Bool
  | [] => false
  | c :: cs => isStart c && cs.all isPart

/-- Whether a member may have this name. -/
def isValid (name : String) : Bool :=
  match name.toList with
  | '@' :: body => isWord body
  | cs => isWord cs && !isReserved name

end BannerGen.Identifier
