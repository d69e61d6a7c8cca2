import BannerGen.FontAttribute.Function

/-!
# The font attribute

An attribute on a function makes it a font. The name of the font is given by the attribute, as a
text or as `name = ` and a text, and is otherwise the name of the function. The function is written
again, and two items come after it: a function that describes the font, and the registration of what
it describes.

Which tokens form a function is up to the grammar. All that is asked of the function is its
signature, so the reader of functions is a parameter.
-/

namespace BannerGen.FontAttribute

/-- Why an attribute cannot make a function a font. -/
inductive Refusal where
  /-- The attribute is not on a function, or its arguments are malformed. -/
  | malformed (e : SyntaxError)
  /-- The attribute has an argument that is not the name. -/
  | otherKey
  /-- Something follows the name of the font. -/
  | tokensAfterName
  /-- The function is asynchronous. -/
  | asynchronous
  /-- The function has generic parameters. -/
  | generic
  /-- The function does not have exactly one parameter. -/
  | wrongArity
  /-- The parameter of the function is a receiver. -/
  | takesReceiver
  /-- The function has no return type. -/
  | returnsNothing
  /-- The name of the font is empty. -/
  | emptyName
deriving DecidableEq, Repr

instance : ToString Refusal where
  toString
    | .malformed e => toString e
    | .otherKey => "expected `name = \"...\"`"
    | .tokensAfterName => "unexpected tokens after font name"
    | .asynchronous => "font render functions cannot be async"
    | .generic => "font render functions cannot be generic"
    | .wrongArity => "font render functions take exactly one `&str` argument"
    | .takesReceiver => "font render functions cannot take `self`"
    | .returnsNothing => "font render functions must return `String`"
    | .emptyName => "font name cannot be empty"

/-- The text that alone makes up the tokens after `name =`. -/
def givenName (ts : List Token) : Except Refusal String :=
  match Token.next? ts with
  | some (.text s, []) => return s
  | some (.text _, _ :: _) => throw .tokensAfterName
  | _ => throw (.malformed (.at "string literal" ts))

/-- The name that the arguments of an attribute give to a font, if they give one. Invisible
delimiters with nothing between them may come after a text that stands alone. -/
def fontName? (ts : List Token) : Except Refusal (Option String) :=
  if ts.isEmpty then return none
  else match Token.next? ts with
    | some (.text s, rest) =>
      if (Token.visible rest).isEmpty then return some s
      else throw (.malformed ⟨.leftover none, false⟩)
    | some (.name isRaw s, rest) =>
      if !isRaw && keywords.contains s then throw (.malformed ⟨.keyword s, false⟩)
      else if isRaw || s ≠ "name" then throw .otherKey
      else match Token.next? rest with
        | some (.mark '=' _, rest) => some <$> givenName rest
        | _ => throw (.malformed ⟨.expected ["`=`"], false⟩)
    | _ => throw (.malformed (.at "identifier" ts))

/-- Checks that a function can be called with a text and gives something. -/
def Signature.check (s : Signature) : Except Refusal Unit :=
  if s.isAsync then throw .asynchronous
  else if s.isGeneric then throw .generic
  else if s.parameters.length ≠ 1 then throw .wrongArity
  else if s.parameters = [.receiver] then throw .takesReceiver
  else if !s.hasReturnType then throw .returnsNothing
  else return

/-- An item that an attribute expands to. -/
inductive ExpandedItem where
  /-- The function itself. -/
  | function (f : FunctionItem)
  /-- A function of the given name that describes the font with the given name and renderer. -/
  | descriptor (name fontName renderer : String)
  /-- The registration of the font that a function of the given name describes. -/
  | registration (descriptor : String)

/-- The name of the function that describes a font. -/
def descriptorName (f : FunctionItem) : String := "__" ++ f.signature.name.plain ++ "_figgle_font"

/-- The items that an attribute with the given arguments on a function expands to. -/
def expand (arguments : List Token) (f : FunctionItem) : Except Refusal (List ExpandedItem) := do
  let given ← fontName? arguments
  f.signature.check
  let fontName := given.getD f.signature.name.spelling
  if fontName = "" then throw .emptyName
  else return [.function f, .descriptor (descriptorName f) fontName f.signature.name.spelling,
    .registration (descriptorName f)]

variable (read : List Token → Except SyntaxError FunctionItem)

/-- The items that an attribute with the given arguments on the given tokens expands to. -/
def expandTokens (arguments item : List Token) : Except Refusal (List ExpandedItem) :=
  match read item with
  | .ok f => expand arguments f
  | .error e => throw (.malformed e)

/-- A part of what comes in place of an attribute and the tokens that it stands on. -/
inductive Replacement where
  /-- An item. -/
  | item (i : ExpandedItem)
  /-- An error with the given message, with which the compilation ends. -/
  | compileError (message : String)

/-- What comes in place of an attribute and the tokens that it stands on: the items that they expand
to, or nothing but an error. -/
def replacement (arguments item : List Token) : List Replacement :=
  match expandTokens read arguments item with
  | .ok items => items.map .item
  | .error e => [.compileError (toString e)]

end BannerGen.FontAttribute
