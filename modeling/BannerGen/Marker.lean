import BannerGen.Source.Declaration
import BannerGen.Text.Affix

/-!
# Markers

A marker is an attribute that asks for a generated member. It has three parameters, the name of
the member, the font and the text, and each must be given by a string literal, in order or by
name.

An attribute with another name is no marker. One with the right name but arguments that do not fit
is malformed; that is for the compiler to report, so generation passes over it.
-/

namespace BannerGen

/-- The parameters of a marker. -/
inductive Parameter where
  /-- The name of the member. -/
  | memberName
  /-- The name of the font. -/
  | fontName
  /-- The text to render. -/
  | sourceText
deriving DecidableEq, Repr, Inhabited

namespace Parameter

/-- The name by which an argument can be bound to the parameter. -/
def label : Parameter → String
  | .memberName => "memberName"
  | .fontName => "fontName"
  | .sourceText => "sourceText"

/-- The parameters in their order. -/
def all : List Parameter := [.memberName, .fontName, .sourceText]

/-- The parameter of the given name. -/
def ofLabel? (name : String) : Option Parameter := all.find? (·.label = name)

end Parameter

/-- A string literal and where it stands. -/
structure Literal where
  /-- The content. -/
  value : String
  /-- Where the literal stands. -/
  span : Span
deriving DecidableEq, Repr, Inhabited

/-- The arguments of a well-formed marker. -/
structure Marker where
  /-- The name of the member. -/
  memberName : Literal
  /-- The name of the font. -/
  fontName : Literal
  /-- The text to render. -/
  sourceText : Literal
deriving DecidableEq, Repr, Inhabited

/-- Why the arguments of a marker cannot be bound to its parameters. -/
inductive Malformation where
  /-- There are not three arguments. -/
  | wrongArity (count : Nat)
  /-- The argument of this parameter is not a string literal. -/
  | nonLiteral (p : Parameter)
  /-- No parameter has this name. -/
  | unknownParameter (name : String)
  /-- This parameter is given twice. -/
  | duplicateParameter (p : Parameter)
deriving DecidableEq, Repr

instance : ToString Malformation where
  toString
    | .wrongArity count => s!"expected 3 arguments, found {count}"
    | .nonLiteral p => s!"argument '{p.label}' is not a string literal"
    | .unknownParameter name => s!"no parameter named '{name}'"
    | .duplicateParameter p => s!"parameter '{p.label}' given more than once"

/-- What an attribute is to generation. -/
inductive Recognition where
  /-- A marker with these arguments. -/
  | recognized (m : Marker)
  /-- Not a marker. -/
  | notRecognized
  /-- A marker whose arguments do not fit. -/
  | malformed (reason : Malformation)
deriving DecidableEq, Repr

namespace Marker

/-- The simple name of the attribute. -/
def simpleName : String := "GenerateFiggleText"

/-- Whether an attribute of this name is a marker. The name may be qualified by `Figgle.` and by
`global::`, it may end in `Attribute`, and blanks around it do not count. -/
def isName (name : String) : Bool :=
  let cs := Text.trimChars name.toList
  let cs := Text.dropStart "global::".toList cs
  let cs := Text.dropStart "Figgle.".toList cs
  let cs := Text.dropEnd "Attribute".toList cs
  cs == simpleName.toList

/-- The parameters that are bound so far. -/
structure Bindings where
  /-- What the name of the member is bound to. -/
  memberName : Option Literal := none
  /-- What the name of the font is bound to. -/
  fontName : Option Literal := none
  /-- What the text is bound to. -/
  sourceText : Option Literal := none
deriving DecidableEq, Repr

namespace Bindings

/-- What a parameter is bound to. -/
def get? (b : Bindings) : Parameter → Option Literal
  | .memberName => b.memberName
  | .fontName => b.fontName
  | .sourceText => b.sourceText

/-- Binds a parameter. -/
def insert (b : Bindings) (p : Parameter) (l : Literal) : Bindings :=
  match p with
  | .memberName => { b with memberName := some l }
  | .fontName => { b with fontName := some l }
  | .sourceText => { b with sourceText := some l }

/-- Binds an argument at the given position to the parameter that it names, or else to the one of
its position. -/
def bind (b : Bindings) (position : Parameter) (a : Argument) : Except Malformation Bindings := do
  let p ← match a.name with
    | none => pure position
    | some name => match Parameter.ofLabel? name with
      | some p => pure p
      | none => throw (.unknownParameter name)
  if (b.get? p).isSome then throw (.duplicateParameter p)
  match a.value.text? with
  | some value => pure (b.insert p { value, span := a.span })
  | none => throw (.nonLiteral p)

/-- The marker with these arguments, if every parameter is bound. -/
def marker? (b : Bindings) : Option Marker :=
  match b with
  | { memberName := some memberName, fontName := some fontName, sourceText := some sourceText } =>
    some { memberName, fontName, sourceText }
  | _ => none

end Bindings

/-- Binds the arguments of a marker to its parameters. -/
def ofArguments (arguments : List Argument) : Except Malformation Marker :=
  match arguments with
  | [x, y, z] => do
    let b ← Bindings.bind {} .memberName x
    let b ← b.bind .fontName y
    let b ← b.bind .sourceText z
    match b.marker? with
    | some m => pure m
    | none => throw (.wrongArity arguments.length)
  | _ => throw (.wrongArity arguments.length)

end Marker

namespace Attribute

/-- Recognizes a marker. -/
def recognize (a : Attribute) : Recognition :=
  if Marker.isName a.name then
    match Marker.ofArguments a.arguments with
    | .ok m => .recognized m
    | .error reason => .malformed reason
  else .notRecognized

/-- The marker that an attribute is, if it is a well-formed one. -/
def marker? (a : Attribute) : Option Marker :=
  match a.recognize with
  | .recognized m => some m
  | _ => none

/-- An attribute is a marker exactly if it is recognized as one. -/
theorem marker?_eq_some_iff {a : Attribute} {m : Marker} :
    a.marker? = some m ↔ a.recognize = .recognized m := by
  rw [marker?]
  cases a.recognize <;> simp

/-- The marker with the given member name, font and text, without locations. -/
def ofTexts (memberName fontName sourceText : String) : Attribute :=
  { name := Marker.simpleName
    arguments := [memberName, fontName, sourceText].map fun s => { value := .text s } }

end Attribute

namespace Site

/-- The markers of a site in order, each with its attribute. -/
def markers (s : Site) : List (Attribute × Marker) :=
  s.attributes.filterMap fun a => a.marker?.map fun m => (a, m)

end Site

end BannerGen
