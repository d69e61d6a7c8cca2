import BannerGen.Source.Span
import BannerGen.Source.TypeKey

/-!
# Declarations

What a host compiler knows about a type declaration: where it stands, how it is declared, which
attributes and members it has, and which types are declared inside it.

A `Site` is one declaration without the types inside it; a `Declaration` is the tree of a site and
the declarations nested in it. Generation reads markers off sites, and hands whole declarations to
the host.
-/

namespace BannerGen

open Json (Value ReaderOf)

/-- The kind of a type declaration. -/
inductive TypeKind where
  /-- A class. -/
  | classType
  /-- A struct. -/
  | structType
  /-- An interface. -/
  | interfaceType
  /-- A record class. -/
  | recordType
  /-- A record struct. -/
  | recordStructType
deriving DecidableEq, Repr, Inhabited

namespace TypeKind

/-- The keywords that introduce a declaration of this kind. -/
def keyword : TypeKind → String
  | .classType => "class"
  | .structType => "struct"
  | .interfaceType => "interface"
  | .recordType => "record"
  | .recordStructType => "record struct"

/-- The name of a kind in JSON. -/
def label : TypeKind → String
  | .recordStructType => "record_struct"
  | kind => kind.keyword

/-- All kinds by name. -/
def choices : List (String × TypeKind) :=
  [TypeKind.classType, .structType, .interfaceType, .recordType, .recordStructType].map
    fun k => (k.label, k)

/-- The JSON form of a kind. -/
def toJson (k : TypeKind) : Value := .text k.label

/-- Reads a kind. -/
def ofJson? : ReaderOf TypeKind := Value.asChoice? choices

end TypeKind

/-- The value of an attribute argument. -/
inductive ArgumentValue where
  /-- A string literal with this content. -/
  | text (content : String)
  /-- Any other expression, as it is written. -/
  | expression (source : String)
deriving DecidableEq, Repr, Inhabited

namespace ArgumentValue

/-- The literal text, if the argument is a string literal. -/
def text? : ArgumentValue → Option String
  | .text content => some content
  | .expression _ => none

/-- The number of bytes of the value in source text; a literal stands between two quotes. -/
def width : ArgumentValue → Nat
  | .text content => content.utf8ByteSize + 2
  | .expression source => source.utf8ByteSize

/-- The JSON form of a value: its kind and its text. -/
def toJson : ArgumentValue → Value
  | .text content => .record [("kind", .text "text"), ("value", .text content)]
  | .expression source => .record [("kind", .text "expression"), ("value", .text source)]

/-- The two kinds of values by name. -/
def choices : List (String × (String → ArgumentValue)) :=
  [("text", .text), ("expression", .expression)]

/-- Reads a value; neither field may be left out. In an array the kind is a name alone. -/
def ofJson? : ReaderOf ArgumentValue
  | 0, _ => none
  | room + 1, v => do
    let f ← v.fields? ["kind", "value"]
    let make ← f.required "kind" (match v with
      | .array _ => Value.asName? choices
      | _ => Value.asChoice? choices room)
    let content ← f.required "value" Value.asText?
    return make content

end ArgumentValue

/-- An argument of an attribute. -/
structure Argument where
  /-- The name of the parameter, if the argument is written `name: value`. -/
  name : Option String := none
  /-- The value. -/
  value : ArgumentValue
  /-- Where the value stands. -/
  span : Span := {}
deriving DecidableEq, Repr, Inhabited

namespace Argument

/-- The number of bytes in front of the value: the parameter's name, a colon and a space. -/
def labelWidth (a : Argument) : Nat :=
  match a.name with
  | some name => name.utf8ByteSize + 2
  | none => 0

/-- The number of bytes of the argument in source text. -/
def width (a : Argument) : Nat := a.labelWidth + a.value.width

/-- The JSON form of an argument. -/
def toJson (a : Argument) : Value :=
  .record [("name", .ofText? a.name), ("value", a.value.toJson), ("span", a.span.toJson)]

/-- Reads an argument; the name and the span may be left out. -/
def ofJson? : ReaderOf Argument
  | 0, _ => none
  | room + 1, v => do
    let f ← v.fields? ["name", "value", "span"]
    let name ← f.optional "name" none Value.asOptionalText?
    let value ← f.required "value" (ArgumentValue.ofJson? room)
    let span ← f.optional "span" {} (Span.ofJson? room)
    return { name, value, span }

end Argument

/-- An attribute of a declaration. -/
structure Attribute where
  /-- The name as it is written, qualified or not. -/
  name : String
  /-- The arguments in their order. -/
  arguments : List Argument := []
  /-- Where the attribute stands. -/
  span : Span := {}
deriving DecidableEq, Repr, Inhabited

namespace Attribute

/-- The number of bytes of arguments in source text, with a comma and a space between two. -/
def argumentsWidth : List Argument → Nat
  | [] => 0
  | [a] => a.width
  | a :: b :: rest => a.width + 2 + argumentsWidth (b :: rest)

/-- The number of bytes of the attribute in source text, `[Name(argument, argument)]`. -/
def width (a : Attribute) : Nat := a.name.utf8ByteSize + 4 + argumentsWidth a.arguments

/-- The JSON form of an attribute. -/
def toJson (a : Attribute) : Value :=
  .record [("name", .text a.name), ("arguments", .array (a.arguments.map Argument.toJson)),
    ("span", a.span.toJson)]

/-- Reads an attribute; the arguments and the span may be left out. -/
def ofJson? : ReaderOf Attribute
  | 0, _ => none
  | room + 1, v => do
    let f ← v.fields? ["name", "arguments", "span"]
    let name ← f.required "name" Value.asText?
    let arguments ← f.optional "arguments" [] (Value.asList? Argument.ofJson? room)
    let span ← f.optional "span" {} (Span.ofJson? room)
    return { name, arguments, span }

end Attribute

/-- A member that a declaration already has. -/
structure Member where
  /-- The name. -/
  name : String
  /-- Where the member stands. -/
  span : Span := {}
deriving DecidableEq, Repr, Inhabited

namespace Member

/-- The JSON form of a member. -/
def toJson (m : Member) : Value :=
  .record [("name", .text m.name), ("span", m.span.toJson)]

/-- Reads a member; the span may be left out. -/
def ofJson? : ReaderOf Member
  | 0, _ => none
  | room + 1, v => do
    let f ← v.fields? ["name", "span"]
    let name ← f.required "name" Value.asText?
    let span ← f.optional "span" {} (Span.ofJson? room)
    return { name, span }

end Member

/-- One place where a type is declared. -/
structure Site where
  /-- The identity of the site, below `2 ^ 32`; zero if none was given yet. -/
  id : Nat := 0
  /-- The simple name of the type. -/
  name : String
  /-- The kind of the type. -/
  kind : TypeKind := .classType
  /-- The path of the enclosing namespace; `none` for the global one. -/
  scope : Option String := none
  /-- Whether the site carries the modifier `partial`. -/
  isPartial : Bool := false
  /-- The attributes in their order. -/
  attributes : List Attribute := []
  /-- The members declared on this site. -/
  members : List Member := []
  /-- Where the header of the declaration stands. -/
  span : Span := {}
deriving DecidableEq, Repr, Inhabited

namespace Site

/-- The identity of the type declared here. -/
def key (s : Site) : TypeKey := .of s.name s.scope

/-- The number of bytes of the header in source text, `[partial ]keyword Name`. -/
def headerWidth (s : Site) : Nat :=
  (if s.isPartial then 8 else 0) + s.kind.keyword.utf8ByteSize + 1 + s.name.utf8ByteSize

instance : ToString Site where
  toString s := s!"#{s.id} {s.name} {s.span}"

end Site

/-- A type declaration with the declarations nested in it. -/
inductive Declaration where
  /-- The declaration at `site` with the declarations inside it. -/
  | mk (site : Site) (nested : List Declaration)
deriving Inhabited, Repr

namespace Declaration

/-- The site of a declaration. -/
def site : Declaration → Site
  | mk site _ => site

/-- The declarations directly inside a declaration. -/
def nested : Declaration → List Declaration
  | mk _ nested => nested

mutual

/-- Equality of declarations is decided by recursion on the tree. -/
def decideEq : (a b : Declaration) → Decidable (a = b)
  | mk s ns, mk t ms =>
    match decEq s t, decideEqList ns ms with
    | .isTrue h₁, .isTrue h₂ => .isTrue (by rw [h₁, h₂])
    | .isFalse h, _ => .isFalse (by intro e; cases e; exact h rfl)
    | _, .isFalse h => .isFalse (by intro e; cases e; exact h rfl)

/-- Equality of lists of declarations is decided by recursion on the trees. -/
def decideEqList : (a b : List Declaration) → Decidable (a = b)
  | [], [] => .isTrue rfl
  | [], _ :: _ => .isFalse (by intro e; cases e)
  | _ :: _, [] => .isFalse (by intro e; cases e)
  | a :: as, b :: bs =>
    match decideEq a b, decideEqList as bs with
    | .isTrue h₁, .isTrue h₂ => .isTrue (by rw [h₁, h₂])
    | .isFalse h, _ => .isFalse (by intro e; cases e; exact h rfl)
    | _, .isFalse h => .isFalse (by intro e; cases e; exact h rfl)

end

instance : DecidableEq Declaration := decideEq

mutual

/-- The site of a declaration and the sites inside it, depth first in source order. -/
def walk : Declaration → List Site
  | mk site nested => site :: walkAll nested

/-- The sites of several declarations, depth first in source order. -/
def walkAll : List Declaration → List Site
  | [] => []
  | d :: ds => walk d ++ walkAll ds

end

mutual

/-- A declaration and the declarations inside it, depth first in source order. -/
def subtrees : Declaration → List Declaration
  | mk site nested => mk site nested :: subtreesAll nested

/-- Several declarations and the declarations inside them, depth first in source order. -/
def subtreesAll : List Declaration → List Declaration
  | [] => []
  | d :: ds => subtrees d ++ subtreesAll ds

end

mutual

theorem map_site_subtrees : ∀ d, (subtrees d).map site = walk d
  | mk s nested => by
    rw [subtrees, walk, List.map_cons, map_site_subtreesAll]
    rfl

theorem map_site_subtreesAll : ∀ ds, (subtreesAll ds).map site = walkAll ds
  | [] => by rw [subtreesAll, walkAll, List.map_nil]
  | d :: ds => by
    rw [subtreesAll, walkAll, List.map_append, map_site_subtrees, map_site_subtreesAll]

end

/-- A site stands for the declaration with nothing inside it. -/
instance : Coe Site Declaration := ⟨fun s => mk s []⟩

/-- The identity of a declaration is that of its site. -/
protected def id (d : Declaration) : Nat := d.site.id

/-! ### Building declarations -/

/-- A declaration of the given kind and name, without anything else. -/
def ofKind (kind : TypeKind) (name : String) : Declaration := mk { name, kind } []

/-- Changes the site of a declaration. -/
def mapSite (f : Site → Site) : Declaration → Declaration
  | mk site nested => mk (f site) nested

/-- Places the declaration in a namespace; a blank one is the global namespace. -/
def inScope (d : Declaration) (scope : String) : Declaration :=
  d.mapSite fun s => { s with scope := normalizeScope (some scope) }

/-- Marks the declaration as partial. -/
def markPartial (d : Declaration) : Declaration := d.mapSite fun s => { s with isPartial := true }

/-- Adds an attribute at the end. -/
def annotate (d : Declaration) (a : Attribute) : Declaration :=
  d.mapSite fun s => { s with attributes := s.attributes ++ [a] }

/-- Adds a member at the end. -/
def addMember (d : Declaration) (name : String) : Declaration :=
  d.mapSite fun s => { s with members := s.members ++ [{ name }] }

/-- Adds a nested declaration at the end. It takes over the namespace of this one. -/
def nest (d inner : Declaration) : Declaration :=
  mk d.site (d.nested ++ [inner.mapSite fun s => { s with scope := d.site.scope }])

/-- Sets the identity of the site. -/
def withId (d : Declaration) (id : Nat) : Declaration := d.mapSite fun s => { s with id }

/-- Sets the location of the header. -/
def withSpan (d : Declaration) (span : Span) : Declaration := d.mapSite fun s => { s with span }

/-! ### JSON form -/

/-- The fields of a declaration in the order of their declaration. -/
def fieldNames : List String :=
  ["id", "name", "kind", "namespace", "partial", "attributes", "members", "nested", "span"]

mutual

/-- The JSON form of a declaration. -/
def toJson : Declaration → Value
  | mk s nested =>
    .record [("id", .natural s.id), ("name", .text s.name), ("kind", s.kind.toJson),
      ("namespace", .ofText? s.scope), ("partial", .bool s.isPartial),
      ("attributes", .array (s.attributes.map Attribute.toJson)),
      ("members", .array (s.members.map Member.toJson)),
      ("nested", .array (toJsonAll nested)), ("span", s.span.toJson)]

/-- The JSON forms of several declarations. -/
def toJsonAll : List Declaration → List Value
  | [] => []
  | d :: ds => toJson d :: toJsonAll ds

end

mutual

/-- Reads a declaration; everything but the name may be left out. -/
def ofJson? : ReaderOf Declaration
  | 0, _ => none
  | room + 1, v => do
    let f ← v.fields? fieldNames
    let id ← f.optional "id" 0 (Value.asNat? 32)
    let name ← f.required "name" Value.asText?
    let kind ← f.optional "kind" .classType (TypeKind.ofJson? room)
    let scope ← f.optional "namespace" none TypeKey.scopeOfJson?
    let isPartial ← f.optional "partial" false Value.asBool?
    let attributes ← f.optional "attributes" [] (Value.asList? Attribute.ofJson? room)
    let members ← f.optional "members" [] (Value.asList? Member.ofJson? room)
    let nested ← f.optional "nested" [] (ofJsonAll? room)
    let span ← f.optional "span" {} (Span.ofJson? room)
    return mk { id, name, kind, scope, isPartial, attributes, members, span } nested

/-- Reads an array of declarations. -/
def ofJsonAll? : ReaderOf (List Declaration)
  | room + 1, .array items => items.mapM (ofJson? room)
  | _, _ => none

end

end Declaration

end BannerGen
