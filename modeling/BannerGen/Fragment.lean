import BannerGen.Settings
import BannerGen.Source.Declaration
import BannerGen.Verbatim

/-!
# Fragments

The source text that is generated for one type: a partial declaration of the type with the
generated members in it. It has a name of its own, by which a host keeps it apart from other
fragments.
-/

namespace BannerGen

open Json (Value ReaderOf)

/-- A generated member. -/
structure RenderedMember where
  /-- The name of the member. -/
  name : String
  /-- The text that the member holds. -/
  value : String
deriving DecidableEq, Repr, Inhabited

namespace RenderedMember

/-- The JSON form of a member. -/
def toJson (m : RenderedMember) : Value :=
  .record [("name", .text m.name), ("value", .text m.value)]

/-- Reads a member; no field may be left out. -/
def ofJson? : ReaderOf RenderedMember
  | 0, _ => none
  | _ + 1, v => do
    let f ← v.fields? ["name", "value"]
    let name ← f.required "name" Value.asText?
    let value ← f.required "value" Value.asText?
    return { name, value }

end RenderedMember

namespace EmitSettings

/-- The name of the fragment of a type: namespace, name and suffix with dots between them. -/
def hintName (s : EmitSettings) (key : TypeKey) : String := toString key ++ "." ++ s.hintSuffix

/-- The indentation of the given level. -/
def indent (s : EmitSettings) (level : Nat) : String :=
  String.ofList (List.replicate (s.indentWidth * level) ' ')

/-- What stands before the name of a member. -/
def beforeName (s : EmitSettings) : String :=
  s.accessibility.keyword ++ match s.memberStyle with
    | .property => " static string "
    | .readonlyField => " static readonly string "
    | .const => " const string "

/-- What stands between the name of a member and its literal. -/
def afterName (s : EmitSettings) : String :=
  match s.memberStyle with
  | .property => " \x7b get; \x7d = "
  | .readonlyField | .const => " = "

/-- The declaration of a member. -/
def memberDeclaration (s : EmitSettings) (m : RenderedMember) : String :=
  s.beforeName ++ m.name ++ s.afterName ++ Verbatim.literal m.value ++ ";"

/-- A line of the given level. -/
def line (s : EmitSettings) (level : Nat) (text : String) : String :=
  s.indent level ++ text ++ s.lineEnding.chars

/-- The comment at the start of a fragment. -/
def headerLines (s : EmitSettings) : List String :=
  if s.header then
    [s.line 0 "// <auto-generated />",
      s.line 0 "// Generated by figgle-gen - do not edit manually", s.line 0 ""]
  else []

/-- The lines of the declaration of a type that stands at the given level. -/
def typeLines (s : EmitSettings) (level : Nat) (key : TypeKey) (kind : TypeKind)
    (members : List RenderedMember) : List String :=
  [s.line level ("partial " ++ kind.keyword ++ " " ++ key.name), s.line level "\x7b"]
    ++ members.map (fun m => s.line (level + 1) (s.memberDeclaration m))
    ++ [s.line level "\x7d"]

/-- The source text of a fragment. -/
def source (s : EmitSettings) (key : TypeKey) (kind : TypeKind) (members : List RenderedMember) :
    String :=
  String.join <| s.headerLines ++ match key.path with
    | some path =>
      [s.line 0 ("namespace " ++ path), s.line 0 "\x7b"]
        ++ s.typeLines 1 key kind members ++ [s.line 0 "\x7d"]
    | none => s.typeLines 0 key kind members

end EmitSettings

/-- The source text generated for a type. -/
structure Fragment where
  /-- The name of the fragment, which is also the name of its file. -/
  hintName : String
  /-- The type. -/
  key : TypeKey
  /-- The members in their order. -/
  members : List RenderedMember
  /-- The whole text. -/
  source : String
deriving DecidableEq, Repr, Inhabited

namespace Fragment

/-- The fragment of a type with the given members. -/
def ofMembers (s : EmitSettings) (key : TypeKey) (kind : TypeKind)
    (members : List RenderedMember) : Fragment :=
  { hintName := s.hintName key, key, members, source := s.source key kind members }

/-- The first member of a given name. -/
def member? (f : Fragment) (name : String) : Option RenderedMember :=
  f.members.find? (·.name = name)

/-- The JSON form of a fragment. -/
def toJson (f : Fragment) : Value :=
  .record [("hint_name", .text f.hintName), ("key", f.key.toJson),
    ("members", .array (f.members.map RenderedMember.toJson)), ("source", .text f.source)]

/-- Reads a fragment; no field may be left out. -/
def ofJson? : ReaderOf Fragment
  | 0, _ => none
  | room + 1, v => do
    let f ← v.fields? ["hint_name", "key", "members", "source"]
    let hintName ← f.required "hint_name" Value.asText?
    let key ← f.required "key" (TypeKey.ofJson? room)
    let members ← f.required "members" (Value.asList? RenderedMember.ofJson? room)
    let source ← f.required "source" Value.asText?
    return { hintName, key, members, source }

end Fragment

end BannerGen
