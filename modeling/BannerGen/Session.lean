import BannerGen.FontTable
import BannerGen.Ledger
import BannerGen.Output
import BannerGen.Resolver

/-!
# Sessions

A run has two phases. While it collects, it visits declarations one after the other and claims
names for the members that their markers ask for. Then it renders the accepted requests and writes
a fragment for every type. Names are claimed before fonts are looked up, so a request whose font is
unknown still holds its name.

Only the resolution of a declaration can stop a run. Everything that is wrong with a marker becomes
a diagnostic, and the checks are made in a fixed order: the type must not be nested, the site must
be partial, the name must be valid, and it must be free.
-/

namespace BannerGen

/-- The state of a run while it collects. -/
structure Session where
  /-- The names claimed and the requests accepted so far. -/
  ledger : Ledger := {}
  /-- The diagnostics so far, in the order in which they were found. -/
  diagnostics : List Diagnostic := []
  /-- The number of declarations visited. -/
  visited : Nat := 0
deriving DecidableEq, Repr

namespace Session

variable {m : Type → Type} [Monad m]

/-- Adds a diagnostic. -/
def report (s : Session) (d : Diagnostic) : Session :=
  { s with diagnostics := s.diagnostics ++ [d] }

/-- Claims the name of a request for the type `key`. -/
def accept (resolver : Resolver m) (key : TypeKey) (kind : TypeKind) (s : Session)
    (request : Request) : m Session := do
  let entry ← s.ledger.entryOrSeed key kind (resolver.existingMembers key)
  let (entry, registration) := entry.accept request
  let s := { s with ledger := s.ledger.insert key entry }
  match registration with
  | .accepted => return s
  | .duplicate =>
    return s.report
      (.about .duplicateMemberName request.memberNameLocation request.memberName)

/-- Handles a marker on a site that belongs to `type`. -/
def collect (resolver : Resolver m) (site : Site) (type : ResolvedType) (s : Session)
    (marker : Attribute × Marker) : m Session :=
  let (attr, args) := marker
  if type.isNested then
    return s.report (.about .nestedTypeUnsupported attr.span site.name)
  else if !site.isPartial then
    return s.report (.about .typeNotMergeable attr.span site.name)
  else if !Identifier.isValid args.memberName.value then
    return s.report (.about .invalidMemberName args.memberName.span args.memberName.value)
  else s.accept resolver type.key.normalized site.kind (.ofMarker attr.span args)

/-- Visits a declaration. One without markers needs no resolution; one with markers that cannot be
resolved leaves nothing behind but the error. -/
def visit (resolver : Resolver m) (s : Session) (d : Declaration) :
    m (Session × Option Unresolved) :=
  let s := { s with visited := s.visited + 1 }
  if d.site.markers.isEmpty then return (s, none)
  else do
    match ← resolver.resolve d with
    | .ok type => return (← d.site.markers.foldlM (collect resolver d.site type) s, none)
    | .error failure => return (s, some { id := d.site.id, name := d.site.name, failure })

/-- Visits declarations in order, up to the first one that cannot be resolved. -/
def visitAll (resolver : Resolver m) (s : Session) :
    List Declaration → m (Except Unresolved Session)
  | [] => return .ok s
  | d :: ds => do
    match ← s.visit resolver d with
    | (s, none) => visitAll resolver s ds
    | (_, some error) => return .error error

/-! ### Writing fragments -/

/-- The accepted requests of an entry by location. -/
def inSourceOrder (e : Entry) : List Request := Span.sortBy Request.location e.requests

/-- The members that can be rendered. -/
def renderedMembers (render : Renderer) (rs : List Request) : List RenderedMember :=
  rs.filterMap fun r =>
    (render r.fontName r.sourceText).map fun value => { name := r.memberName, value }

/-- The diagnostics for requests whose font is unknown. -/
def unknownFonts (render : Renderer) (rs : List Request) : List Diagnostic :=
  rs.filterMap fun r =>
    match render r.fontName r.sourceText with
    | some _ => none
    | none => some (.about .unknownFont r.fontNameLocation r.fontName)

/-- The diagnostics in the order that the settings ask for. -/
def ordered (order : DiagnosticOrder) (ds : List Diagnostic) : List Diagnostic :=
  match order with
  | .discovery => ds
  | .location => Span.sortBy Diagnostic.location ds

/-- Ends the collecting and writes a fragment for every type of the ledger. -/
def finish (settings : Settings) (render : Renderer) (s : Session) : Output :=
  { fragments := s.ledger.entries.map fun (key, e) =>
      .ofMembers settings.emit key e.kind (renderedMembers render (inSourceOrder e))
    diagnostics := ordered settings.diagnostics.order <|
      s.diagnostics ++ s.ledger.entries.flatMap fun (_, e) =>
        unknownFonts render (inSourceOrder e) }

end Session

end BannerGen
