import BannerGen.ForestIndex
import BannerGen.Session
import BannerGen.Source.Layout

/-!
# Generation

Running a whole forest through a session.
-/

namespace BannerGen.Forest

/-- Why a forest cannot be read. -/
inductive ReadError where
  /-- The text is not the JSON form of a forest. -/
  | malformed
  /-- There are more sites than identities. -/
  | idsExhausted
deriving DecidableEq, Repr

/-- The text of a failure, if there is one. -/
def ReadError.message? : ReadError → Option String
  | .malformed => none
  | .idsExhausted => some "No node id left to assign"

/-- Reads a forest from its JSON form and fills in what is missing. -/
def ofValue (v : Json.Value) : Except ReadError Forest :=
  match ofJson? Json.room v with
  | none => .error .malformed
  | some f => match f.layout with
    | none => .error .idsExhausted
    | some f => .ok f

/-- Reads a forest from a JSON text and fills in what is missing. -/
def ofText (s : String) : Except ReadError Forest :=
  match Json.Value.parse? s with
  | none => .error .malformed
  | some v => ofValue v

/-- Generates the members that a forest asks for, with the answers of the given host. Every
declaration is visited once, depth first. -/
def generateWith {m : Type → Type} [Monad m] (resolver : Resolver m) (settings : Settings)
    (render : Renderer) (f : Forest) : m (Except Unresolved Output) := do
  match ← Session.visitAll resolver {} f.subtrees with
  | .ok s => return .ok (s.finish settings render)
  | .error e => return .error e

/-- Generates the members that a forest asks for, resolving its declarations from the forest
itself. -/
def generate (settings : Settings) (render : Renderer) (f : Forest) : Except Unresolved Output :=
  generateWith f.resolver settings render f

end BannerGen.Forest
