import BannerGen.FontAttribute.Grammar.Pattern

/-!
# Signatures

The visibility of an item, and what stands before the body of a function: qualifiers, a name,
generic parameters, parameters, a return type and conditions.
-/

namespace BannerGen.FontAttribute

/-- The name of a function. -/
structure FunctionName where
  /-- Whether it is written with a leading `r#`. -/
  isRaw : Bool
  /-- The name without that. -/
  plain : String
deriving DecidableEq, Repr, Inhabited

/-- A name as it is written. -/
def FunctionName.spelling (n : FunctionName) : String :=
  if n.isRaw then "r#" ++ n.plain else n.plain

/-- A parameter of a function. -/
inductive Parameter where
  /-- The object that a method is called on. -/
  | receiver
  /-- A pattern with a type. -/
  | typed
deriving DecidableEq, Repr

/-- What is known of the signature of a function. -/
structure Signature where
  /-- Whether the function is asynchronous. -/
  isAsync : Bool := false
  /-- Its name. -/
  name : FunctionName
  /-- Whether it has generic parameters. -/
  isGeneric : Bool := false
  /-- Its parameters, without an ellipsis after them. -/
  parameters : List Parameter
  /-- Whether it has a return type. -/
  hasReturnType : Bool := true
deriving DecidableEq, Repr

namespace Grammar

open TokenParser

/-- Takes a visibility, if there is one, and tells whether there is. -/
def visibility : TokenParser Bool := do
  if ← accept (.word "pub") then
    match ← remaining with
    | .group .paren (.name false "in" :: _) :: _ =>
      within .paren do
        expect (.word "in")
        plainPath
    | .group .paren [.name false s] :: _ => if s ∈ ["crate", "self", "super"] then take 1
    | _ => pure ()
    return true
  else return false

/-- What comes after a word, if tokens start with it, or else the tokens. -/
def afterWord (word : String) : List Token → List Token
  | .name false s :: ts => if s = word then ts else .name false s :: ts
  | ts => ts

/-- What comes after a calling convention, if tokens start with one, or else the tokens. -/
def afterConvention : List Token → List Token
  | .name false "extern" :: .text _ :: ts => ts
  | ts => afterWord "extern" ts

/-- Whether tokens start with the qualifiers and the keyword of a function. Some functions may be
marked as safe. -/
def startsSignature (allowsSafe : Bool) (ts : List Token) : Bool :=
  let ts := afterWord "async" (afterWord "const" ts)
  let ts := if allowsSafe && Start.isAt (.word "safe") ts then afterWord "safe" ts
    else afterWord "unsafe" ts
  Start.isAt (.word "fn") (afterConvention ts)

/-- Takes the name of a function. -/
def functionName : TokenParser FunctionName := do
  match ← remaining with
  | .name isRaw plain :: _ =>
    expect .name
    return ⟨isRaw, plain⟩
  | _ => refuse .name

variable (g : Grammar)

/-- Takes a receiver: `self`, a reference to it, or `self` with a type. -/
def receiver : TokenParser Unit := do
  let isReference ← accept (.mark "&")
  if isReference then discard (accept .lifetime)
  let _ ← accept (.word "mut")
  expect (.word "self")
  if !isReference then
    if ← accept (.mark ":") then discard (g.type true)

/-- Takes a parameter, after earlier ones, of which only the first may be a receiver. It gives
`none` for a parameter that stands for any number of arguments. -/
def parameter (earlier : List Parameter) : TokenParser (Option Parameter) := do
  attributes g
  if ← accept (.mark "...") then return none
  else if (← attempt (receiver g)).isSome then
    if .receiver ∈ earlier then fail .secondReceiver
    else if earlier ≠ [] then fail .lateReceiver
    else return some .receiver
  else if (← isNext .name) && (← isSecond (.mark "<")) then
    replace 0 [.word "_", .mark ':' false] .unnamedParameter
    discard (g.type true)
    return some .typed
  else
    discard g.pattern
    expect (.mark ":")
    if ← accept (.mark "...") then return none
    else
      discard (g.type true)
      return some .typed

/-- Takes the parameters of a function. What stands for any number of arguments is the last one. -/
def parameters : TokenParser (List Parameter) :=
  iterate (fun l => do
    if ← isOver then return (l, false)
    let p ← parameter g l
    let l := l ++ p.toList
    if ← isOver then return (l, false)
    expect (.mark ",")
    return (l, p.isSome)) []

/-- Takes a signature, perhaps one that is marked as safe, and tells whether it is. -/
def anySignature (allowsSafe : Bool) : TokenParser (Signature × Bool) := do
  let _ ← accept (.word "const")
  let isAsync ← accept (.word "async")
  let isUnsafe ← accept (.word "unsafe")
  let isSafe ← if allowsSafe && !isUnsafe then accept (.word "safe") else pure false
  optionalConvention
  expect (.word "fn")
  let name ← functionName
  let isGeneric ← generics g
  let (parameters, isLeft) ← enter .paren (parameters g)
  let output ← returnType g true
  let _ ← conditions g
  if isLeft then noteLeftover .paren
  return ({ isAsync, name, isGeneric, parameters, hasReturnType := output.isSome }, isSafe)

/-- Takes a signature. -/
def signature : TokenParser Signature := return (← anySignature g false).1

end Grammar

end BannerGen.FontAttribute
