import BannerGen.FontAttribute.Grammar.Rules

/-!
# Functions

A function as it is declared: attributes, visibility, a signature and a body.
-/

namespace BannerGen.FontAttribute

/-- A function. -/
structure FunctionItem where
  /-- Its signature. -/
  signature : Signature
  /-- All its tokens, as they are written again. -/
  tokens : List Token
  /-- The ways in which these differ from the tokens that it was read from. -/
  rewritings : List Grammar.Rewriting

namespace FunctionItem

open Grammar in
/-- Takes a function. -/
def parser (g : Grammar) : TokenParser Signature := do
  attributes g
  discard visibility
  let s ← Grammar.signature g
  block g
  return s

/-- The function that tokens form, read without their invisible delimiters. -/
def ofTokens (item : List Token) : Except SyntaxError FunctionItem :=
  let ts := Token.visible item
  match parser (.ofSize (Token.size.sizes ts)) ts (.nothing ts none) with
  | .ok (signature, r) =>
    if r.leftover.isSome then .error ⟨.leftover r.leftover, false⟩
    else if r.rest.isEmpty then
      .ok { signature, tokens := r.written.reverse, rewritings := r.rewritings }
    else .error ⟨.leftover none, false⟩
  | .error e => .error e

end FunctionItem

end BannerGen.FontAttribute
