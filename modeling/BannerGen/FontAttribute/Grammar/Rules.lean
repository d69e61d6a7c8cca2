import BannerGen.FontAttribute.Grammar.Statement

/-!
# The grammar of functions

The rules are put together to a grammar, step by step: the rules of each step take the parts that
are contained in others by means of the grammar of the step before. So a grammar of so many steps
takes parts that are contained in each other so deeply, and the number of steps that it is made of
grows with the number of tokens.
-/

namespace BannerGen.FontAttribute

namespace Token

/-- The number of tokens, those between delimiters included. -/
def size : Token → Nat
  | .group _ inner => 1 + sizes inner
  | .invisible inner => 1 + sizes inner
  | _ => 1
where
  /-- The number of tokens in a row, those between delimiters included. -/
  sizes : List Token → Nat
    | [] => 0
    | t :: ts => t.size + sizes ts

end Token

namespace Grammar

/-- The rules, where the parts that are contained in others are taken by means of a grammar. -/
def step (g : Grammar) : Grammar where
  type := typeRule g
  bound := boundRule g
  pattern := patternRule g
  expression := expressionRule g
  operand := operandRule g
  operators := operatorsRule g
  statementExpression := statementExpressionRule g
  statements := statementsRule g
  item := itemRule g
  importTree := importTreeRule g
  namedFields := namedFieldsRule g

/-- The grammar that rows of tokens of the given size are read with. -/
def ofSize (n : Nat) : Grammar := (8 * (n + 2)).repeat step empty

end Grammar

end BannerGen.FontAttribute
