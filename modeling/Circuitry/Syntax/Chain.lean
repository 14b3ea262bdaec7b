import Circuitry.Syntax.Program

/-!
# Operator chains

An expression is read as a chain `x₀ o₁ x₁ … oₙ xₙ` of operands and operator words, and the
chain is then grouped by binding strength, every operator associating to the left. The
grouping runs an operand stack and an operator stack: before an operator is pushed, every
operator on the stack that binds at least as tightly is applied to the top two operands.
-/

namespace Circuitry

/-- A chain of operands joined by operator words: the first operand, then each operator with
the operand after it. -/
structure Chain where
  first : Expr
  links : List (String × Expr)
deriving Repr, Inhabited

namespace Chain

/-- Applies stacked operators while the top one binds at least as tightly as `strength`.
Both stacks have their top first; each step replaces the top two operands by the top
operator applied to them. -/
def reduceWhile (strength : Nat) : List Expr → List String → List Expr × List String
  | rhs :: lhs :: values, op :: ops =>
    if strength ≤ Keyword.precedence op then
      reduceWhile strength (.binary op lhs rhs :: values) ops
    else (rhs :: lhs :: values, op :: ops)
  | values, ops => (values, ops)

/-- The stacks after one more operator and the operand after it. -/
def push (st : List Expr × List String) (link : String × Expr) : List Expr × List String :=
  let reduced := reduceWhile (Keyword.precedence link.1) st.1 st.2
  (link.2 :: reduced.1, link.1 :: reduced.2)

def pushAll (c : Chain) : List Expr × List String := c.links.foldl push ([c.first], [])

/-- The expression that the chain groups into: every operator left on the stacks is applied
at the end, and the one operand left is the result. -/
def group (c : Chain) : Expr :=
  let (values, ops) := c.pushAll
  ((reduceWhile 0 values ops).1).headD c.first

end Chain

end Circuitry
