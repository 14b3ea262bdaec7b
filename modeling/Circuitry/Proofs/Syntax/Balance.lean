import Circuitry.Proofs.Syntax.Grouping

/-!
# The grouping stacks stay balanced

`Chain.group` runs an operand stack and an operator stack over a chain `x₀ o₁ x₁ … oₙ xₙ`. The
run alternates between two kinds of step: pushing an operand, after which an operator is
expected, and pushing an operator, after which an operand is expected; before an operator goes
on the stack, every operator on it that binds at least as tightly is applied to the top two
operands. `push` is one operator step followed by one operand step (`push_eq_pushOperator`).

In every state of every run the stacks are balanced (`Balanced`): the operand stack holds one
entry more than the operator stack when an operator is expected and as many when an operand
is, and the operators' binding strengths rise strictly from the bottom of the stack to its top
(`Rising`). Hence every reduction finds two operands under its operator, so a reduction pops
exactly the operators that bind at least as tightly as the incoming one (`reduceWhile_pops`),
and the final reduction leaves one operand and no operator: the grouped expression
(`stacks_balanced`). Binding strength 0, that of a word that is no operator, is no exception.

The statements hold for every chain, so for every chain that `Parse.operand` reads and the
logic and pipeline readers then group; a reading that stops at a problem has grouped nothing.
-/

namespace Circuitry

namespace Chain

open Keyword (precedence)

/-- The operator stack, top first: every operator binds strictly more tightly than each
operator under it. -/
def Rising (ops : List String) : Prop :=
  ops.Pairwise fun above below => precedence below < precedence above

/-- The stacks of a grouping run, with whether the run expects an operand next: one operand
more than operators after an operand, as many after an operator, and a rising operator
stack. -/
structure Balanced (expectOperand : Bool) (st : List Expr × List String) : Prop where
  count : st.1.length = st.2.length + if expectOperand then 0 else 1
  rising : Rising st.2

def pushOperator (st : List Expr × List String) (op : String) : List Expr × List String :=
  ((reduceWhile (precedence op) st.1 st.2).1, op :: (reduceWhile (precedence op) st.1 st.2).2)

theorem push_eq_pushOperator (st : List Expr × List String) (link : String × Expr) :
    push st link = (link.2 :: (pushOperator st link.1).1, (pushOperator st link.1).2) := rfl

def pushPrefix (c : Chain) (k : Nat) : List Expr × List String :=
  (c.links.take k).foldl push ([c.first], [])

/-! ### Reductions -/

theorem reduceWhile_pops (s : Nat) {vs : List Expr} {os : List String}
    (count : vs.length = os.length + 1) :
    (reduceWhile s vs os).2 = os.dropWhile (s ≤ precedence ·) := by
  fun_induction reduceWhile s vs os with
  | case1 rhs lhs values op ops reduces ih =>
    have fewer : (Expr.binary op lhs rhs :: values).length = ops.length + 1 := by
      simp only [List.length_cons] at count ⊢
      omega
    rw [ih fewer, List.dropWhile_cons_of_pos (by simpa using reduces)]
  | case2 rhs lhs values op ops stops =>
    rw [List.dropWhile_cons_of_neg (by simpa using stops)]
  | case3 values ops short =>
    -- the reduction stopped for want of an operator: with one, `count` gives two operands
    rcases ops with _ | ⟨op, ops⟩
    · rfl
    · rcases values with _ | ⟨rhs, _ | ⟨lhs, values⟩⟩
      · simp at count
      · simp at count
      · exact (short _ _ _ _ _ rfl rfl).elim

theorem below_of_dropWhile {s : Nat} {os : List String} (rising : Rising os) :
    ∀ o ∈ os.dropWhile (s ≤ precedence ·), precedence o < s := by
  induction os with
  | nil => simp
  | cons top os ih =>
    rw [Rising, List.pairwise_cons] at rising
    by_cases reduces : s ≤ precedence top
    · rw [List.dropWhile_cons_of_pos (by simpa using reduces)]
      exact ih rising.2
    · rw [List.dropWhile_cons_of_neg (by simpa using reduces)]
      intro o member
      rcases List.mem_cons.1 member with rfl | under
      · omega
      · have lower := rising.1 o under
        omega

/-! ### One step, then a whole run -/

namespace Balanced

theorem start (x : Expr) : Balanced false ([x], []) := ⟨rfl, List.Pairwise.nil⟩

theorem reduceWhile {st : List Expr × List String} (balanced : Balanced false st) (s : Nat) :
    Balanced false (Chain.reduceWhile s st.1 st.2) where
  count := length_reduceWhile s st.1 st.2 balanced.count
  rising := by
    rw [reduceWhile_pops s balanced.count]
    exact balanced.rising.sublist (List.dropWhile_sublist _)

theorem pushOperator {st : List Expr × List String} (balanced : Balanced false st) (op : String) :
    Balanced true (Chain.pushOperator st op) where
  count := by
    have reduced := (balanced.reduceWhile (precedence op)).count
    simpa [Chain.pushOperator] using reduced
  rising := by
    have remaining := reduceWhile_pops (precedence op) balanced.count
    rw [Rising, Chain.pushOperator, List.pairwise_cons, remaining]
    exact ⟨below_of_dropWhile balanced.rising, balanced.rising.sublist (List.dropWhile_sublist _)⟩

theorem pushOperand {st : List Expr × List String} (balanced : Balanced true st) (x : Expr) :
    Balanced false (x :: st.1, st.2) where
  count := by simpa using balanced.count
  rising := balanced.rising

theorem push {st : List Expr × List String} (balanced : Balanced false st) (link : String × Expr) :
    Balanced false (Chain.push st link) := by
  rw [push_eq_pushOperator]
  exact (balanced.pushOperator link.1).pushOperand link.2

theorem foldl (links : List (String × Expr)) {st : List Expr × List String}
    (balanced : Balanced false st) : Balanced false (links.foldl Chain.push st) := by
  induction links generalizing st with
  | nil => exact balanced
  | cons link links ih => exact ih (balanced.push link)

end Balanced

theorem balanced_pushPrefix (c : Chain) (k : Nat) : Balanced false (c.pushPrefix k) :=
  (Balanced.start c.first).foldl _

theorem reduceWhile_pushAll (c : Chain) : reduceWhile 0 c.pushAll.1 c.pushAll.2 = ([c.group], []) := by
  obtain ⟨e, final⟩ := reduceWhile_zero (length_pushAll c)
  rw [final, group_of_reduceWhile final]

/-- Every state of a grouping run is balanced. After the first operand and `k` links of `c` the
stacks are balanced and expect an operator; after the next operator, whatever it is, they are
balanced and expect an operand; a reduction from there, for any strength, finds two operands
under each operator it applies, so it pops exactly the operators that bind at least as tightly;
and the final reduction leaves exactly one operand, the grouped expression, and no operator. -/
theorem stacks_balanced (c : Chain) :
    (∀ k, Balanced false (c.pushPrefix k) ∧
      (∀ op, Balanced true (pushOperator (c.pushPrefix k) op)) ∧
      ∀ s, (reduceWhile s (c.pushPrefix k).1 (c.pushPrefix k).2).2 =
        (c.pushPrefix k).2.dropWhile (s ≤ precedence ·)) ∧
    reduceWhile 0 c.pushAll.1 c.pushAll.2 = ([c.group], []) := by
  refine ⟨fun k => ?_, reduceWhile_pushAll c⟩
  have balanced := balanced_pushPrefix c k
  exact ⟨balanced, balanced.pushOperator, fun s => reduceWhile_pops s balanced.count⟩

end Chain

end Circuitry
