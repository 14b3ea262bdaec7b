import Circuitry.Proofs.Syntax.ReadWellFormed

/-!
# Grouping is precedence climbing

The reference reading of an operator chain `x₀ o₁ x₁ … oₙ xₙ` splits it at its weakest
operator, the last one when several are equally weak, and reads the two sides the same way
(`Chain.tree`). Splitting at the last weakest operator makes every operator associate to the
left and a stronger operator bind first; a word that is no operator is the weakest of all.

The stacks of `Chain.group` build this same tree. The tree of a chain of operands is well
formed, because the operators on the left of its split bind at least as tightly as the split
operator and those on its right strictly more tightly, and it is written as the chain it came
from; a well-formed expression is the grouping of its own chain (`Chain.group_chain`). So
grouping a chain gives its tree (`Chain.group_eq_tree`), and reading an expression from tokens
reads operand spans and operator tokens in turn and groups them as the tree does
(`Parse.operand_group_eq_tree`).
-/

namespace Circuitry

open Keyword (precedence)

theorem Expr.Operand.chain {x : Expr} (operand : x.Operand) : x.chain = ⟨x, []⟩ := by
  cases x with
  | binary => exact operand.elim
  | name | numeral | array => rfl

namespace Chain

/-- The links of a chain around one of them: those before it, the link, those after it. -/
structure Split where
  before : List (String × Expr)
  pivot : String × Expr
  after : List (String × Expr)

def splitWeakest (l : String × Expr) : List (String × Expr) → Split
  | [] => ⟨[], l, []⟩
  | m :: rest =>
    let s := splitWeakest m rest
    if precedence s.pivot.1 ≤ precedence l.1 then ⟨l :: s.before, s.pivot, s.after⟩
    else ⟨[], l, m :: rest⟩

/-- `s` splits `links` at the last of its weakest operators: the operators before the pivot
bind at least as tightly as it, those after it strictly more tightly. -/
structure Split.Weakest (s : Split) (links : List (String × Expr)) : Prop where
  append : links = s.before ++ s.pivot :: s.after
  before_le : ∀ b ∈ s.before, precedence s.pivot.1 ≤ precedence b.1
  after_lt : ∀ a ∈ s.after, precedence s.pivot.1 < precedence a.1

namespace Split.Weakest

variable {s : Split} {links : List (String × Expr)}

theorem pivot_mem (weakest : s.Weakest links) : s.pivot ∈ links := by
  rw [weakest.append]
  exact List.mem_append_right _ List.mem_cons_self

theorem le (weakest : s.Weakest links) : ∀ a ∈ links, precedence s.pivot.1 ≤ precedence a.1 := by
  intro a member
  rw [weakest.append, List.mem_append, List.mem_cons] at member
  rcases member with before | rfl | after
  · exact weakest.before_le a before
  · exact Nat.le_refl _
  · exact Nat.le_of_lt (weakest.after_lt a after)

theorem before_forall {P : String × Expr → Prop} (weakest : s.Weakest links) (all : ∀ l ∈ links, P l) :
    ∀ b ∈ s.before, P b := by
  intro b member
  apply all b
  rw [weakest.append]
  exact List.mem_append_left _ member

theorem after_forall {P : String × Expr → Prop} (weakest : s.Weakest links) (all : ∀ l ∈ links, P l) :
    ∀ a ∈ s.after, P a := by
  intro a member
  apply all a
  rw [weakest.append]
  exact List.mem_append_right _ (List.mem_cons_of_mem _ member)

theorem length_before_lt (weakest : s.Weakest links) : s.before.length < links.length := by
  rw [weakest.append, List.length_append, List.length_cons]
  omega

theorem length_after_lt (weakest : s.Weakest links) : s.after.length < links.length := by
  rw [weakest.append, List.length_append, List.length_cons]
  omega

end Split.Weakest

theorem splitWeakest_weakest (l : String × Expr) (rest : List (String × Expr)) :
    (splitWeakest l rest).Weakest (l :: rest) := by
  induction rest generalizing l with
  | nil =>
    exact ⟨rfl, fun _ member => absurd member List.not_mem_nil,
      fun _ member => absurd member List.not_mem_nil⟩
  | cons m rest ih =>
    have tail := ih m
    rw [splitWeakest]
    split
    · rename_i weaker
      refine ⟨by rw [tail.append]; rfl, ?_, tail.after_lt⟩
      intro b member
      rcases List.mem_cons.1 member with rfl | later
      · exact weaker
      · exact tail.before_le b later
    · rename_i stronger
      refine ⟨rfl, fun _ member => absurd member List.not_mem_nil, ?_⟩
      intro a member
      have atLeast := tail.le a member
      show precedence l.1 < precedence a.1
      omega

/-- The reference tree of a chain: its operand when it has no operator, and otherwise the
operator at the last weakest place applied to the trees of the two sides. -/
def tree : Chain → Expr
  | ⟨x, []⟩ => x
  | ⟨x, l :: rest⟩ =>
    .binary (splitWeakest l rest).pivot.1 (tree ⟨x, (splitWeakest l rest).before⟩)
      (tree ⟨(splitWeakest l rest).pivot.2, (splitWeakest l rest).after⟩)
termination_by c => c.links.length
decreasing_by
  · exact (splitWeakest_weakest l rest).length_before_lt
  · exact (splitWeakest_weakest l rest).length_after_lt

theorem tree_nil (x : Expr) : tree ⟨x, []⟩ = x := by
  rw [tree]

theorem tree_cons (x : Expr) (l : String × Expr) (rest : List (String × Expr)) :
    tree ⟨x, l :: rest⟩ =
      .binary (splitWeakest l rest).pivot.1 (tree ⟨x, (splitWeakest l rest).before⟩)
        (tree ⟨(splitWeakest l rest).pivot.2, (splitWeakest l rest).after⟩) := by
  rw [tree]

theorem tree_single (x y : Expr) (o : String) : tree ⟨x, [(o, y)]⟩ = .binary o x y := by
  rw [tree_cons]
  show Expr.binary o (tree ⟨x, []⟩) (tree ⟨y, []⟩) = _
  rw [tree_nil, tree_nil]

theorem tree_two (x y z : Expr) (o o' : String) :
    tree ⟨x, [(o, y), (o', z)]⟩ =
      if precedence o' ≤ precedence o then .binary o' (.binary o x y) z
      else .binary o x (.binary o' y z) := by
  have split : splitWeakest (o, y) [(o', z)] =
      if precedence o' ≤ precedence o then ⟨[(o, y)], (o', z), []⟩ else ⟨[], (o, y), [(o', z)]⟩ := rfl
  rw [tree_cons, split]
  by_cases weaker : precedence o' ≤ precedence o
  · rw [if_pos weaker, if_pos weaker]
    show Expr.binary o' (tree ⟨x, [(o, y)]⟩) (tree ⟨z, []⟩) = _
    rw [tree_single, tree_nil]
  · rw [if_neg weaker, if_neg weaker]
    show Expr.binary o (tree ⟨x, []⟩) (tree ⟨y, [(o', z)]⟩) = _
    rw [tree_nil, tree_single]

theorem tree_bindsAtLeast {c : Chain} {strength : Nat} (first : c.first.Operand)
    (links : ∀ l ∈ c.links, strength ≤ precedence l.1) : c.tree.BindsAtLeast strength := by
  rcases c with ⟨x, _ | ⟨l, rest⟩⟩
  · rw [tree_nil]
    exact first.bindsAtLeast strength
  · rw [tree_cons]
    exact links _ (splitWeakest_weakest l rest).pivot_mem

section Trees

variable {opOk : String → Prop}

theorem tree_wellFormed (c : Chain) (first : c.first.Operand)
    (linksOk : ∀ link ∈ c.links, opOk link.1 ∧ link.2.Operand) : c.tree.WellFormed opOk := by
  fun_induction tree c with
  | case1 x => exact first.wellFormed opOk
  | case2 x l rest ihBefore ihAfter =>
    have weakest := splitWeakest_weakest l rest
    have pivotOk := linksOk _ weakest.pivot_mem
    refine ⟨pivotOk.1, ?_, ?_, ?_, ?_⟩
    · exact tree_bindsAtLeast first weakest.before_le
    · exact tree_bindsAtLeast pivotOk.2 weakest.after_lt
    · exact ihBefore first (weakest.before_forall linksOk)
    · exact ihAfter pivotOk.2 (weakest.after_forall linksOk)

end Trees

theorem tree_chain (c : Chain) (first : c.first.Operand) (operands : ∀ link ∈ c.links, link.2.Operand) :
    c.tree.chain = c := by
  fun_induction tree c with
  | case1 x => exact first.chain
  | case2 x l rest ihBefore ihAfter =>
    have weakest := splitWeakest_weakest l rest
    have left := ihBefore first (weakest.before_forall operands)
    have right := ihAfter (operands _ weakest.pivot_mem) (weakest.after_forall operands)
    simp only [Expr.chain, left, right]
    rw [weakest.append]

theorem group_eq_tree (c : Chain) (first : c.first.Operand)
    (operands : ∀ link ∈ c.links, link.2.Operand) : c.group = c.tree := by
  have formed : c.tree.WellFormed fun _ => True :=
    tree_wellFormed c first fun link member => ⟨trivial, operands link member⟩
  have regrouped := group_chain c.tree formed
  rw [tree_chain c first operands] at regrouped
  exact regrouped

end Chain

namespace Parse

/-- The tokens `ts` spell a chain that starts with operand `x` and goes on with `links`, and
`rest` follows it: each operand is the span that `literal` reads from a token of no operator
kind, each operator a token of operator kind other than a closing brace or a comma, and the
chain ends where no such token follows. -/
inductive ChainSpans : List Token → Expr → List (String × Expr) → List Token → Prop
  | last {t : Token} {more rest : List Token} {x : Expr} :
      t.kind ≠ .operator → (literal t more).read = .ok (x, rest) → chainGoesOn rest = false →
      ChainSpans (t :: more) x [] rest
  | link {t o : Token} {more after rest : List Token} {x y : Expr} {links : List (String × Expr)} :
      t.kind ≠ .operator → (literal t more).read = .ok (x, o :: after) →
      chainGoesOn (o :: after) = true → ChainSpans after y links rest →
      ChainSpans (t :: more) x ((o.value, y) :: links) rest

theorem operand_spans {ts : List Token} {lastOp : Option String} {c : Chain} {rest : List Token}
    (read : (operand ts lastOp).read = .ok (c, rest)) : ChainSpans ts c.first c.links rest := by
  cases ts with
  | nil =>
    rw [read_operand_nil] at read
    cases read
  | cons t more =>
    rw [read_operand_cons] at read
    split at read
    · cases read
    · split at read
      · cases read
      · rename_i plain
        split at read
        · cases read
        · rename_i x after literalRead
          have shorter := read_rest_shorter literalRead
          split at read
          · rename_i o after
            split at read
            · rename_i goesOn
              obtain ⟨⟨tail, last⟩, tailRead, same⟩ := map_eq_ok.1 read
              cases same
              exact .link plain literalRead goesOn (operand_spans tailRead)
            · rename_i stops
              cases read
              exact .last plain literalRead (Bool.eq_false_iff.2 stops)
          · cases read
            exact .last plain literalRead rfl
termination_by ts.length
decreasing_by
  subst_vars
  simp only [List.length_cons] at *
  omega

/-- Reading an expression from tokens reads operand spans and operator tokens in turn, up to a
token that continues no chain, and the stacks group them as the reference tree does: split at
the last weakest operator, a word that is no operator counting as weaker than any. -/
theorem operand_group_eq_tree {ts : List Token} {lastOp : Option String} {c : Chain}
    {rest : List Token} (read : (operand ts lastOp).read = .ok (c, rest)) :
    ChainSpans ts c.first c.links rest ∧ c.group = c.tree := by
  have operands := operand_operands (show OperatorsAllowed (fun _ => True) ts from fun _ _ _ => trivial) read
  exact ⟨operand_spans read, Chain.group_eq_tree c operands.1 fun link member => (operands.2 link member).2⟩

/-- The chain `a and b => c`, and its tokens with their operators marked. -/
def gateArrowChain : Chain := ⟨.name "a", [("and", .name "b"), ("=>", .name "c")]⟩

def gateArrowTokens : List Token :=
  [⟨.text, "a", ⟨0, 1, 0⟩⟩, ⟨.operator, "and", ⟨2, 1, 2⟩⟩, ⟨.text, "b", ⟨6, 1, 6⟩⟩,
    ⟨.operator, "=>", ⟨8, 1, 8⟩⟩, ⟨.text, "c", ⟨11, 1, 11⟩⟩]

/-- The tokens read as the chain, which the stacks group as the tree does, the gate before the
arrow. -/
theorem gate_groups_before_arrow :
    (operand gateArrowTokens none).read = .ok (gateArrowChain, []) ∧
    gateArrowChain.group = .binary "=>" (.binary "and" (.name "a") (.name "b")) (.name "c") := by
  have read : (operand gateArrowTokens none).read = .ok (gateArrowChain, []) := by
    rw [gateArrowTokens]
    simp +decide [gateArrowChain, read_operand_cons, read_literal, Except.map]
  refine ⟨read, ?_⟩
  rw [(operand_group_eq_tree read).2, gateArrowChain, Chain.tree_two]
  rfl

end Parse

end Circuitry
