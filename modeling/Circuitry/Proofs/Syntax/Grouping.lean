import Circuitry.Proofs.Syntax.Print
import Circuitry.Proofs.Syntax.WellFormed

/-!
# Grouping an operator chain

`Chain.group` runs an operand stack and an operator stack over the chain. Three facts about
it, each proved from what one reduction and one push do to the stacks:

* grouping keeps the tokens: the grouped expression prints as the chain does (`group_words`);
* the grouped expression is well formed when the chain's operands are operands and its
  operators are allowed (`group_wellFormed`). The stacks keep the operators' binding strengths
  strictly rising from the bottom to the top, and every operand binds tightly enough for the
  operators on both sides of it (`Tidy`);
* a well-formed expression is the grouping of its own chain (`group_chain`), so it is the
  only well-formed expression with those tokens.
-/

namespace Circuitry

/-- The chain of operands and operators that an expression is written as. -/
def Expr.chain : Expr → Chain
  | .binary op lhs rhs =>
    ⟨lhs.chain.first, lhs.chain.links ++ (op, rhs.chain.first) :: rhs.chain.links⟩
  | .name id => ⟨.name id, []⟩
  | .numeral digits => ⟨.numeral digits, []⟩
  | .array items => ⟨.array items, []⟩

theorem Expr.chain_words : (e : Expr) → e.chain.words = e.words
  | .binary op lhs rhs => by
    have left := Expr.chain_words lhs
    have right := Expr.chain_words rhs
    simp only [Chain.words, Expr.chain, List.flatMap_append, List.flatMap_cons] at left right ⊢
    rw [Expr.words, ← left, ← right]
    simp
  | .name _ => by simp [Chain.words, Expr.chain]
  | .numeral _ => by simp [Chain.words, Expr.chain]
  | .array _ => by simp [Chain.words, Expr.chain]

namespace Chain

open Keyword (precedence)

theorem reduceWhile_reduce {s : Nat} {rhs lhs : Expr} {values : List Expr} {op : String}
    {ops : List String} (reduces : s ≤ precedence op) :
    reduceWhile s (rhs :: lhs :: values) (op :: ops) = reduceWhile s (.binary op lhs rhs :: values) ops := by
  rw [reduceWhile, if_pos reduces]

theorem reduceWhile_stop {s : Nat} {rhs lhs : Expr} {values : List Expr} {op : String}
    {ops : List String} (stops : ¬s ≤ precedence op) :
    reduceWhile s (rhs :: lhs :: values) (op :: ops) = (rhs :: lhs :: values, op :: ops) := by
  rw [reduceWhile, if_neg stops]

theorem reduceWhile_short {s : Nat} {vs : List Expr} {os : List String}
    (short : ∀ rhs lhs values op ops, vs = rhs :: lhs :: values → os = op :: ops → False) :
    reduceWhile s vs os = (vs, os) := by
  rw [reduceWhile.eq_def]
  split
  · exact (short _ _ _ _ _ rfl rfl).elim
  · rfl

theorem reduceWhile_of_below {s : Nat} {vs : List Expr} {os : List String}
    (below : ∀ o ∈ os.head?, precedence o < s) : reduceWhile s vs os = (vs, os) := by
  rcases vs with _ | ⟨rhs, _ | ⟨lhs, values⟩⟩
  · exact reduceWhile_short fun _ _ _ _ _ same => by simp at same
  · exact reduceWhile_short fun _ _ _ _ _ same => by simp at same
  · rcases os with _ | ⟨op, ops⟩
    · exact reduceWhile_short fun _ _ _ _ _ _ same => by simp at same
    · exact reduceWhile_stop (by have := below op rfl; omega)

theorem reduceWhile_reduceWhile {s s' : Nat} (weaker : s ≤ s') (vs : List Expr) (os : List String) :
    reduceWhile s (reduceWhile s' vs os).1 (reduceWhile s' vs os).2 = reduceWhile s vs os := by
  fun_induction reduceWhile s' vs os with
  | case1 rhs lhs values op ops reduces ih =>
    rw [ih, reduceWhile_reduce (Nat.le_trans weaker reduces)]
  | case2 => rfl
  | case3 => rfl

/-! ### The tokens on the stacks -/

/-- The tokens that a pair of stacks stands for, from the bottom up: the bottom operand, then
each operator with the operand above it. -/
def stackWords : List Expr → List String → List String
  | v :: vs, o :: os => stackWords vs os ++ o :: v.words
  | v :: _, [] => v.words
  | [], _ => []

theorem stackWords_reduceWhile (s : Nat) (vs : List Expr) (os : List String) :
    stackWords (reduceWhile s vs os).1 (reduceWhile s vs os).2 = stackWords vs os := by
  fun_induction reduceWhile s vs os with
  | case1 rhs lhs values op ops reduces ih =>
    rw [ih]
    cases ops with
    | nil => simp [stackWords, Expr.words]
    | cons o ops => simp [stackWords, Expr.words]
  | case2 => rfl
  | case3 => rfl

theorem stackWords_foldl (links : List (String × Expr)) (st : List Expr × List String) :
    stackWords (links.foldl push st).1 (links.foldl push st).2 =
      stackWords st.1 st.2 ++ links.flatMap fun link => link.1 :: link.2.words := by
  induction links generalizing st with
  | nil => simp
  | cons link links ih =>
    rw [List.foldl_cons, ih]
    simp [push, stackWords, stackWords_reduceWhile]

theorem length_reduceWhile (s : Nat) (vs : List Expr) (os : List String)
    (balanced : vs.length = os.length + 1) :
    (reduceWhile s vs os).1.length = (reduceWhile s vs os).2.length + 1 := by
  fun_induction reduceWhile s vs os with
  | case1 rhs lhs values op ops reduces ih =>
    exact ih (by simp only [List.length_cons] at balanced ⊢; omega)
  | case2 => exact balanced
  | case3 => exact balanced

theorem length_foldl (links : List (String × Expr)) (st : List Expr × List String)
    (balanced : st.1.length = st.2.length + 1) :
    (links.foldl push st).1.length = (links.foldl push st).2.length + 1 := by
  induction links generalizing st with
  | nil => exact balanced
  | cons link links ih =>
    apply ih
    simp only [push, List.length_cons]
    rw [length_reduceWhile _ _ _ balanced]

theorem reduceWhile_zero {vs : List Expr} {os : List String} (balanced : vs.length = os.length + 1) :
    ∃ e, reduceWhile 0 vs os = ([e], []) := by
  fun_induction reduceWhile 0 vs os with
  | case1 rhs lhs values op ops reduces ih =>
    exact ih (by simp only [List.length_cons] at balanced ⊢; omega)
  | case2 rhs lhs values op ops stops => exact absurd (Nat.zero_le _) stops
  | case3 values ops short =>
    rcases values with _ | ⟨e, _ | ⟨lhs, values⟩⟩ <;> rcases ops with _ | ⟨op, ops⟩
    all_goals simp at balanced
    · exact ⟨e, rfl⟩
    · exact (short _ _ _ _ _ rfl rfl).elim

theorem group_of_reduceWhile {c : Chain} {e : Expr}
    (final : reduceWhile 0 c.pushAll.1 c.pushAll.2 = ([e], [])) : c.group = e := by
  unfold group
  rcases pushed : c.pushAll with ⟨values, ops⟩
  rw [pushed] at final
  simp [final]

theorem length_pushAll (c : Chain) : c.pushAll.1.length = c.pushAll.2.length + 1 :=
  length_foldl c.links ([c.first], []) rfl

theorem group_words (c : Chain) : c.group.words = c.words := by
  obtain ⟨e, final⟩ := reduceWhile_zero (length_pushAll c)
  have kept := stackWords_reduceWhile 0 c.pushAll.1 c.pushAll.2
  rw [final] at kept
  rw [group_of_reduceWhile final]
  calc e.words = stackWords [e] [] := rfl
    _ = stackWords c.pushAll.1 c.pushAll.2 := kept
    _ = c.words := by simp [pushAll, stackWords_foldl, stackWords, Chain.words]

/-! ### Well-formed groupings -/

def Tidy (opOk : String → Prop) : List Expr → List String → Prop
  | [v], [] => v.WellFormed opOk
  | v :: w :: vs, o :: os =>
    opOk o ∧ v.WellFormed opOk ∧ v.BindsAtLeast (precedence o + 1) ∧
      w.BindsAtLeast (precedence o) ∧ (∀ below ∈ os.head?, precedence below < precedence o) ∧
      Tidy opOk (w :: vs) os
  | _, _ => False

variable {opOk : String → Prop}

theorem tidy_reduce {rhs lhs : Expr} {values : List Expr} {op : String} {ops : List String}
    (tidy : Tidy opOk (rhs :: lhs :: values) (op :: ops)) :
    Tidy opOk (.binary op lhs rhs :: values) ops := by
  obtain ⟨allowed, rhsFormed, rhsBinds, lhsBinds, below, rest⟩ := tidy
  rcases values with _ | ⟨w, vs⟩ <;> rcases ops with _ | ⟨o, os⟩
  · exact ⟨allowed, lhsBinds, rhsBinds, rest, rhsFormed⟩
  · simp [Tidy] at rest
  · simp [Tidy] at rest
  · obtain ⟨allowedBelow, lhsFormed, _, wBinds, belowBelow, restBelow⟩ := rest
    have lower : precedence o < precedence op := below o rfl
    have binds : (Expr.binary op lhs rhs).BindsAtLeast (precedence o + 1) := by
      show precedence o + 1 ≤ precedence op
      omega
    exact ⟨allowedBelow, ⟨allowed, lhsBinds, rhsBinds, lhsFormed, rhsFormed⟩, binds, wBinds,
      belowBelow, restBelow⟩

theorem tidy_reduceWhile (s : Nat) {vs : List Expr} {os : List String} (tidy : Tidy opOk vs os) :
    Tidy opOk (reduceWhile s vs os).1 (reduceWhile s vs os).2 := by
  fun_induction reduceWhile s vs os with
  | case1 rhs lhs values op ops reduces ih =>
    exact ih (tidy_reduce tidy)
  | case2 => exact tidy
  | case3 => exact tidy

theorem reduceWhile_top (s : Nat) {vs : List Expr} {os : List String}
    (top : ∀ v ∈ vs.head?, v.BindsAtLeast s) :
    ∀ v ∈ (reduceWhile s vs os).1.head?, v.BindsAtLeast s := by
  fun_induction reduceWhile s vs os with
  | case1 rhs lhs values op ops reduces ih =>
    apply ih
    intro v isTop
    cases isTop
    exact reduces
  | case2 => exact top
  | case3 => exact top

theorem reduceWhile_below (s : Nat) {vs : List Expr} {os : List String} (tidy : Tidy opOk vs os) :
    ∀ o ∈ (reduceWhile s vs os).2.head?, precedence o < s := by
  fun_induction reduceWhile s vs os with
  | case1 rhs lhs values op ops reduces ih =>
    exact ih (tidy_reduce tidy)
  | case2 rhs lhs values op ops stops =>
    intro o isTop
    cases isTop
    omega
  | case3 values ops short =>
    intro o isTop
    rcases ops with _ | ⟨op, ops⟩
    · cases isTop
    · rcases values with _ | ⟨rhs, _ | ⟨lhs, values⟩⟩
      · simp [Tidy] at tidy
      · simp [Tidy] at tidy
      · exact (short _ _ _ _ _ rfl rfl).elim

theorem tidy_push {st : List Expr × List String} {link : String × Expr}
    (tidy : Tidy opOk st.1 st.2) (top : ∀ v ∈ st.1.head?, v.BindsAtLeast (precedence link.1))
    (allowed : opOk link.1) (operand : link.2.Operand) : Tidy opOk (push st link).1 (push st link).2 := by
  have reduced := tidy_reduceWhile (precedence link.1) tidy
  have reducedTop : ∀ v ∈ (reduceWhile (precedence link.1) st.1 st.2).1.head?,
      v.BindsAtLeast (precedence link.1) := reduceWhile_top _ top
  have reducedBelow := reduceWhile_below (precedence link.1) tidy
  simp only [push]
  revert reduced reducedTop reducedBelow
  rcases reduceWhile (precedence link.1) st.1 st.2 with ⟨_ | ⟨w, vs⟩, os⟩
  · intro reduced
    simp [Tidy] at reduced
  · intro reduced reducedTop reducedBelow
    exact ⟨allowed, operand.wellFormed opOk, operand.bindsAtLeast _, reducedTop w rfl,
      reducedBelow, reduced⟩

theorem tidy_foldl (links : List (String × Expr)) {st : List Expr × List String}
    (tidy : Tidy opOk st.1 st.2) (top : ∀ v ∈ st.1.head?, v.Operand)
    (linksOk : ∀ link ∈ links, opOk link.1 ∧ link.2.Operand) :
    Tidy opOk (links.foldl push st).1 (links.foldl push st).2 := by
  induction links generalizing st with
  | nil => exact tidy
  | cons link links ih =>
    have linkOk := linksOk link (List.mem_cons_self ..)
    apply ih
    · exact tidy_push tidy (fun v isTop => (top v isTop).bindsAtLeast _) linkOk.1 linkOk.2
    · intro v isTop
      cases isTop
      exact linkOk.2
    · exact fun other member => linksOk other (List.mem_cons_of_mem _ member)

theorem group_wellFormed (c : Chain) (first : c.first.Operand)
    (linksOk : ∀ link ∈ c.links, opOk link.1 ∧ link.2.Operand) : c.group.WellFormed opOk := by
  have tidy : Tidy opOk c.pushAll.1 c.pushAll.2 :=
    tidy_foldl c.links (first.wellFormed opOk) (fun v isTop => by cases isTop; exact first) linksOk
  obtain ⟨e, final⟩ := reduceWhile_zero (length_pushAll c)
  have finalTidy := tidy_reduceWhile 0 tidy
  rw [final] at finalTidy
  rw [group_of_reduceWhile final]
  exact finalTidy

/-! ### The grouping of a well-formed expression -/

theorem regroup : (e : Expr) → e.WellFormed opOk → ∀ (vs : List Expr) (os : List String) (s : Nat),
    (∀ o ∈ os.head?, precedence o < s) → e.BindsAtLeast s →
    reduceWhile s (e.chain.links.foldl push (e.chain.first :: vs, os)).1
      (e.chain.links.foldl push (e.chain.first :: vs, os)).2 = (e :: vs, os)
  | .binary op lhs rhs, wellFormed, vs, os, s, below, binds => by
    obtain ⟨_, lhsBinds, rhsBinds, lhsFormed, rhsFormed⟩ := wellFormed
    have strength : s ≤ precedence op := binds
    have left := regroup lhs lhsFormed vs os (precedence op)
      (fun o isTop => Nat.lt_of_lt_of_le (below o isTop) strength) lhsBinds
    have pushed : push (lhs.chain.links.foldl push (lhs.chain.first :: vs, os)) (op, rhs.chain.first) =
        (rhs.chain.first :: lhs :: vs, op :: os) := by
      simp only [push]
      rw [left]
    have right := regroup rhs rhsFormed (lhs :: vs) (op :: os) (precedence op + 1)
      (fun o isTop => by cases isTop; omega) rhsBinds
    have composed := reduceWhile_reduceWhile (show s ≤ precedence op + 1 by omega)
      (rhs.chain.links.foldl push (rhs.chain.first :: lhs :: vs, op :: os)).1
      (rhs.chain.links.foldl push (rhs.chain.first :: lhs :: vs, op :: os)).2
    rw [right, reduceWhile_reduce strength, reduceWhile_of_below below] at composed
    simp only [Expr.chain, List.foldl_append, List.foldl_cons]
    rw [pushed, ← composed]
  | .name _, _, _, _, _, below, _ => reduceWhile_of_below below
  | .numeral _, _, _, _, _, below, _ => reduceWhile_of_below below
  | .array _, _, _, _, _, below, _ => reduceWhile_of_below below

theorem group_chain (e : Expr) (wellFormed : e.WellFormed opOk) : e.chain.group = e :=
  group_of_reduceWhile (regroup e wellFormed [] [] 0 (fun _ isTop => nomatch isTop)
    (by cases e <;> simp [Expr.BindsAtLeast]))

end Chain

end Circuitry
