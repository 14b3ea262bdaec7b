import Circuitry.Proofs.Simulation.Lockstep
import Circuitry.Proofs.Simulation.Instantiation
import Circuitry.Proofs.Syntax.Viability
import Circuitry.Proofs.Token.ScanLexes

/-!
# Bundles of well-formed programs are never empty

Evaluation refuses an operand, a connection source or a connection target with no signals, and
an operator that is neither a gate nor the connection arrow. Neither can happen in a program the
parser returns. Its arrays have elements, so every expression that evaluates has a lane: a net or
a numeral one, an array those of its first element and more, a gate the widest of its operands'
widths, a connection as many as its targets, which an array of names always has; a logic block's
value is checked to have lanes where an operand needs one. And when the program was compiled from
a source, every operator is the text of a token whose text is an operator word, so it is a gate or
the arrow. A gate itself never fails: the evaluator applies only a gate that its word names.

The invariant is the parser's own `WellFormed`, for expressions and for the bodies of logic blocks;
`Outcome.Filled` says what an evaluation step then ends with, and `evaluation_filled` proves it
of every step along the evaluator's recursion. The main statement is `evaluation_never_empty`.
-/

namespace Circuitry

/-- A fault about a bundle with no signals: an operand, a connection source or a connection
target. -/
def CircuitFault.EmptyBundle : CircuitFault → Prop
  | .connection _ (.emptyOperand _) | .connection _ .emptySource | .connection _ .emptyTarget => True
  | _ => False

/-- A fault about an operator word that is neither a gate nor the connection arrow. -/
def CircuitFault.UnknownOperator : CircuitFault → Prop
  | .connection _ (.unknownOperator _) => True
  | _ => False

def CircuitFault.Admitted (opOk : String → Prop) : CircuitFault → Prop
  | .connection _ (.emptyOperand _) | .connection _ .emptySource | .connection _ .emptyTarget => False
  | .connection _ (.unknownOperator op) => opOk op ∧ Keyword.isOperator op = false
  | _ => True

namespace CircuitFault

variable {opOk : String → Prop} {f : CircuitFault}

theorem Admitted.not_emptyBundle (admitted : f.Admitted opOk) : ¬f.EmptyBundle := by
  rcases f with _ | ⟨c, issue⟩ | _ <;> try cases issue
  all_goals simp_all [Admitted, EmptyBundle]

theorem Admitted.not_unknownOperator (admitted : f.Admitted opOk)
    (operators : ∀ op, opOk op → Keyword.isOperator op = true) : ¬f.UnknownOperator := by
  rcases f with _ | ⟨c, issue⟩ | _ <;> try cases issue
  all_goals simp only [UnknownOperator, not_false_eq_true, not_true_eq_false]
  rename_i op
  have known := operators op admitted.1
  rw [admitted.2] at known
  cases known

end CircuitFault

/-! ### What an evaluation step ends with -/

namespace Outcome

variable {opOk : String → Prop}

/-- Every fault `o` ends with is admitted. -/
def Admits (opOk : String → Prop) (o : Outcome α) : Prop :=
  ∀ f, o.result = .error f → f.Admitted opOk

/-- An evaluation step of well-formed syntax: an admitted fault, or a value with a lane. -/
structure Filled (opOk : String → Prop) (o : Outcome Bundle) : Prop where
  admits : o.Admits opOk
  nonempty : ∀ v, o.result = .ok v → v ≠ []

theorem admits_pure (a : α) (nets : List Net) : (Outcome.pure a nets).Admits opOk :=
  fun _ failed => by cases failed

theorem admits_fail {f : CircuitFault} (admitted : f.Admitted opOk) (nets : List Net) :
    (Outcome.fail f nets : Outcome α).Admits opOk := by
  intro f' failed
  cases failed
  exact admitted

theorem admits_andThen {o : Outcome α} {k : α → List Net → Outcome β} (first : o.Admits opOk)
    (next : ∀ a, o.result = .ok a → (k a o.nets).Admits opOk) : (o.andThen k).Admits opOk := by
  unfold andThen
  split
  · rename_i a done
    exact next a done
  · rename_i f failed
    intro f' same
    cases same
    exact first f failed

theorem andThen_ok {o : Outcome α} {k : α → List Net → Outcome β} {b : β}
    (done : (o.andThen k).result = .ok b) : ∃ a, o.result = .ok a ∧ (k a o.nets).result = .ok b := by
  unfold andThen at done
  split at done
  · rename_i a first
    exact ⟨a, first, done⟩
  · cases done

end Outcome

/-! ### The pieces of evaluation -/

section Pieces

variable {opOk : String → Prop} {sc : Scope} {nets : List Net}

theorem connectionTargets_admitted :
    (e : Expr) → ∀ {f : CircuitFault}, connectionTargets sc nets e = .error f → f.Admitted opOk
  | .name n, f, refused => by
    unfold connectionTargets at refused
    split at refused
    · split at refused
      · cases refused
        trivial
      · cases refused
    · split at refused <;> cases refused <;> trivial
  | .array items, f, refused => by
    unfold connectionTargets at refused
    exact arrayTargets_admitted items refused
  | .numeral _, f, refused => by
    unfold connectionTargets at refused
    cases refused
    trivial
  | .binary _ _ _, f, refused => by
    unfold connectionTargets at refused
    cases refused
    trivial
where
  arrayTargets_admitted :
      (items : List Expr) → ∀ {f : CircuitFault},
        connectionTargets.arrayTargets sc nets items = .error f → f.Admitted opOk
    | [], _, refused => by cases refused
    | x :: xs, f, refused => by
      unfold connectionTargets.arrayTargets at refused
      cases first : connectionTargets sc nets x with
      | error f' =>
        simp only [first, bind, Except.bind] at refused
        cases refused
        exact connectionTargets_admitted x first
      | ok ts =>
        cases more : connectionTargets.arrayTargets sc nets xs with
        | error f' =>
          simp only [first, more, bind, Except.bind] at refused
          cases refused
          exact arrayTargets_admitted xs more
        | ok us => simp [first, more, bind, Except.bind, pure, Except.pure] at refused

theorem connectionTargets_ne_nil_of_operand :
    (x : Expr) → x.Operand → ∀ {ts : List String}, connectionTargets sc nets x = .ok ts → ts ≠ []
  | .name n, _, ts, found => by
    unfold connectionTargets at found
    split at found
    · split at found
      · cases found
      · cases found
        exact List.cons_ne_nil n []
    · split at found <;> cases found
  | .array [], operand, _, _ => absurd rfl operand.1
  | .array (x :: xs), operand, ts, found => by
    have head : x.Operand := operand.2.1
    unfold connectionTargets connectionTargets.arrayTargets at found
    cases first : connectionTargets sc nets x with
    | error f => simp [first, bind, Except.bind] at found
    | ok us =>
      cases more : connectionTargets.arrayTargets sc nets xs with
      | error f => simp [first, more, bind, Except.bind] at found
      | ok vs =>
        simp only [first, more, bind, Except.bind, pure, Except.pure, Except.ok.injEq] at found
        subst found
        exact List.append_ne_nil_of_left_ne_nil (connectionTargets_ne_nil_of_operand x head first) vs
  | .numeral _, _, _, found => by
    unfold connectionTargets at found
    cases found
  | .binary _ _ _, operand, _, _ => operand.elim

theorem connectionTargets_ne_nil {e : Expr} (formed : e.WellFormed opOk) {ts : List String}
    (found : connectionTargets sc nets e = .ok ts) : ts ≠ [] := by
  cases e with
  | binary =>
    unfold connectionTargets at found
    cases found
  | name | numeral | array => exact connectionTargets_ne_nil_of_operand _ formed found

theorem gateLanes_filled (opOk : String → Prop) (component op : String) (g : Gate) {l r : Bundle}
    (left : l ≠ [])
    (right : r ≠ []) :
    (∀ f, gateLanes component op g l r = .error f → f.Admitted opOk) ∧
      ∀ out, gateLanes component op g l r = .ok out → out ≠ [] := by
  have leftWide : 0 < l.length := List.length_pos_iff.2 left
  unfold gateLanes
  rw [if_neg (by simp [left, right])]
  split
  · exact ⟨fun f refused => (by cases refused; trivial), fun _ done => (by cases done)⟩
  · refine ⟨fun _ refused => (by cases refused), fun out done => ?_⟩
    cases done
    rw [← List.length_pos_iff, List.length_map, List.length_range]
    omega

theorem connectLanes_filled (opOk : String → Prop) (component : String) {source : Bundle}
    {targets : List String}
    (sourceLanes : source ≠ []) (someTarget : targets ≠ []) :
    (connectLanes component source targets nets).Filled opOk := by
  unfold connectLanes
  rw [if_neg (by simpa using sourceLanes), if_neg (by simpa using someTarget)]
  split
  · exact ⟨Outcome.admits_fail (by trivial) nets, fun _ done => (by cases done)⟩
  · refine ⟨fun _ refused => (by cases refused), fun v done => ?_⟩
    cases done
    simpa [drive] using someTarget

end Pieces

/-! ### Evaluation of well-formed syntax -/

/-- Every logic block that a scope finds has a well-formed body. -/
def Scope.WellFormed (opOk : String → Prop) (sc : Scope) : Prop :=
  ∀ name body, sc.lookup name = some body → Decl.AllWellFormed opOk true body

section Evaluation

variable {opOk : String → Prop} {sc : Scope} (scopeOk : sc.WellFormed opOk)

include scopeOk in
theorem evaluation_filled :
    (∀ active e nets, e.WellFormed opOk → (value sc active e nets).Filled opOk) ∧
    (∀ active items nets, (∀ x ∈ items, x.WellFormed opOk) →
      (values sc active items nets).Admits opOk ∧
        (items ≠ [] → ∀ v, (values sc active items nets).result = .ok v → v ≠ [])) ∧
    (∀ active name body found nets, (runLogic sc active name body found nets).Admits opOk) ∧
    (∀ active body last nets, Decl.AllWellFormed opOk true body →
      (runBody sc active body last nets).Admits opOk) ∧
    (∀ active items nets, (∀ x ∈ items, x.WellFormed opOk) →
      (pipeline sc active items nets).Admits opOk) ∧
    (∀ active e nets, e.WellFormed opOk → (bodyItem sc active e nets).Admits opOk) := by
  apply value.mutual_induct sc
  · intro active nets n net located _
    rw [value_name_net located]
    exact ⟨Outcome.admits_pure _ _, fun v done => by cases done; exact List.cons_ne_nil _ _⟩
  · intro active nets n missing body found ih _
    rw [value_name_logic missing found]
    refine ⟨Outcome.admits_andThen ih fun v _ => ?_, fun v done => ?_⟩
    · split
      · exact Outcome.admits_fail (by trivial) _
      · exact Outcome.admits_pure _ _
    · obtain ⟨w, _, checked⟩ := Outcome.andThen_ok done
      split at checked
      · cases checked
      · rename_i lanes
        cases checked
        simpa using lanes
  · intro active nets n missing absent _
    rw [value_name_undeclared missing absent]
    exact ⟨Outcome.admits_fail (by trivial) _, fun _ done => (by cases done)⟩
  · intro active nets digits _
    rw [value.eq_2]
    exact ⟨Outcome.admits_pure _ _, fun v done => by cases done; exact List.cons_ne_nil _ _⟩
  · intro active nets items ih formed
    rw [value.eq_3]
    have elements := ih fun x member =>
      (Expr.operands_iff.1 formed.2 x member).wellFormed opOk
    exact ⟨elements.1, elements.2 formed.1⟩
  · intro active nets lhs rhs ih formed
    obtain ⟨_, _, _, lhsFormed, rhsFormed⟩ := formed
    rw [value.eq_4, if_pos rfl]
    have source := ih lhsFormed
    refine ⟨Outcome.admits_andThen source.admits fun s done => ?_, fun v done => ?_⟩
    · split
      · rename_i targets found
        exact (connectLanes_filled opOk _ (source.nonempty s done) (connectionTargets_ne_nil rhsFormed found)).admits
      · rename_i f refused
        exact Outcome.admits_fail (connectionTargets_admitted rhs refused) _
    · obtain ⟨s, sourceDone, driven⟩ := Outcome.andThen_ok done
      split at driven
      · rename_i targets found
        exact (connectLanes_filled opOk _ (source.nonempty s sourceDone)
          (connectionTargets_ne_nil rhsFormed found)).nonempty v driven
      · cases driven
  · intro active nets op lhs rhs notConnect g gate ihl ihr formed
    obtain ⟨_, _, _, lhsFormed, rhsFormed⟩ := formed
    simp only [value.eq_4, if_neg notConnect, gate]
    have left := ihl lhsFormed
    refine ⟨Outcome.admits_andThen left.admits fun l leftDone => ?_, fun v done => ?_⟩
    · have right := ihr (value sc active lhs nets).nets rhsFormed
      refine Outcome.admits_andThen right.admits fun r rightDone => ?_
      have lanes := gateLanes_filled opOk sc.component op g (left.nonempty l leftDone)
        (right.nonempty r rightDone)
      split
      · exact Outcome.admits_pure _ _
      · rename_i f refused
        exact Outcome.admits_fail (lanes.1 f refused) _
    · obtain ⟨l, leftDone, rest⟩ := Outcome.andThen_ok done
      obtain ⟨r, rightDone, combined⟩ := Outcome.andThen_ok rest
      have lanes := gateLanes_filled opOk sc.component op g (left.nonempty l leftDone)
        ((ihr _ rhsFormed).nonempty r rightDone)
      split at combined
      · rename_i out found
        cases combined
        exact lanes.2 _ found
      · cases combined
  · intro active nets op lhs rhs notConnect unknown formed
    simp only [value.eq_4, if_neg notConnect, unknown]
    have noOperator : Keyword.isOperator op = false := by
      simp [Keyword.isOperator, Keyword.isGate, unknown, notConnect]
    exact ⟨Outcome.admits_fail (by exact ⟨formed.1, noOperator⟩) _, fun _ done => (by cases done)⟩
  · intro active nets _
    rw [values.eq_1]
    exact ⟨Outcome.admits_pure _ _, fun filled => absurd rfl filled⟩
  · intro active nets x xs ihx ihxs formed
    rw [values.eq_2]
    have first := ihx (formed x List.mem_cons_self)
    have rest := fun after => (ihxs after fun y member => formed y (List.mem_cons_of_mem x member)).1
    refine ⟨Outcome.admits_andThen first.admits fun v _ =>
      Outcome.admits_andThen (rest _) fun vs _ => Outcome.admits_pure _ _, fun _ v done => ?_⟩
    obtain ⟨w, firstDone, more⟩ := Outcome.andThen_ok done
    obtain ⟨ws, _, joined⟩ := Outcome.andThen_ok more
    cases joined
    exact List.append_ne_nil_of_left_ne_nil (first.nonempty w firstDone) ws
  · intro active name body found nets idle _ ih
    rw [runLogic.eq_1, dif_pos idle]
    exact ih (scopeOk name body found)
  · intro active name body found nets busy
    rw [runLogic.eq_1, dif_neg busy]
    exact Outcome.admits_fail (by trivial) _
  · intro active last nets _
    rw [runBody.eq_1]
    exact Outcome.admits_pure _ _
  · intro active last nets root rest ihroot ihrest formed
    rw [runBody.eq_2]
    exact Outcome.admits_andThen (ihroot formed.1.2) fun v _ => ihrest v _ formed.2
  · intro active last nets items rest ihitems ihrest formed
    rw [runBody.eq_3]
    exact Outcome.admits_andThen (ihitems formed.1) fun _ _ => ihrest _ formed.2
  · intro active last nets head rest notExpression notPipeline ih formed
    rw [runBody.eq_4 sc active last nets head rest notExpression notPipeline]
    exact ih formed.2
  · intro active nets _
    rw [pipeline.eq_1]
    exact Outcome.admits_pure _ _
  · intro active nets n rest body found ih ihrest formed
    rw [pipeline_name_logic found]
    exact Outcome.admits_andThen ih fun _ _ =>
      ihrest _ fun y member => formed y (List.mem_cons_of_mem _ member)
  · intro active nets n rest absent _
    rw [pipeline_name_missing absent]
    exact Outcome.admits_fail (by trivial) _
  · intro active nets x rest notName ih ihrest formed
    rw [pipeline.eq_3 sc active nets x rest notName]
    exact Outcome.admits_andThen (ih (formed x List.mem_cons_self)).admits fun _ _ =>
      ihrest _ fun y member => formed y (List.mem_cons_of_mem _ member)
  · intro active nets n net located _
    rw [bodyItem_name_net located]
    exact Outcome.admits_pure _ _
  · intro active nets n missing body found ih _
    rw [bodyItem_name_logic missing found]
    exact ih
  · intro active nets n missing absent _
    rw [bodyItem_name_undeclared missing absent]
    exact Outcome.admits_fail (by trivial) _
  · intro active nets other notName ih formed
    rw [bodyItem.eq_2 sc active other nets notName]
    exact (ih formed).admits

include scopeOk in
theorem passFrom_admitted (index : Nat) (pipelines : List (List Expr))
    (formed : ∀ items ∈ pipelines, ∀ x ∈ items, x.WellFormed opOk) (nets : List Net) :
    ∀ f, (passFrom sc index pipelines nets).1 = .error f → f.Admitted opOk := by
  induction pipelines generalizing index nets with
  | nil => exact fun _ done => by cases done
  | cons items rest ih =>
    have first := (evaluation_filled scopeOk).2.2.2.2.1 [] items nets (formed items List.mem_cons_self)
    intro f failed
    simp only [passFrom] at failed
    split at failed
    · exact ih (index + 1) (fun items' member => formed items' (List.mem_cons_of_mem _ member)) _ f failed
    · rename_i f' refused
      cases failed
      exact first f refused

end Evaluation

/-! ### Engines of well-formed programs -/

theorem Scope.lookup_mem {sc : Scope} {name : String} {body : List Decl}
    (found : sc.lookup name = some body) : ∃ b ∈ sc.own ++ sc.shared, b.body = body := by
  unfold Scope.lookup at found
  split at found
  · rename_i b own
    cases found
    exact ⟨b, List.mem_append_left _ (List.mem_of_find?_eq_some own), rfl⟩
  · obtain ⟨b, shared, rfl⟩ := Option.map_eq_some_iff.1 found
    exact ⟨b, List.mem_append_right _ (List.mem_of_find?_eq_some shared), rfl⟩

theorem Decl.AllWellFormed.declares {opOk : String → Prop} :
    {inLogic : Bool} → {ds : List Decl} → Decl.AllWellFormed opOk inLogic ds →
      (∀ b ∈ Decl.blocksAll ds, Decl.AllWellFormed opOk true b.body) ∧
        ∀ items ∈ Decl.pipelinesAll ds, ∀ x ∈ items, x.WellFormed opOk
  | _, [], _ => by simp [Decl.blocksAll, Decl.pipelinesAll]
  | _, .logic _ body :: _, formed => by
    have inner := declares formed.1.2
    have rest := declares formed.2
    simp only [Decl.blocksAll, Decl.blocks, Decl.pipelinesAll, Decl.pipelines, List.cons_append,
      List.nil_append, List.mem_cons, List.mem_append]
    refine ⟨?_, rest.2⟩
    rintro b (rfl | nested | later)
    · exact formed.1.2
    · exact inner.1 b nested
    · exact rest.1 b later
  | _, .global body :: _, formed => by
    have inner := declares formed.1
    have rest := declares formed.2
    simp only [Decl.blocksAll, Decl.blocks, Decl.pipelinesAll, Decl.pipelines, List.mem_append]
    exact ⟨fun b member => member.elim (inner.1 b) (rest.1 b),
      fun items member => member.elim (inner.2 items) (rest.2 items)⟩
  | _, .pipeline items :: _, formed => by
    have rest := declares formed.2
    simp only [Decl.blocksAll, Decl.blocks, Decl.pipelinesAll, Decl.pipelines, List.nil_append,
      List.cons_append, List.mem_cons]
    refine ⟨rest.1, fun items' member => ?_⟩
    rcases member with rfl | later
    · exact formed.1
    · exact rest.2 items' later
  | _, .component _ _ :: _, formed | _, .publicSection _ :: _, formed
  | _, .privateSection _ :: _, formed | _, .var _ :: _, formed | _, .expression _ :: _, formed => by
    simpa [Decl.blocksAll, Decl.blocks, Decl.pipelinesAll, Decl.pipelines] using declares formed.2

/-- An instance whose logic blocks have well-formed bodies and whose pipelines hold
well-formed expressions. -/
structure Instance.Formed (opOk : String → Prop) (inst : Instance) : Prop where
  logic : ∀ b ∈ inst.logic, Decl.AllWellFormed opOk true b.body
  pipelines : ∀ items ∈ inst.pipelines, ∀ x ∈ items, x.WellFormed opOk

/-- Every instance of an engine is formed. -/
def Engine.Formed (opOk : String → Prop) (e : Engine) : Prop :=
  ∀ s inst, e.at? s = some inst → inst.Formed opOk

section Engines

variable {opOk : String → Prop}

theorem Instance.Formed.of_layout {inst inst' : Instance} (same : inst'.layout = inst.layout)
    (formed : inst.Formed opOk) : inst'.Formed opOk := by
  simp only [Instance.layout, Prod.mk.injEq] at same
  obtain ⟨-, -, logic, pipelines⟩ := same
  constructor
  · rw [logic]
    exact formed.logic
  · rw [pipelines]
    exact formed.pipelines

theorem Instance.declaredBy_formed {inLogic : Bool} {name : String} {body : List Decl}
    (formed : Decl.AllWellFormed opOk inLogic body) : (Instance.declaredBy name body).Formed opOk :=
  ⟨formed.declares.1, formed.declares.2⟩

namespace Engine

theorem Formed.of_layout {e e' : Engine} (same : e'.layout = e.layout) (formed : e.Formed opOk) :
    e'.Formed opOk := by
  intro s inst' taken'
  have agree := layout_at? same s
  rw [taken', Option.map_some] at agree
  obtain ⟨inst, taken, laid⟩ := Option.map_eq_some_iff.1 agree.symm
  exact (formed s inst taken).of_layout laid.symm

theorem Formed.scope {e : Engine} (formed : e.Formed opOk) {s : Engine.Slot} {inst : Instance}
    (taken : e.at? s = some inst) : Scope.WellFormed opOk ⟨inst.name, inst.logic, e.sharedAt s⟩ := by
  intro name body found
  obtain ⟨b, member, rfl⟩ := Scope.lookup_mem found
  rcases List.mem_append.1 member with own | shared
  · exact (formed s inst taken).logic b own
  · cases s with
    | global => exact absurd shared List.not_mem_nil
    | component i => exact (formed .global e.global rfl).logic b shared

theorem build_formed {p : Program} {strict : Bool} {e : Engine} (formed : p.WellFormed opOk)
    (built : (build p strict).1 = .ok e) : e.Formed opOk := by
  obtain ⟨_, _, _, _, rfl⟩ := (build_eq_ok p strict e).1 built
  have each := (forall_mem_body (P := fun d => d.WellFormed opOk false)).1
    (Decl.allWellFormed_iff.1 formed)
  intro s inst taken
  cases s with
  | global =>
    cases taken
    exact Instance.declaredBy_formed (Decl.allWellFormed_iff.2 each.2)
  | component i =>
    obtain ⟨c, member, rfl⟩ := List.mem_map.1 (List.mem_of_getElem? taken)
    exact Instance.declaredBy_formed (each.1 c member).2

theorem formed_of_build {p : Program} {strict : Bool} {built e : Engine} (formed : p.WellFormed opOk)
    (builds : (build p strict).1 = .ok built) (same : e.layout = built.layout) :
    e.Formed opOk ∧ e.Distinct :=
  ⟨(build_formed formed builds).of_layout same, Distinct.of_layout same (build_distinct builds)⟩

theorem evaluateAt_admitted {e : Engine} (formed : e.Formed opOk) (s : Engine.Slot) :
    ∀ f, (e.evaluateAt s).1 = .error f → f.Admitted opOk := by
  intro f failed
  cases taken : e.at? s with
  | none =>
    rw [evaluateAt_of_none taken] at failed
    cases failed
  | some inst =>
    rw [evaluateAt_of_at? taken] at failed
    exact passFrom_admitted (formed.scope taken) 0 inst.pipelines (formed s inst taken).pipelines
      inst.nets f failed

theorem evaluateAll_admitted {e : Engine} (formed : e.Formed opOk) (distinct : e.Distinct)
    (slots : List Engine.Slot) : ∀ f, (e.evaluateAll slots).1 = .error f → f.Admitted opOk := by
  induction slots generalizing e with
  | nil => exact fun _ failed => by cases failed
  | cons s rest ih =>
    -- the engine after one slot has the layout it had, so it is formed and distinct again
    have kept := evaluateAt_keeps distinct s
    intro f failed
    simp only [evaluateAll] at failed
    split at failed
    · rename_i f' refused
      cases failed
      exact evaluateAt_admitted formed s f refused
    · exact ih (formed.of_layout kept.layout) (kept.distinct distinct) f failed

theorem firstUndriven_admitted {e : Engine} {f : CircuitFault} (found : e.firstUndriven = some f) :
    f.Admitted opOk := by
  unfold firstUndriven at found
  obtain ⟨inst, -, undriven⟩ := List.mem_flatMap.1 (List.mem_of_mem_head? found)
  obtain ⟨n, -, rfl⟩ := List.mem_map.1 undriven
  trivial

theorem run_admitted {e : Engine} (formed : e.Formed opOk) (distinct : e.Distinct) :
    ∀ f, e.run.1 = .error f → f.Admitted opOk := by
  intro f failed
  simp only [run] at failed
  split at failed
  · rename_i f' refused
    cases failed
    exact evaluateAll_admitted formed distinct e.slots f refused
  · split at failed
    · rename_i f' undriven
      cases failed
      split at undriven
      · exact firstUndriven_admitted undriven
      · cases undriven
    · cases failed

end Engine

end Engines

theorem Program.compile_wellFormed {label : String} {src : List UInt8} {p : Program}
    (compiled : Program.compile label src = .ok p) : p.WellFormed fun op => Keyword.isOperator op = true := by
  unfold Program.compile tokenize at compiled
  cases scanned : scan src with
  | error f => simp [scanned, Except.map] at compiled
  | ok toks =>
    simp only [scanned, Except.map] at compiled
    split at compiled
    · rename_i p' parsed
      cases compiled
      unfold Program.parse at parsed
      split at parsed
      · rename_i body read
        cases parsed
        have fits : ∀ u ∈ Token.classifyAll (Token.classifyAll toks), u.KindFits :=
          Token.kindFits_classifyAll (Token.kindFits_classifyAll fun t member operator =>
            absurd operator (scan_kind scanned t member))
        exact Parse.topDecls_wellFormed (fun o member => fits o member) read
      · cases parsed
    · cases compiled

/-- Evaluation never meets an empty bundle in an engine built from a parsed program, nor in any
engine with that layout, which covers every state that setting inputs and running take it to:
no fault of evaluating a slot or of a run is about an empty operand, source or target, and an
expression that evaluates has a lane. When the program was compiled from a source, no such fault
is about an unknown operator either. -/
theorem evaluation_never_empty :
    (∀ (label : String) (ts : List Token) (p : Program) (strict : Bool) (built e : Engine),
      Program.parse label ts = .ok p → (Engine.build p strict).1 = .ok built →
        e.layout = built.layout →
          (∀ s f, (e.evaluateAt s).1 = .error f → ¬f.EmptyBundle) ∧
          (∀ f, e.run.1 = .error f → ¬f.EmptyBundle) ∧
          ∀ s inst, e.at? s = some inst → ∀ x : Expr, x.WellFormed (fun _ => True) →
            ∀ active nets v,
              (value ⟨inst.name, inst.logic, e.sharedAt s⟩ active x nets).result = .ok v → v ≠ []) ∧
    (∀ (label : String) (src : List UInt8) (p : Program) (strict : Bool) (built e : Engine),
      Program.compile label src = .ok p → (Engine.build p strict).1 = .ok built →
        e.layout = built.layout →
          (∀ s f, (e.evaluateAt s).1 = .error f → ¬f.EmptyBundle ∧ ¬f.UnknownOperator) ∧
          (∀ f, e.run.1 = .error f → ¬f.EmptyBundle ∧ ¬f.UnknownOperator)) := by
  constructor
  · intro label ts p strict built e parsed builds same
    obtain ⟨formed, distinct⟩ := Engine.formed_of_build (Program.parse_formed parsed) builds same
    refine ⟨fun s f failed => (Engine.evaluateAt_admitted formed s f failed).not_emptyBundle,
      fun f failed => (Engine.run_admitted formed distinct f failed).not_emptyBundle,
      fun s inst taken x wellFormed active nets v done => ?_⟩
    exact ((evaluation_filled (formed.scope taken)).1 active x nets wellFormed).nonempty v done
  · intro label src p strict built e compiled builds same
    obtain ⟨formed, distinct⟩ := Engine.formed_of_build (Program.compile_wellFormed compiled) builds same
    have known : ∀ f : CircuitFault, f.Admitted (fun op => Keyword.isOperator op = true) →
        ¬f.EmptyBundle ∧ ¬f.UnknownOperator :=
      fun f admitted => ⟨admitted.not_emptyBundle, admitted.not_unknownOperator fun _ word => word⟩
    exact ⟨fun s f failed => known f (Engine.evaluateAt_admitted formed s f failed),
      fun f failed => known f (Engine.run_admitted formed distinct f failed)⟩

/-- A program with input `a`, output `b` and the pipeline `a and a => b`. -/
def andSelfProgram : Program :=
  ⟨[.var ⟨"a", .input⟩, .var ⟨"b", .output⟩,
    .pipeline [.binary "=>" (.binary "and" (.name "a") (.name "a")) (.name "b")]]⟩

/-- The source `a : input b : output pipeline { a and a => b , }` of `andSelfProgram`. -/
def andSelfSource : List UInt8 :=
  [97, 32, 58, 32, 105, 110, 112, 117, 116, 32, 98, 32, 58, 32, 111, 117, 116, 112, 117, 116, 32, 112, 105,
    112, 101, 108, 105, 110, 101, 32, 123, 32, 97, 32, 97, 110, 100, 32, 97, 32, 61, 62, 32, 98, 32, 44, 32,
    125]

/-- The tokens of `andSelfSource`. -/
def andSelfTokens : List Token :=
  [⟨.text, "a", ⟨0, 1, 0⟩⟩, ⟨.text, ":", ⟨2, 1, 2⟩⟩, ⟨.text, "input", ⟨4, 1, 4⟩⟩, ⟨.text, "b", ⟨10, 1, 10⟩⟩,
    ⟨.text, ":", ⟨12, 1, 12⟩⟩, ⟨.text, "output", ⟨14, 1, 14⟩⟩, ⟨.text, "pipeline", ⟨21, 1, 21⟩⟩,
    ⟨.brace, "\x7b", ⟨30, 1, 30⟩⟩, ⟨.text, "a", ⟨32, 1, 32⟩⟩, ⟨.text, "and", ⟨34, 1, 34⟩⟩,
    ⟨.text, "a", ⟨38, 1, 38⟩⟩, ⟨.text, "=>", ⟨40, 1, 40⟩⟩, ⟨.text, "b", ⟨43, 1, 43⟩⟩,
    ⟨.text, ",", ⟨45, 1, 45⟩⟩, ⟨.brace, "\x7d", ⟨47, 1, 47⟩⟩]

def andSelfEngine (level : Level) : Engine :=
  ⟨[], ⟨globalName, [⟨"a", .input, level⟩, ⟨"b", .output, .z⟩], [],
    [[.binary "=>" (.binary "and" (.name "a") (.name "a")) (.name "b")]]⟩, false⟩

/-- The program is read both from its tokens and from its source, and its engine builds; with
the input set high, evaluation meets no empty bundle and no unknown operator. -/
theorem buffer_never_empty :
    Program.parse "demo" andSelfTokens = .ok andSelfProgram ∧
    Program.compile "demo" andSelfSource = .ok andSelfProgram ∧
    (Engine.build andSelfProgram false).1 = .ok (andSelfEngine .z) ∧
    (∀ f, ((andSelfEngine .high).evaluateAt .global).1 = .error f → ¬f.EmptyBundle) ∧
    ∀ f, (andSelfEngine .high).run.1 = .error f → ¬f.EmptyBundle ∧ ¬f.UnknownOperator := by
  have parsed : Program.parse "demo" andSelfTokens = .ok andSelfProgram := by
    simp +decide [andSelfTokens, andSelfProgram, Program.parse, Token.classifyAll, Token.classify,
      Parse.topDecls_cons, Parse.topDecls_nil, Parse.read_decl_cons, Parse.read_operand_cons, Parse.read_literal,
      Parse.dropComma, BlockKeyword.ofWord?, Parse.read_variableAt, Parse.read_block_pipeline, Parse.bracedRead,
      Parse.read_pipelineItems_cons, Datatype.ofWord?, Except.map, Chain.group, Chain.pushAll, Chain.push,
      Chain.reduceWhile]
  have compiled : Program.compile "demo" andSelfSource = .ok andSelfProgram := by
    simp +decide [andSelfSource, andSelfProgram, Program.compile, tokenize, scan, scanFrom, ByteClass.ofByte,
      ByteClass.isLetter, ByteClass.isPunctuation, punctuationTokens, punctuationPieces, pieceTokens, asciiText,
      Program.parse, Token.classifyAll, Token.classify, Parse.topDecls_cons, Parse.topDecls_nil,
      Parse.read_decl_cons, Parse.read_operand_cons, Parse.read_literal, Parse.dropComma, BlockKeyword.ofWord?,
      Parse.read_variableAt, Parse.read_block_pipeline, Parse.bracedRead, Parse.read_pipelineItems_cons,
      Datatype.ofWord?, Except.map, Chain.group, Chain.pushAll, Chain.push, Chain.reduceWhile]
  have built : (Engine.build andSelfProgram false).1 = .ok (andSelfEngine .z) := rfl
  refine ⟨parsed, compiled, built, (evaluation_never_empty.1 _ _ _ _ _ _ parsed built ?_).1 .global,
    (evaluation_never_empty.2 _ _ _ _ _ _ compiled built ?_).2⟩
  · rfl
  · rfl

end Circuitry
