import Circuitry.Proofs.Simulation.Frame

/-!
# Two evaluations in step

Evaluation branches on names, roles, the widths of bundles and whether a bundle is empty; it
never branches on a level. Two evaluations of one instance from nets that differ only in their
levels therefore take the same branches: they end with the same result and write the same nets
in the same order. What they read, compute and write then stands level by level in any relation
that holds of every level with itself and that every gate carries from its inputs to its output
(a `Coupling`), provided the levels they start from stand in it.

Two couplings give the main statements. Relating any two levels, `evaluation_level_blind`: the
result of a pass and the nets it drives do not depend on the levels at all, and with strict
outputs off neither does whether a run fails. Relating the undriven level to every level
(`Level.Below`), `Instance.evaluate_monotone`: driving undriven nets before a pass never changes
a level that the pass leaves driven.
-/

namespace Circuitry

/-! ### The branches of evaluation on a name

`value`, `bodyItem` and `pipeline` look a name up with a dependent match; these equations give
each branch on its own, so that proofs rewrite by them and do not split the match. -/

section Branches

variable {sc : Scope} {active : List String} {nets : List Net} {n : String} {body : List Decl}

theorem value_name_net {net : Net} (located : Net.find? nets n = some net) :
    value sc active (.name n) nets = .pure [net.level] nets := by
  rw [value.eq_1, located]

theorem value_name_logic (missing : Net.find? nets n = none) (found : sc.lookup n = some body) :
    value sc active (.name n) nets =
      (runLogic sc active n body found nets).andThen fun v after =>
        if v.isEmpty then .fail (.reference sc.component n .noValue) after else .pure v after := by
  simp only [value.eq_1, missing]
  split
  · rename_i body' found'
    obtain rfl : body' = body := Option.some.inj (found'.symm.trans found)
    rfl
  · rename_i absent
    simp [absent] at found

theorem value_name_undeclared (missing : Net.find? nets n = none) (absent : sc.lookup n = none) :
    value sc active (.name n) nets = .fail (.reference sc.component n .undeclared) nets := by
  simp only [value.eq_1, missing]
  split
  · rename_i body' found'
    simp [absent] at found'
  · rfl

theorem bodyItem_name_net {net : Net} (located : Net.find? nets n = some net) :
    bodyItem sc active (.name n) nets = .pure [net.level] nets := by
  rw [bodyItem.eq_1, located]

theorem bodyItem_name_logic (missing : Net.find? nets n = none) (found : sc.lookup n = some body) :
    bodyItem sc active (.name n) nets = runLogic sc active n body found nets := by
  simp only [bodyItem.eq_1, missing]
  split
  · rename_i body' found'
    obtain rfl : body' = body := Option.some.inj (found'.symm.trans found)
    rfl
  · rename_i absent
    simp [absent] at found

theorem bodyItem_name_undeclared (missing : Net.find? nets n = none) (absent : sc.lookup n = none) :
    bodyItem sc active (.name n) nets = .fail (.reference sc.component n .undeclared) nets := by
  simp only [bodyItem.eq_1, missing]
  split
  · rename_i body' found'
    simp [absent] at found'
  · rfl

theorem pipeline_name_logic {rest : List Expr} (found : sc.lookup n = some body) :
    pipeline sc active (.name n :: rest) nets =
      (runLogic sc active n body found nets).andThen fun _ after => pipeline sc active rest after := by
  rw [pipeline.eq_2]
  split
  · rename_i body' found'
    obtain rfl : body' = body := Option.some.inj (found'.symm.trans found)
    rfl
  · rename_i absent
    simp [absent] at found

theorem pipeline_name_missing {rest : List Expr} (absent : sc.lookup n = none) :
    pipeline sc active (.name n :: rest) nets = .fail (.reference sc.component n .notLogicBlock) nets := by
  rw [pipeline.eq_2]
  split
  · rename_i body' found'
    simp [absent] at found'
  · rfl

end Branches

/-! ### Couplings -/

/-- A relation between the levels of two evaluations that holds of every level with itself and
that every gate carries from its inputs to its output. -/
structure Coupling where
  rel : Level → Level → Prop
  refl : ∀ a, rel a a
  gate : ∀ (g : Gate) {a a' b b' : Level}, rel a a' → rel b b' → rel (g.apply a b) (g.apply a' b')

/-- The definedness order on levels: the undriven level is below every level, and every level is
below itself. -/
def Level.Below (a b : Level) : Prop := a = .z ∨ a = b

@[simp] theorem Gate.apply_z_left (g : Gate) (b : Level) : g.apply .z b = .z := by
  simp [Gate.apply]

@[simp] theorem Gate.apply_z_right (g : Gate) (a : Level) : g.apply a .z = .z := by
  simp [Gate.apply]

theorem Gate.apply_below (g : Gate) {a a' b b' : Level} (left : a.Below a') (right : b.Below b') :
    (g.apply a b).Below (g.apply a' b') := by
  rcases left with rfl | rfl
  · exact .inl (g.apply_z_left b)
  · rcases right with rfl | rfl
    · exact .inl (g.apply_z_right a)
    · exact .inr rfl

namespace Coupling

/-- Any two levels: evaluations whose levels may differ arbitrarily. -/
def any : Coupling := ⟨fun _ _ => True, fun _ => trivial, fun _ {_ _ _ _} _ _ => trivial⟩

/-- The definedness order: the second evaluation starts from the first with undriven nets driven. -/
def below : Coupling := ⟨Level.Below, fun _ => .inr rfl, fun g {_ _ _ _} left right => g.apply_below left right⟩

variable (R : Coupling)

/-- Two nets with the same name and role and related levels. -/
def NetPair (n n' : Net) : Prop := n'.name = n.name ∧ n'.role = n.role ∧ R.rel n.level n'.level

/-- Two lists of nets, net by net. -/
def Nets (nets nets' : List Net) : Prop := List.Forall₂ R.NetPair nets nets'

/-- Two bundles, lane by lane. -/
def Lanes (b b' : Bundle) : Prop := List.Forall₂ R.rel b b'

/-- Two sequences of writes: the same nets in the same order, driven to related levels. -/
def Writes (ws ws' : List (String × Level)) : Prop :=
  List.Forall₂ (fun w w' => w'.1 = w.1 ∧ R.rel w.2 w'.2) ws ws'

/-- Two pass events: the same pipeline starting, or the same net driven to related levels. -/
def Events : PassEvent → PassEvent → Prop
  | .pipelineStart index items, .pipelineStart index' items' => index' = index ∧ items' = items
  | .driven net level, .driven net' level' => net' = net ∧ R.rel level level'
  | _, _ => False

end Coupling

def Outcome.ResultRel (V : α → α → Prop) : Except CircuitFault α → Except CircuitFault α → Prop
  | .error f, .error f' => f' = f
  | .ok a, .ok a' => V a a'
  | _, _ => False

theorem Outcome.ResultRel.eq_of_unit {r r' : Except CircuitFault Unit}
    (related : Outcome.ResultRel (fun _ _ => True) r r') : r' = r := by
  rcases r with f | ⟨⟩ <;> rcases r' with f' | ⟨⟩
  · exact congrArg Except.error related
  · exact related.elim
  · exact related.elim
  · rfl

/-- Two outcomes in step: the same fault or related values, nets in step after, and writes to
the same nets in the same order. -/
structure Coupling.Outcomes (R : Coupling) (V : α → α → Prop) (o o' : Outcome α) : Prop where
  result : Outcome.ResultRel V o.result o'.result
  nets : R.Nets o.nets o'.nets
  writes : R.Writes o.writes o'.writes

namespace Coupling

variable {R : Coupling}

theorem Lanes.length_eq {b b' : Bundle} (lanes : R.Lanes b b') : b'.length = b.length :=
  (List.Forall₂.length_eq lanes).symm

theorem Lanes.isEmpty_eq {b b' : Bundle} (lanes : R.Lanes b b') : b'.isEmpty = b.isEmpty := by
  cases lanes <;> rfl

theorem Lanes.getD {b b' : Bundle} (lanes : R.Lanes b b') (i : Nat) :
    R.rel (b.getD i .z) (b'.getD i .z) := by
  induction lanes generalizing i with
  | nil => exact R.refl _
  | cons head _ ih =>
    cases i with
    | zero => exact head
    | succ i => exact ih i

theorem Lanes.pick {b b' : Bundle} (lanes : R.Lanes b b') (i : Nat) :
    R.rel (b.pick i) (b'.pick i) := by
  cases lanes with
  | nil => exact R.refl _
  | cons head tail =>
    cases tail with
    | nil => exact head
    | cons head' tail' => exact Lanes.getD (.cons head (.cons head' tail')) i

theorem Nets.find? {nets nets' : List Net} (coupled : R.Nets nets nets') (name : String) :
    Option.Rel R.NetPair (Net.find? nets name) (Net.find? nets' name) := by
  induction coupled with
  | nil => exact .none
  | @cons n n' _ _ pair _ ih =>
    simp only [Net.find?, List.find?_cons, pair.1] at ih ⊢
    split
    · exact .some pair
    · exact ih

theorem Nets.find?_some {nets nets' : List Net} {name : String} {net : Net}
    (coupled : R.Nets nets nets') (located : Net.find? nets name = some net) :
    ∃ net', Net.find? nets' name = some net' ∧ R.NetPair net net' := by
  have related := coupled.find? name
  rw [located] at related
  cases located' : Net.find? nets' name with
  | none =>
    rw [located'] at related
    cases related
  | some net' =>
    rw [located', Option.rel_some_some] at related
    exact ⟨net', rfl, related⟩

theorem Nets.find?_none {nets nets' : List Net} {name : String} (coupled : R.Nets nets nets')
    (missing : Net.find? nets name = none) : Net.find? nets' name = none := by
  have related := coupled.find? name
  rw [missing] at related
  cases located' : Net.find? nets' name with
  | none => rfl
  | some net' =>
    rw [located'] at related
    cases related

theorem Nets.set {nets nets' : List Net} (coupled : R.Nets nets nets') (name : String) {l l' : Level}
    (levels : R.rel l l') : R.Nets (Net.set nets name l) (Net.set nets' name l') := by
  induction coupled with
  | nil => exact .nil
  | @cons n n' _ _ pair _ ih =>
    refine .cons ?_ ih
    simp only [pair.1]
    by_cases named : n.name = name
    · simp only [named, beq_self_eq_true, if_true]
      exact ⟨rfl, pair.2.1, levels⟩
    · simp only [named, beq_iff_eq, if_false]
      exact pair

theorem Nets.replay {nets nets' : List Net} {ws ws' : List (String × Level)}
    (coupled : R.Nets nets nets') (writes : R.Writes ws ws') :
    R.Nets (Net.replay nets ws) (Net.replay nets' ws') := by
  induction writes generalizing nets nets' with
  | nil => exact coupled
  | @cons w w' _ _ pair _ ih =>
    have first : R.Nets (Net.set nets w.1 w.2) (Net.set nets' w'.1 w'.2) := by
      rw [pair.1]
      exact coupled.set w.1 pair.2
    exact ih first

theorem Nets.plan {nets nets' : List Net} (coupled : R.Nets nets nets') :
    nets'.map (fun n => (n.name, n.role)) = nets.map fun n => (n.name, n.role) := by
  induction coupled with
  | nil => rfl
  | cons pair _ ih => simp [pair.1, pair.2.1, ih]

theorem nets_any_of_plan {nets nets' : List Net}
    (same : nets'.map (fun n => (n.name, n.role)) = nets.map fun n => (n.name, n.role)) :
    any.Nets nets nets' := by
  induction nets generalizing nets' with
  | nil =>
    rw [List.map_nil, List.map_eq_nil_iff] at same
    subst same
    exact .nil
  | cons n rest ih =>
    cases nets' with
    | nil => cases same
    | cons n' rest' =>
      simp only [List.map_cons, List.cons.injEq, Prod.mk.injEq] at same
      exact .cons ⟨same.1.1, same.1.2, trivial⟩ (ih same.2)

theorem Writes.lanes {ws ws' : List (String × Level)} (writes : R.Writes ws ws') :
    R.Lanes (ws.map (·.2)) (ws'.map (·.2)) := by
  unfold Lanes
  rw [List.forall₂_map_left_iff, List.forall₂_map_right_iff]
  exact writes.imp fun _ _ pair => pair.2

namespace Outcomes

variable {V : α → α → Prop}

theorem pure {a a' : α} {nets nets' : List Net} (values : V a a') (coupled : R.Nets nets nets') :
    R.Outcomes V (.pure a nets) (.pure a' nets') :=
  ⟨values, coupled, .nil⟩

theorem fail (f : CircuitFault) {nets nets' : List Net} (coupled : R.Nets nets nets') :
    R.Outcomes V (.fail f nets) (.fail f nets') :=
  ⟨rfl, coupled, .nil⟩

theorem andThen {W : β → β → Prop} {o o' : Outcome α} {k k' : α → List Net → Outcome β}
    (first : R.Outcomes V o o')
    (next : ∀ a a' after after', V a a' → R.Nets after after' → R.Outcomes W (k a after) (k' a' after')) :
    R.Outcomes W (o.andThen k) (o'.andThen k') := by
  obtain ⟨result, nets, writes⟩ := first
  rcases o with ⟨_ | a, after, ws⟩ <;> rcases o' with ⟨_ | a', after', ws'⟩
  · exact ⟨result, nets, writes⟩
  · exact result.elim
  · exact result.elim
  · have later := next a a' after after' result nets
    exact ⟨later.result, later.nets, List.rel_append writes later.writes⟩

end Outcomes

end Coupling

/-! ### The pieces of evaluation in step -/

namespace Coupling

variable {R : Coupling}

theorem connectionTargets_eq (sc : Scope) {nets nets' : List Net} (coupled : R.Nets nets nets') :
    (e : Expr) → connectionTargets sc nets' e = connectionTargets sc nets e
  | .name n => by
    unfold connectionTargets
    cases located : Net.find? nets n with
    | none => rw [coupled.find?_none located]
    | some net =>
      obtain ⟨net', located', pair⟩ := coupled.find?_some located
      simp only [located', pair.2.1]
  | .array items => by
    unfold connectionTargets
    exact arrayTargets_eq sc coupled items
  | .numeral _ => by unfold connectionTargets; rfl
  | .binary _ _ _ => by unfold connectionTargets; rfl
where
  arrayTargets_eq (sc : Scope) {nets nets' : List Net} (coupled : R.Nets nets nets') :
      (items : List Expr) →
        connectionTargets.arrayTargets sc nets' items = connectionTargets.arrayTargets sc nets items
    | [] => rfl
    | x :: xs => by
      unfold connectionTargets.arrayTargets
      rw [connectionTargets_eq sc coupled x, arrayTargets_eq sc coupled xs]

theorem gateLanes_coupled (component op : String) (g : Gate) {l l' r r' : Bundle}
    (left : R.Lanes l l') (right : R.Lanes r r') :
    Outcome.ResultRel R.Lanes (gateLanes component op g l r) (gateLanes component op g l' r') := by
  unfold gateLanes
  rw [left.isEmpty_eq, right.isEmpty_eq, left.length_eq, right.length_eq]
  split
  · exact rfl
  · split
    · exact rfl
    · show List.Forall₂ R.rel _ _
      rw [List.forall₂_map_left_iff, List.forall₂_map_right_iff, List.forall₂_same]
      intro i _
      exact R.gate g (left.pick i) (right.pick i)

theorem connectLanes_coupled (component : String) (targets : List String) {s s' : Bundle}
    {nets nets' : List Net} (source : R.Lanes s s') (coupled : R.Nets nets nets') :
    R.Outcomes R.Lanes (connectLanes component s targets nets) (connectLanes component s' targets nets') := by
  have writes : R.Writes (targets.zipIdx.map fun w => (w.1, s.pick w.2))
      (targets.zipIdx.map fun w => (w.1, s'.pick w.2)) := by
    unfold Writes
    rw [List.forall₂_map_left_iff, List.forall₂_map_right_iff, List.forall₂_same]
    intro target _
    exact ⟨rfl, source.pick target.2⟩
  unfold connectLanes
  rw [source.isEmpty_eq, source.length_eq]
  split
  · exact .fail _ coupled
  · split
    · exact .fail _ coupled
    · split
      · exact .fail _ coupled
      · exact ⟨writes.lanes, coupled.replay writes, writes⟩

end Coupling

/-! ### Evaluation in step -/

section Evaluation

variable (R : Coupling) (sc : Scope)

/-- Running `run` from nets in step with `nets` gives outcomes in step, with values related by
`V`. -/
abbrev CoupledFrom (V : α → α → Prop) (run : List Net → Outcome α) (nets : List Net) : Prop :=
  ∀ nets', R.Nets nets nets' → R.Outcomes V (run nets) (run nets')

theorem evaluation_coupled :
    (∀ active e nets, CoupledFrom R R.Lanes (value sc active e) nets) ∧
    (∀ active items nets, CoupledFrom R R.Lanes (values sc active items) nets) ∧
    (∀ active name body found nets, CoupledFrom R R.Lanes (runLogic sc active name body found) nets) ∧
    (∀ active body last nets, ∀ last' nets', R.Lanes last last' → R.Nets nets nets' →
      R.Outcomes R.Lanes (runBody sc active body last nets) (runBody sc active body last' nets')) ∧
    (∀ active items nets, CoupledFrom R (fun _ _ => True) (pipeline sc active items) nets) ∧
    (∀ active e nets, CoupledFrom R R.Lanes (bodyItem sc active e) nets) := by
  apply value.mutual_induct sc
  · intro active nets n net located nets' coupled
    obtain ⟨net', located', pair⟩ := coupled.find?_some located
    rw [value_name_net located, value_name_net located']
    exact .pure (.cons pair.2.2 .nil) coupled
  · intro active nets n missing body found ih nets' coupled
    rw [value_name_logic missing found, value_name_logic (coupled.find?_none missing) found]
    refine (ih nets' coupled).andThen fun v v' after after' lanes coupledAfter => ?_
    rw [lanes.isEmpty_eq]
    split
    · exact .fail _ coupledAfter
    · exact .pure lanes coupledAfter
  · intro active nets n missing absent nets' coupled
    rw [value_name_undeclared missing absent, value_name_undeclared (coupled.find?_none missing) absent]
    exact .fail _ coupled
  · intro active nets digits nets' coupled
    rw [value.eq_2, value.eq_2]
    exact .pure (.cons (R.refl _) .nil) coupled
  · intro active nets items ih nets' coupled
    rw [value.eq_3, value.eq_3]
    exact ih nets' coupled
  · intro active nets lhs rhs ih nets' coupled
    rw [value.eq_4, value.eq_4, if_pos rfl, if_pos rfl]
    refine (ih nets' coupled).andThen fun source source' after after' lanes coupledAfter => ?_
    rw [Coupling.connectionTargets_eq sc coupledAfter rhs]
    split
    · exact Coupling.connectLanes_coupled _ _ lanes coupledAfter
    · exact .fail _ coupledAfter
  · intro active nets op lhs rhs notConnect g gate ihl ihr nets' coupled
    simp only [value.eq_4, if_neg notConnect, gate]
    refine (ihl nets' coupled).andThen fun l l' after after' left coupledAfter => ?_
    refine (ihr after after' coupledAfter).andThen fun r r' after2 after2' right coupledAfter2 => ?_
    have lanes := Coupling.gateLanes_coupled sc.component op g left right
    revert lanes
    generalize gateLanes sc.component op g l r = out
    generalize gateLanes sc.component op g l' r' = out'
    intro lanes
    cases out <;> cases out'
    · cases lanes
      exact .fail _ coupledAfter2
    · exact lanes.elim
    · exact lanes.elim
    · exact .pure lanes coupledAfter2
  · intro active nets op lhs rhs notConnect unknown nets' coupled
    simp only [value.eq_4, if_neg notConnect, unknown]
    exact .fail _ coupled
  · intro active nets nets' coupled
    rw [values.eq_1, values.eq_1]
    exact .pure .nil coupled
  · intro active nets x xs ihx ihxs nets' coupled
    rw [values.eq_2, values.eq_2]
    refine (ihx nets' coupled).andThen fun v v' after after' lanes coupledAfter => ?_
    refine (ihxs after after' coupledAfter).andThen fun vs vs' after2 after2' rest coupledAfter2 => ?_
    exact .pure (List.rel_append lanes rest) coupledAfter2
  · intro active name body found nets idle _ ih nets' coupled
    rw [runLogic.eq_1, runLogic.eq_1, dif_pos idle, dif_pos idle]
    exact ih [] nets' .nil coupled
  · intro active name body found nets busy nets' coupled
    rw [runLogic.eq_1, runLogic.eq_1, dif_neg busy, dif_neg busy]
    exact .fail _ coupled
  · intro active last nets last' nets' lanes coupled
    rw [runBody.eq_1, runBody.eq_1]
    exact .pure lanes coupled
  · intro active last nets root rest ihroot ihrest last' nets' lanes coupled
    rw [runBody.eq_2, runBody.eq_2]
    refine (ihroot nets' coupled).andThen fun v v' after after' value coupledAfter => ?_
    have rest := ihrest v after
    rw [value.isEmpty_eq]
    by_cases empty : v.isEmpty = true
    · rw [dif_pos empty] at rest
      rw [if_pos empty, if_pos empty]
      exact rest last' after' lanes coupledAfter
    · rw [dif_neg empty] at rest
      rw [if_neg empty, if_neg empty]
      exact rest v' after' value coupledAfter
  · intro active last nets items rest ihitems ihrest last' nets' lanes coupled
    rw [runBody.eq_3, runBody.eq_3]
    exact (ihitems nets' coupled).andThen fun _ _ after after' _ coupledAfter =>
      ihrest after last' after' lanes coupledAfter
  · intro active last nets head rest notExpression notPipeline ih last' nets' lanes coupled
    rw [runBody.eq_4 sc active last nets head rest notExpression notPipeline,
      runBody.eq_4 sc active last' nets' head rest notExpression notPipeline]
    exact ih last' nets' lanes coupled
  · intro active nets nets' coupled
    rw [pipeline.eq_1, pipeline.eq_1]
    exact .pure trivial coupled
  · intro active nets n rest body found ih ihrest nets' coupled
    rw [pipeline_name_logic found, pipeline_name_logic found]
    exact (ih nets' coupled).andThen fun _ _ after after' _ coupledAfter => ihrest after after' coupledAfter
  · intro active nets n rest absent nets' coupled
    rw [pipeline_name_missing absent, pipeline_name_missing absent]
    exact .fail _ coupled
  · intro active nets x rest notName ih ihrest nets' coupled
    rw [pipeline.eq_3 sc active nets x rest notName, pipeline.eq_3 sc active nets' x rest notName]
    exact (ih nets' coupled).andThen fun _ _ after after' _ coupledAfter => ihrest after after' coupledAfter
  · intro active nets n net located nets' coupled
    obtain ⟨net', located', pair⟩ := coupled.find?_some located
    rw [bodyItem_name_net located, bodyItem_name_net located']
    exact .pure (.cons pair.2.2 .nil) coupled
  · intro active nets n missing body found ih nets' coupled
    rw [bodyItem_name_logic missing found, bodyItem_name_logic (coupled.find?_none missing) found]
    exact ih nets' coupled
  · intro active nets n missing absent nets' coupled
    rw [bodyItem_name_undeclared missing absent,
      bodyItem_name_undeclared (coupled.find?_none missing) absent]
    exact .fail _ coupled
  · intro active nets other notName ih nets' coupled
    rw [bodyItem.eq_2 sc active other nets notName, bodyItem.eq_2 sc active other nets' notName]
    exact ih nets' coupled

theorem passFrom_coupled (index : Nat) (pipelines : List (List Expr)) {nets nets' : List Net}
    (coupled : R.Nets nets nets') :
    (passFrom sc index pipelines nets').1 = (passFrom sc index pipelines nets).1 ∧
      R.Nets (passFrom sc index pipelines nets).2.1 (passFrom sc index pipelines nets').2.1 ∧
      List.Forall₂ R.Events (passFrom sc index pipelines nets).2.2 (passFrom sc index pipelines nets').2.2 := by
  induction pipelines generalizing index nets nets' with
  | nil => exact ⟨rfl, coupled, .nil⟩
  | cons items rest ih =>
    have first := (evaluation_coupled R sc).2.2.2.2.1 [] items nets nets' coupled
    have events : List.Forall₂ R.Events
        (.pipelineStart index items.length ::
          (pipeline sc [] items nets).writes.map fun w => .driven w.1 w.2)
        (.pipelineStart index items.length ::
          (pipeline sc [] items nets').writes.map fun w => .driven w.1 w.2) := by
      refine .cons ⟨rfl, rfl⟩ ?_
      rw [List.forall₂_map_left_iff, List.forall₂_map_right_iff]
      exact first.writes.imp fun _ _ pair => pair
    simp only [passFrom]
    rw [first.result.eq_of_unit]
    cases (pipeline sc [] items nets).result with
    | error f => exact ⟨rfl, first.nets, events⟩
    | ok u =>
      obtain ⟨result, after, more⟩ := ih (index + 1) first.nets
      exact ⟨result, after, List.rel_append events more⟩

end Evaluation

/-! ### Instances and engines in step -/

/-- Two instances in step: the same name, logic blocks and pipelines, and nets in step. -/
structure Coupling.Instances (R : Coupling) (inst inst' : Instance) : Prop where
  name : inst'.name = inst.name
  logic : inst'.logic = inst.logic
  pipelines : inst'.pipelines = inst.pipelines
  nets : R.Nets inst.nets inst'.nets

theorem Instance.evaluate_coupled (R : Coupling) (shared : List LogicBlock) {inst inst' : Instance}
    (coupled : R.Instances inst inst') :
    (inst'.evaluate shared).1 = (inst.evaluate shared).1 ∧
      R.Instances (inst.evaluate shared).2.1 (inst'.evaluate shared).2.1 ∧
      List.Forall₂ R.Events (inst.evaluate shared).2.2 (inst'.evaluate shared).2.2 := by
  obtain ⟨result, nets, events⟩ :=
    passFrom_coupled R ⟨inst.name, inst.logic, shared⟩ 0 inst.pipelines coupled.nets
  simp only [Instance.evaluate, coupled.name, coupled.logic, coupled.pipelines]
  exact ⟨result, ⟨rfl, rfl, rfl, nets⟩, events⟩

/-- Two engines in step: the same strictness, and in each slot no instance on either side or
instances in step. -/
structure Coupling.Engines (R : Coupling) (e e' : Engine) : Prop where
  strict : e'.strict = e.strict
  slots : ∀ s, Option.Rel R.Instances (e.at? s) (e'.at? s)

namespace Coupling

variable {R : Coupling} {e e' : Engine}

theorem Instances.layout {inst inst' : Instance} (coupled : R.Instances inst inst') :
    inst'.layout = inst.layout := by
  simp only [Instance.layout, coupled.name, coupled.logic, coupled.pipelines, coupled.nets.plan]

theorem instances_any_of_layout {inst inst' : Instance} (same : inst'.layout = inst.layout) :
    any.Instances inst inst' := by
  simp only [Instance.layout, Prod.mk.injEq] at same
  exact ⟨same.1, same.2.2.1, same.2.2.2, nets_any_of_plan same.2.1⟩

theorem engines_any_of_layout (same : e'.layout = e.layout) : any.Engines e e' := by
  have strict : e'.strict = e.strict := by
    simp only [Engine.layout, Prod.mk.injEq] at same
    exact same.2.2
  refine ⟨strict, fun s => ?_⟩
  have slots := Engine.layout_at? same s
  cases taken : e.at? s with
  | none =>
    rw [taken, Option.map_none, Option.map_eq_none_iff] at slots
    rw [slots]
    exact .none
  | some inst =>
    rw [taken, Option.map_some, Option.map_eq_some_iff] at slots
    obtain ⟨inst', taken', laid⟩ := slots
    rw [taken']
    exact .some (instances_any_of_layout laid)

theorem Engines.sharedAt (coupled : R.Engines e e') (s : Engine.Slot) : e'.sharedAt s = e.sharedAt s := by
  cases s with
  | global => rfl
  | component i =>
    have global := coupled.slots .global
    simp only [Engine.at?, Option.rel_some_some] at global
    exact global.logic

theorem Engines.put (coupled : R.Engines e e') (s : Engine.Slot) {inst inst' : Instance}
    (pair : R.Instances inst inst') (taken : (e.at? s).isSome) :
    R.Engines (e.put s inst) (e'.put s inst') := by
  have strict : ∀ (x : Engine) (a : Instance), (x.put s a).strict = x.strict := by
    intro x a
    cases s <;> rfl
  refine ⟨by rw [strict, strict, coupled.strict], fun t => ?_⟩
  by_cases same : t = s
  · subst same
    have taken' : (e'.at? t).isSome := by
      have slot := coupled.slots t
      revert taken slot
      cases e.at? t <;> cases e'.at? t <;> simp
    rw [Engine.at?_put_self e t inst taken, Engine.at?_put_self e' t inst' taken']
    exact .some pair
  · rw [Engine.at?_put_of_ne e inst (Ne.symm same), Engine.at?_put_of_ne e' inst' (Ne.symm same)]
    exact coupled.slots t

theorem Engines.evaluateAt (coupled : R.Engines e e') (s : Engine.Slot) :
    (e'.evaluateAt s).1 = (e.evaluateAt s).1 ∧ R.Engines (e.evaluateAt s).2.1 (e'.evaluateAt s).2.1 := by
  have slot := coupled.slots s
  cases taken : e.at? s with
  | none =>
    rw [taken] at slot
    cases taken' : e'.at? s with
    | none =>
      rw [Engine.evaluateAt_of_none taken, Engine.evaluateAt_of_none taken']
      exact ⟨rfl, coupled⟩
    | some _ =>
      rw [taken'] at slot
      cases slot
  | some inst =>
    rw [taken] at slot
    cases taken' : e'.at? s with
    | none =>
      rw [taken'] at slot
      cases slot
    | some inst' =>
      rw [taken', Option.rel_some_some] at slot
      obtain ⟨result, pair, _⟩ := Instance.evaluate_coupled R (e.sharedAt s) slot
      rw [Engine.evaluateAt_of_at? taken, Engine.evaluateAt_of_at? taken', coupled.sharedAt s]
      exact ⟨result, coupled.put s pair (by simp [taken])⟩

theorem Engines.evaluateAll (coupled : R.Engines e e') (slots : List Engine.Slot) :
    (e'.evaluateAll slots).1 = (e.evaluateAll slots).1 ∧
      R.Engines (e.evaluateAll slots).2.1 (e'.evaluateAll slots).2.1 := by
  induction slots generalizing e e' with
  | nil => exact ⟨rfl, coupled⟩
  | cons s rest ih =>
    obtain ⟨result, after⟩ := coupled.evaluateAt s
    simp only [Engine.evaluateAll]
    rw [result]
    cases (e.evaluateAt s).1 with
    | error f => exact ⟨rfl, after⟩
    | ok u => exact ih after

theorem Engines.slots_eq (coupled : R.Engines e e') : e'.slots = e.slots := by
  have length : e'.components.length = e.components.length := by
    rcases Nat.lt_trichotomy e'.components.length e.components.length with shorter | same | longer
    · have slot := coupled.slots (.component e'.components.length)
      simp only [Engine.at?, List.getElem?_eq_getElem shorter, List.getElem?_eq_none (Nat.le_refl _)] at slot
      cases slot
    · exact same
    · have slot := coupled.slots (.component e.components.length)
      simp only [Engine.at?, List.getElem?_eq_getElem longer, List.getElem?_eq_none (Nat.le_refl _)] at slot
      cases slot
  simp only [Engine.slots, length]

end Coupling

theorem Engine.evaluateAll_strict (e : Engine) (slots : List Engine.Slot) :
    (e.evaluateAll slots).2.1.strict = e.strict := by
  induction slots generalizing e with
  | nil => rfl
  | cons s rest ih =>
    have first := Engine.evaluateAt_strict e s
    simp only [Engine.evaluateAll]
    split
    · exact first
    · rw [ih, first]

theorem Engine.run_result_of_lenient (e : Engine) (lenient : e.strict = false) :
    e.run.1 = (e.evaluateAll e.slots).1 := by
  have strict := Engine.evaluateAll_strict e e.slots
  simp only [Engine.run]
  split
  · rename_i f failed
    exact failed.symm
  · rename_i done
    rw [strict, lenient]
    exact done.symm

/-! ### Evaluation does not look at levels -/

/-- What a pass event records besides a level: the pipeline that starts, or the net that is
driven. -/
inductive PassSite
  | pipelineStart (index items : Nat)
  | driven (net : String)
deriving DecidableEq, Repr

/-- The site of a pass event. -/
def PassEvent.site : PassEvent → PassSite
  | .pipelineStart index items => .pipelineStart index items
  | .driven net _ => .driven net

theorem Coupling.events_site {R : Coupling} {events events' : List PassEvent}
    (coupled : List.Forall₂ R.Events events events') :
    events'.map PassEvent.site = events.map PassEvent.site := by
  induction coupled with
  | nil => rfl
  | @cons event event' _ _ pair _ ih =>
    rw [List.map_cons, List.map_cons, ih]
    cases event <;> cases event' <;> simp_all [Coupling.Events, PassEvent.site]

/-- Evaluation never looks at a level. Two evaluations of an instance from any two assignments
of levels to its nets end with the same result, start the same pipelines and drive the same
nets in the same order, and leave instances of one layout; and with strict outputs off, whether
a run fails depends on the engine's layout alone: every state of an engine fails a run alike. -/
theorem evaluation_level_blind :
    (∀ (inst inst' : Instance) (shared : List LogicBlock), inst'.layout = inst.layout →
      (inst'.evaluate shared).1 = (inst.evaluate shared).1 ∧
        (inst'.evaluate shared).2.2.map PassEvent.site = (inst.evaluate shared).2.2.map PassEvent.site ∧
        (inst'.evaluate shared).2.1.layout = (inst.evaluate shared).2.1.layout) ∧
    (∀ e e' : Engine, e'.layout = e.layout → e.strict = false → e'.run.1 = e.run.1) := by
  refine ⟨fun inst inst' shared same => ?_, fun e e' same lenient => ?_⟩
  · obtain ⟨result, after, events⟩ :=
      Instance.evaluate_coupled Coupling.any shared (Coupling.instances_any_of_layout same)
    exact ⟨result, Coupling.events_site events, after.layout⟩
  · have coupled := Coupling.engines_any_of_layout same
    have lenient' : e'.strict = false := coupled.strict.trans lenient
    rw [Engine.run_result_of_lenient e' lenient', Engine.run_result_of_lenient e lenient,
      coupled.slots_eq]
    exact (coupled.evaluateAll e.slots).1

/-- A buffer evaluated with its input low and its output high, and with its input high and its
output undriven: the same nets are driven in the same order, and runs of the two engines fail
alike. -/
theorem buffer_level_blind :
    (Engine.bufferAt .low .high).layout = (Engine.bufferAt .high .z).layout ∧
    ((Engine.bufferAt .low .high).evaluate []).2.2.map PassEvent.site =
      ((Engine.bufferAt .high .z).evaluate []).2.2.map PassEvent.site ∧
    (Engine.bufferEngine .low .high).run.1 = (Engine.bufferEngine .high .z).run.1 := by
  refine ⟨rfl, (evaluation_level_blind.1 _ _ [] ?_).2.1, evaluation_level_blind.2 _ _ ?_ rfl⟩
  · rfl
  · rfl

/-- Evaluation is monotone in definedness. Two evaluations of an instance, the second from the
first's levels with some undriven nets driven, end with the same result, and every net is again
at most as driven after the first as after the second: a net that the first leaves high or low
has that level after the second too. -/
theorem Instance.evaluate_monotone {inst inst' : Instance} (shared : List LogicBlock)
    (below : Coupling.below.Instances inst inst') :
    (inst'.evaluate shared).1 = (inst.evaluate shared).1 ∧
      Coupling.below.Instances (inst.evaluate shared).2.1 (inst'.evaluate shared).2.1 := by
  obtain ⟨result, after, _⟩ := Instance.evaluate_coupled Coupling.below shared below
  exact ⟨result, after⟩

/-- A buffer evaluated with its input undriven and with its input high. -/
theorem buffer_evaluation_monotone :
    Coupling.below.Instances (Engine.bufferAt .z .z) (Engine.bufferAt .high .z) ∧
      Coupling.below.Instances ((Engine.bufferAt .z .z).evaluate []).2.1
        ((Engine.bufferAt .high .z).evaluate []).2.1 :=
  have below : Coupling.below.Instances (Engine.bufferAt .z .z) (Engine.bufferAt .high .z) :=
    ⟨rfl, rfl, rfl, .cons ⟨rfl, rfl, .inl rfl⟩ (.cons ⟨rfl, rfl, .inl rfl⟩ .nil)⟩
  ⟨below, (Instance.evaluate_monotone [] below).2⟩

end Circuitry
