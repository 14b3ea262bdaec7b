import Circuitry.Proofs.Simulation.Trace

/-!
# Combinational passes

A pass is well ordered when its trace drives each net at most once and never reads a net
before driving it. Every level such a pass reads is then an input, a net the pass never drives,
or a level the pass itself drove earlier from what it read before; so what a pass leaves behind
is fixed by the levels of the nets it never drives, and in particular by the inputs, which no
pass drives.

The argument is relational. Two runs start from nets that agree off the nets still to be
driven; a read sees a net that nothing drives after it, hence the same level on both sides; a
write drives one net to the same level on both sides, which cleans its name. The only property
of the trace this uses is that no read is followed by a write of the same net
(`Access.ReadsSettled`). Main statement, `Instance.evaluate_combinational`: for a well-ordered
instance the state after a pass is determined, evaluation is idempotent, and a pass after
setting inputs ends as a pass from the state before the first pass with those inputs set.
-/

namespace Circuitry

/-- No read of the trace is followed, in the trace or in the nets `later` names, by a write of the
net it read. -/
def Access.ReadsSettled : List Access → List String → Prop
  | [], _ => True
  | a :: rest, later => (∀ n, a = .read n → n ∉ Access.written rest ++ later) ∧ Access.ReadsSettled rest later

/-- A well-ordered trace drives each net at most once and never reads a net before driving it. -/
structure Access.WellOrdered (trace : List Access) : Prop where
  once : (Access.written trace).Nodup
  readsAfter : trace.Pairwise fun a b => ∀ n, a = .read n → b ≠ .write n

namespace Access

theorem readsSettled_append (t u : List Access) (later : List String) :
    ReadsSettled (t ++ u) later ↔ ReadsSettled t (written u ++ later) ∧ ReadsSettled u later := by
  induction t with
  | nil => simp [ReadsSettled]
  | cons a rest ih =>
    rw [List.cons_append, ReadsSettled, ReadsSettled, ih, written_append, List.append_assoc, and_assoc]

theorem mem_written {n : String} {t : List Access} : n ∈ written t ↔ Access.write n ∈ t := by
  unfold written
  rw [List.mem_filterMap]
  constructor
  · rintro ⟨a, member, driven⟩
    cases a <;> simp_all [driven?]
  · intro member
    exact ⟨_, member, rfl⟩

theorem WellOrdered.readsSettled {t : List Access} (ordered : WellOrdered t) : ReadsSettled t [] := by
  have pairwise := ordered.readsAfter
  clear ordered
  induction t with
  | nil => trivial
  | cons a rest ih =>
    rw [List.pairwise_cons] at pairwise
    refine ⟨fun n read member => ?_, ih pairwise.2⟩
    rw [List.append_nil, mem_written] at member
    exact pairwise.1 _ member n read rfl

end Access

/-! ### Two outcomes alike -/

namespace Outcome

/-- Two outcomes alike: the same result and the same writes, and nets that agree off `later`. -/
structure Alike (later : List String) (o o' : Outcome α) : Prop where
  result : o'.result = o.result
  writes : o'.writes = o.writes
  nets : Net.AgreeOff later o.nets o'.nets

variable {later : List String}

theorem Alike.pure (a : α) {nets nets' : List Net} (agree : Net.AgreeOff later nets nets') :
    Alike later (.pure a nets) (.pure a nets') :=
  ⟨rfl, rfl, agree⟩

theorem Alike.fail (f : CircuitFault) {nets nets' : List Net} (agree : Net.AgreeOff later nets nets') :
    Alike later (.fail f nets : Outcome α) (.fail f nets') :=
  ⟨rfl, rfl, agree⟩

theorem Alike.andThen {o o' : Outcome α} {k : α → List Net → Outcome β} {kt : α → List Net → List Access}
    (first : Alike (Access.written (o.traceThen kt) ++ later) o o')
    (settled : Access.ReadsSettled (o.traceThen kt) later)
    (next : ∀ a, o.result = .ok a → Access.ReadsSettled (kt a o.nets) later → ∀ after',
      Net.AgreeOff (Access.written (kt a o.nets) ++ later) o.nets after' → Alike later (k a o.nets) (k a after')) :
    Alike later (o.andThen k) (o'.andThen k) := by
  cases done : o.result with
  | ok a =>
    rw [traceThen_of_ok done] at first settled
    have rest := next a done settled o'.nets first.nets
    rw [andThen_of_ok done, andThen_of_ok (first.result.trans done), first.writes]
    exact ⟨rest.result, by rw [rest.writes], rest.nets⟩
  | error f =>
    rw [traceThen_of_error done, Access.written_nil, List.nil_append] at first
    rw [andThen_of_error done, andThen_of_error (first.result.trans done)]
    exact ⟨rfl, first.writes, first.nets⟩

theorem Alike.andThen_quiet {o o' : Outcome α} {k : α → List Net → Outcome β} (first : Alike later o o')
    (next : ∀ a, o.result = .ok a → ∀ after', Net.AgreeOff later o.nets after' → Alike later (k a o.nets) (k a after')) :
    Alike later (o.andThen k) (o'.andThen k) := by
  have silent : Alike (Access.written (o.traceThen fun _ _ => []) ++ later) o o' := by
    rwa [traceThen_nil, Access.written_nil, List.nil_append]
  refine Alike.andThen silent ?_ fun a done _ after' agree => next a done after' ?_
  · rw [traceThen_nil]
    trivial
  · rwa [Access.written_nil, List.nil_append] at agree

end Outcome

/-! ### Two passes alike -/

section Evaluation

variable (sc : Scope)

/-- Running `run`, whose trace from `nets` is `trace`, from nets that agree with `nets` off the
nets the trace drives and the nets `later` names, where no read of the trace is followed by a
write of what it read: outcomes alike off `later`. -/
abbrev AlikeFrom (run : List Net → Outcome α) (trace : List Access) (nets : List Net) : Prop :=
  ∀ later nets', Net.AgreeOff (Access.written trace ++ later) nets nets' → Access.ReadsSettled trace later →
    (run nets).Alike later (run nets')

theorem alike_split {t u : List Access} {later : List String} {nets nets' : List Net}
    (agree : Net.AgreeOff (Access.written (t ++ u) ++ later) nets nets') (settled : Access.ReadsSettled (t ++ u) later) :
    Net.AgreeOff (Access.written t ++ (Access.written u ++ later)) nets nets' ∧
      Access.ReadsSettled t (Access.written u ++ later) ∧ Access.ReadsSettled u later := by
  rw [Access.written_append, List.append_assoc] at agree
  exact ⟨agree, (Access.readsSettled_append t u later).1 settled⟩

theorem evaluation_alike :
    (∀ active e nets, AlikeFrom (value sc active e) (valueTrace sc active e nets) nets) ∧
    (∀ active items nets, AlikeFrom (values sc active items) (valuesTrace sc active items nets) nets) ∧
    (∀ active name body found nets,
      AlikeFrom (runLogic sc active name body found) (runLogicTrace sc active name body found nets) nets) ∧
    (∀ active body last nets, AlikeFrom (runBody sc active body last) (runBodyTrace sc active body nets) nets) ∧
    (∀ active items nets, AlikeFrom (pipeline sc active items) (pipelineTrace sc active items nets) nets) ∧
    (∀ active e nets, AlikeFrom (bodyItem sc active e) (bodyItemTrace sc active e nets) nets) := by
  apply value.mutual_induct sc
  · intro active nets n net located later nets' agree settled
    rw [valueTrace_name_net located] at agree settled
    have clean : n ∉ later := settled.1 n rfl
    rw [Access.written_read, Access.written_nil, List.nil_append] at agree
    rw [value_name_net located, value_name_net ((agree.find?_eq clean).trans located)]
    exact .pure _ agree
  · intro active nets n missing body found ih later nets' agree settled
    rw [valueTrace_name_logic missing found] at agree settled
    rw [value_name_logic missing found, value_name_logic (agree.any.find?_none missing) found]
    refine (ih later nets' agree settled).andThen_quiet fun v _ after' agreeAfter => ?_
    split
    · exact .fail _ agreeAfter
    · exact .pure _ agreeAfter
  · intro active nets n missing absent later nets' agree _
    rw [valueTrace_name_undeclared missing absent, Access.written_nil, List.nil_append] at agree
    rw [value_name_undeclared missing absent, value_name_undeclared (agree.any.find?_none missing) absent]
    exact .fail _ agree
  · intro active nets digits later nets' agree _
    rw [valueTrace.eq_2, Access.written_nil, List.nil_append] at agree
    rw [value.eq_2, value.eq_2]
    exact .pure _ agree
  · intro active nets items ih later nets' agree settled
    rw [valueTrace.eq_3] at agree settled
    rw [value.eq_3, value.eq_3]
    exact ih later nets' agree settled
  · intro active nets lhs rhs ih later nets' agree settled
    rw [valueTrace.eq_4, if_pos rfl] at agree settled
    obtain ⟨agree, settledLhs, settledRest⟩ := alike_split agree settled
    rw [value.eq_4, value.eq_4, if_pos rfl, if_pos rfl]
    refine (ih _ nets' agree settledLhs).andThen settledRest fun source _ _ after' agreeAfter => ?_
    rw [Coupling.connectionTargets_eq sc agreeAfter.any rhs]
    cases resolved : connectionTargets sc (value sc active lhs nets).nets rhs with
    | ok targets =>
      rw [resolved] at agreeAfter
      dsimp only at agreeAfter ⊢
      rw [Access.written_map_write, connectLanes_eq _ _ _ (value sc active lhs nets).nets] at agreeAfter
      rw [connectLanes_eq _ _ _ (value sc active lhs nets).nets, connectLanes_eq _ _ _ after']
      exact ⟨rfl, rfl, agreeAfter.replay_both⟩
    | error f => exact .fail _ (by simpa [resolved] using agreeAfter)
  · intro active nets op lhs rhs notConnect g gate ihl ihr later nets' agree settled
    simp only [valueTrace.eq_4, if_neg notConnect, gate] at agree settled
    obtain ⟨agree, settledLhs, settledRest⟩ := alike_split agree settled
    simp only [value.eq_4, if_neg notConnect, gate]
    refine (ihl _ nets' agree settledLhs).andThen settledRest fun l _ settledRhs after' agreeAfter => ?_
    refine (ihr _ later after' agreeAfter settledRhs).andThen_quiet fun r _ after2' agree2 => ?_
    split
    · exact .pure _ agree2
    · exact .fail _ agree2
  · intro active nets op lhs rhs notConnect unknown later nets' agree _
    simp only [valueTrace.eq_4, if_neg notConnect, unknown, Access.written_nil, List.nil_append] at agree
    simp only [value.eq_4, if_neg notConnect, unknown]
    exact .fail _ agree
  · intro active nets later nets' agree _
    rw [valuesTrace.eq_1, Access.written_nil, List.nil_append] at agree
    rw [values.eq_1, values.eq_1]
    exact .pure _ agree
  · intro active nets x xs ihx ihxs later nets' agree settled
    rw [valuesTrace.eq_2] at agree settled
    obtain ⟨agree, settledX, settledRest⟩ := alike_split agree settled
    rw [values.eq_2, values.eq_2]
    refine (ihx _ nets' agree settledX).andThen settledRest fun v _ settledXs after' agreeAfter => ?_
    exact (ihxs _ later after' agreeAfter settledXs).andThen_quiet fun vs _ after2' agree2 => .pure _ agree2
  · intro active name body found nets idle _ ih later nets' agree settled
    rw [runLogicTrace.eq_1, dif_pos idle] at agree settled
    rw [Access.written_append, Access.written_enter, Access.written_leave, Access.written_nil,
      List.append_nil] at agree
    rw [Access.readsSettled_append, Access.written_leave, Access.written_nil, List.nil_append] at settled
    rw [runLogic.eq_1, runLogic.eq_1, dif_pos idle, dif_pos idle]
    exact ih later nets' agree settled.1.2
  · intro active name body found nets busy later nets' agree _
    rw [runLogicTrace.eq_1, dif_neg busy, Access.written_nil, List.nil_append] at agree
    rw [runLogic.eq_1, runLogic.eq_1, dif_neg busy, dif_neg busy]
    exact .fail _ agree
  · intro active last nets later nets' agree _
    rw [runBodyTrace.eq_1, Access.written_nil, List.nil_append] at agree
    rw [runBody.eq_1, runBody.eq_1]
    exact .pure _ agree
  · intro active last nets root rest ihroot ihrest later nets' agree settled
    rw [runBodyTrace.eq_2] at agree settled
    obtain ⟨agree, settledRoot, settledRest⟩ := alike_split agree settled
    rw [runBody.eq_2, runBody.eq_2]
    exact (ihroot _ nets' agree settledRoot).andThen settledRest fun v _ settledBody after' agreeAfter =>
      ihrest v _ later after' agreeAfter settledBody
  · intro active last nets items rest ihitems ihrest later nets' agree settled
    rw [runBodyTrace.eq_3] at agree settled
    obtain ⟨agree, settledItems, settledRest⟩ := alike_split agree settled
    rw [runBody.eq_3, runBody.eq_3]
    exact (ihitems _ nets' agree settledItems).andThen settledRest fun _ _ settledBody after' agreeAfter =>
      ihrest _ later after' agreeAfter settledBody
  · intro active last nets head rest notExpression notPipeline ih later nets' agree settled
    rw [runBodyTrace.eq_4 sc active nets head rest notExpression notPipeline] at agree settled
    rw [runBody.eq_4 sc active last nets head rest notExpression notPipeline,
      runBody.eq_4 sc active last nets' head rest notExpression notPipeline]
    exact ih later nets' agree settled
  · intro active nets later nets' agree _
    rw [pipelineTrace.eq_1, Access.written_nil, List.nil_append] at agree
    rw [pipeline.eq_1, pipeline.eq_1]
    exact .pure _ agree
  · intro active nets n rest body found ih ihrest later nets' agree settled
    rw [pipelineTrace_name_logic found] at agree settled
    obtain ⟨agree, settledBlock, settledRest⟩ := alike_split agree settled
    rw [pipeline_name_logic found, pipeline_name_logic found]
    exact (ih _ nets' agree settledBlock).andThen settledRest fun _ _ settledItems after' agreeAfter =>
      ihrest _ later after' agreeAfter settledItems
  · intro active nets n rest absent later nets' agree _
    rw [pipelineTrace_name_missing absent, Access.written_nil, List.nil_append] at agree
    rw [pipeline_name_missing absent, pipeline_name_missing absent]
    exact .fail _ agree
  · intro active nets x rest notName ih ihrest later nets' agree settled
    rw [pipelineTrace.eq_3 sc active nets x rest notName] at agree settled
    obtain ⟨agree, settledX, settledRest⟩ := alike_split agree settled
    rw [pipeline.eq_3 sc active nets x rest notName, pipeline.eq_3 sc active nets' x rest notName]
    exact (ih _ nets' agree settledX).andThen settledRest fun _ _ settledItems after' agreeAfter =>
      ihrest _ later after' agreeAfter settledItems
  · intro active nets n net located later nets' agree settled
    rw [bodyItemTrace_name_net located] at agree settled
    have clean : n ∉ later := settled.1 n rfl
    rw [Access.written_read, Access.written_nil, List.nil_append] at agree
    rw [bodyItem_name_net located, bodyItem_name_net ((agree.find?_eq clean).trans located)]
    exact .pure _ agree
  · intro active nets n missing body found ih later nets' agree settled
    rw [bodyItemTrace_name_logic missing found] at agree settled
    rw [bodyItem_name_logic missing found, bodyItem_name_logic (agree.any.find?_none missing) found]
    exact ih later nets' agree settled
  · intro active nets n missing absent later nets' agree _
    rw [bodyItemTrace_name_undeclared missing absent, Access.written_nil, List.nil_append] at agree
    rw [bodyItem_name_undeclared missing absent, bodyItem_name_undeclared (agree.any.find?_none missing) absent]
    exact .fail _ agree
  · intro active nets other notName ih later nets' agree settled
    rw [bodyItemTrace.eq_2 sc active other nets notName] at agree settled
    rw [bodyItem.eq_2 sc active other nets notName, bodyItem.eq_2 sc active other nets' notName]
    exact ih later nets' agree settled

theorem passFrom_alike (index : Nat) (pipelines : List (List Expr)) {later : List String}
    {nets nets' : List Net} (agree : Net.AgreeOff (Access.written (passTrace sc pipelines nets) ++ later) nets nets')
    (settled : Access.ReadsSettled (passTrace sc pipelines nets) later) :
    (passFrom sc index pipelines nets').1 = (passFrom sc index pipelines nets).1 ∧
      (passFrom sc index pipelines nets').2.2 = (passFrom sc index pipelines nets).2.2 ∧
      Net.AgreeOff later (passFrom sc index pipelines nets).2.1 (passFrom sc index pipelines nets').2.1 := by
  induction pipelines generalizing index nets nets' with
  | nil =>
    rw [passTrace, Access.written_nil, List.nil_append] at agree
    exact ⟨rfl, rfl, agree⟩
  | cons items rest ih =>
    rw [passTrace] at agree settled
    obtain ⟨agree, settledItems, settledRest⟩ := alike_split agree settled
    have first := (evaluation_alike sc).2.2.2.2.1 [] items nets _ nets' agree settledItems
    simp only [passFrom]
    rw [first.result, first.writes]
    cases done : (pipeline sc [] items nets).result with
    | ok u =>
      rw [Outcome.traceThen_of_ok done] at first settledRest
      obtain ⟨result, events, after⟩ := ih (index + 1) first.nets settledRest
      exact ⟨result, by rw [events], after⟩
    | error f =>
      rw [Outcome.traceThen_of_error done, Access.written_nil, List.nil_append] at first
      exact ⟨rfl, rfl, first.nets⟩

end Evaluation

/-! ### Instances -/

theorem Instance.evaluate_eq (inst : Instance) (shared : List LogicBlock) :
    inst.evaluate shared =
      ((passFrom ⟨inst.name, inst.logic, shared⟩ 0 inst.pipelines inst.nets).1,
        { inst with nets := (passFrom ⟨inst.name, inst.logic, shared⟩ 0 inst.pipelines inst.nets).2.1 },
        (passFrom ⟨inst.name, inst.logic, shared⟩ 0 inst.pipelines inst.nets).2.2) :=
  rfl

theorem Instance.evaluate_of_agreeOff {inst : Instance} {shared : List LogicBlock} {nets' : List Net}
    (settled : Access.ReadsSettled (inst.trace shared) [])
    (agree : Net.AgreeOff (Access.written (inst.trace shared)) inst.nets nets') :
    ({ inst with nets := nets' } : Instance).evaluate shared = inst.evaluate shared := by
  rw [← List.append_nil (Access.written _)] at agree
  obtain ⟨result, events, after⟩ := passFrom_alike ⟨inst.name, inst.logic, shared⟩ 0 inst.pipelines agree settled
  rw [Instance.evaluate_eq, Instance.evaluate_eq]
  dsimp only
  rw [result, events, after.eq_of_nil]

theorem Instance.setInput_eq_ok {inst : Instance} {name : String} {level : Level} {next : Instance}
    (set : inst.setInput name level = .ok next) :
    ∃ n, Net.find? inst.nets name = some n ∧ n.role = .input ∧ next = inst.setNet name level := by
  unfold Instance.setInput at set
  split at set
  · rename_i n located
    split at set
    · rename_i input
      cases set
      exact ⟨n, located, input, rfl⟩
    · cases set
  · cases set

theorem Engine.setInputs_agreeOff {dirty : List String} {inst : Instance} {nets' : List Net}
    (agree : Net.AgreeOff dirty inst.nets nets') (inputs : List (String × Level)) {ready : Instance}
    (set : (Engine.setInputs inst inputs).1 = .ok ready) :
    ∃ nets'', (Engine.setInputs { inst with nets := nets' } inputs).1 = .ok { ready with nets := nets'' } ∧
      Net.AgreeOff dirty ready.nets nets'' := by
  induction inputs generalizing inst nets' with
  | nil =>
    cases set
    exact ⟨nets', rfl, agree⟩
  | cons input rest ih =>
    obtain ⟨name, level⟩ := input
    cases setting : inst.setInput name level with
    | error f => simp [Engine.setInputs, setting] at set
    | ok next =>
      obtain ⟨n, located, input, rfl⟩ := Instance.setInput_eq_ok setting
      obtain ⟨n', located', pair⟩ := agree.any.find?_some located
      have setting' : ({ inst with nets := nets' } : Instance).setInput name level =
          .ok { inst with nets := Net.set nets' name level } := by
        unfold Instance.setInput
        rw [located']
        dsimp only
        rw [if_pos (pair.2.1.trans input)]
        rfl
      have agreeSet : Net.AgreeOff dirty (Net.set inst.nets name level) (Net.set nets' name level) :=
        (agree.mono fun m member => List.mem_cons_of_mem name member).set_both level
      rw [Engine.setInputs, setting] at set
      obtain ⟨nets'', result, after⟩ := ih (show Net.AgreeOff dirty (inst.setNet name level).nets _ from agreeSet) set
      exact ⟨nets'', by rw [Engine.setInputs, setting']; exact result, after⟩

/-- A well-ordered pass is combinational. Let the trace of evaluating an instance drive each net
at most once and never read a net before driving it. Then the state a pass leaves depends only on
the levels of the nets the trace never drives, the inputs among them: from any state that
agrees with the instance there, evaluation gives the same result, state and events. Evaluation
is idempotent: evaluating again gives the same result, state and events. And setting inputs and
evaluating gives the same whether or not the instance was evaluated before the inputs were
set, so a run after setting inputs ends as a run on a fresh instance with those inputs. -/
theorem Instance.evaluate_combinational (inst : Instance) (shared : List LogicBlock)
    (ordered : Access.WellOrdered (inst.trace shared)) :
    (∀ nets', Net.AgreeOff (Access.written (inst.trace shared)) inst.nets nets' →
      ({ inst with nets := nets' } : Instance).evaluate shared = inst.evaluate shared) ∧
    (inst.evaluate shared).2.1.evaluate shared = inst.evaluate shared ∧
    (∀ (inputs : List (String × Level)) ready, (Engine.setInputs inst inputs).1 = .ok ready →
      ∃ ready', (Engine.setInputs (inst.evaluate shared).2.1 inputs).1 = .ok ready' ∧
        ready'.evaluate shared = ready.evaluate shared) := by
  have settled := ordered.readsSettled
  have determined : ∀ nets', Net.AgreeOff (Access.written (inst.trace shared)) inst.nets nets' →
      ({ inst with nets := nets' } : Instance).evaluate shared = inst.evaluate shared :=
    fun nets' agree => Instance.evaluate_of_agreeOff settled agree
  obtain ⟨shape, confined⟩ := Instance.evaluate_confined inst shared
  refine ⟨determined, ?_, fun inputs ready set => ?_⟩
  · rw [shape]
    exact determined _ confined
  · obtain ⟨nets'', set', agree⟩ := Engine.setInputs_agreeOff confined inputs set
    have sameTrace : ready.trace shared = inst.trace shared :=
      Instance.trace_eq_of_layout shared ((Engine.setInputs_layout inst inputs).1 ready set)
    refine ⟨{ ready with nets := nets'' }, by rw [shape]; exact set', ?_⟩
    rw [← sameTrace] at settled agree
    exact Instance.evaluate_of_agreeOff settled agree

/-- An and gate whose output wire `w` is copied on to `y`. -/
def gateThenCopy : Instance :=
  ⟨"gate", [⟨"a", .input, .high⟩, ⟨"b", .input, .low⟩, ⟨"w", .internal, .z⟩, ⟨"y", .output, .z⟩], [],
    [[.binary "=>" (.binary "and" (.name "a") (.name "b")) (.name "w"), .binary "=>" (.name "w") (.name "y")]]⟩

/-- The pass reads the wire only after driving it, so its trace is well ordered. -/
theorem gate_then_copy_combinational :
    Access.WellOrdered (gateThenCopy.trace []) ∧
    (∀ nets', Net.AgreeOff (Access.written (gateThenCopy.trace [])) gateThenCopy.nets nets' →
      ({ gateThenCopy with nets := nets' } : Instance).evaluate [] = gateThenCopy.evaluate []) ∧
    (gateThenCopy.evaluate []).2.1.evaluate [] = gateThenCopy.evaluate [] ∧
    (∀ (inputs : List (String × Level)) ready, (Engine.setInputs gateThenCopy inputs).1 = .ok ready →
      ∃ ready', (Engine.setInputs (gateThenCopy.evaluate []).2.1 inputs).1 = .ok ready' ∧
        ready'.evaluate [] = ready.evaluate []) := by
  have traced : gateThenCopy.trace [] = [.read "a", .read "b", .write "w", .read "w", .write "y"] := by
    simp [gateThenCopy, Instance.trace, passTrace, pipelineTrace, pipeline, valueTrace, value,
      Outcome.traceThen, Outcome.pure, Outcome.andThen, gateLanes, Gate.ofWord?, Net.replay, Net.set,
      connectionTargets, connectLanes, Net.find?, drive, connectWord, Bundle.pick]
  have ordered : Access.WellOrdered (gateThenCopy.trace []) := by
    rw [traced]
    exact ⟨by decide, by simp⟩
  exact ⟨ordered, Instance.evaluate_combinational _ [] ordered⟩

end Circuitry
