import Circuitry.Proofs.Simulation.Trace

/-!
# The debug records replay an evaluation

Every evaluation function returns the writes it made in order beside the nets after it, and
the nets after it are always the nets before with those writes made again, one after another,
by net name (`evaluation_replays`): whether it finished or stopped at a fault, no net changes
but by a write it reports, and every write it reports is made once, in its place. A pass turns
the writes of each pipeline into `driven` events, and the engine turns each event into a debug
record naming the instance. So a journal that keeps debug records holds, among them, one
`signal driven` record per write in order, and replaying those records on the instance's nets
before the evaluation gives the engine after it (`evaluateAt_driven_replay`).
-/

namespace Circuitry

theorem Net.replay_append (nets : List Net) (ws ws' : List (String × Level)) :
    Net.replay nets (ws ++ ws') = Net.replay (Net.replay nets ws) ws' :=
  List.foldl_append

namespace Outcome

/-- An outcome from `nets` whose nets are `nets` with its writes made again, in order. -/
def Replays (o : Outcome α) (nets : List Net) : Prop := o.nets = Net.replay nets o.writes

theorem Replays.quiet {o : Outcome α} {nets : List Net} (same : o.nets = nets) (silent : o.writes = []) :
    o.Replays nets := by
  rw [Replays, same, silent]
  rfl

theorem Replays.andThen {o : Outcome α} {k : α → List Net → Outcome β} {nets : List Net}
    (first : o.Replays nets) (next : ∀ a, o.result = .ok a → (k a o.nets).Replays o.nets) :
    (o.andThen k).Replays nets := by
  cases done : o.result with
  | ok a =>
    have rest := next a done
    rw [Replays] at first rest ⊢
    rw [andThen_of_ok done]
    dsimp only
    rw [Net.replay_append, ← first]
    exact rest
  | error f =>
    rw [Replays, andThen_of_error done]
    exact first

end Outcome

theorem connectLanes_replays (component : String) (source : Bundle) (targets : List String)
    (nets : List Net) : (connectLanes component source targets nets).Replays nets := by
  rw [Outcome.Replays, connectLanes_eq]

section Replay

variable (sc : Scope)

theorem evaluation_replays :
    (∀ active e nets, (value sc active e nets).Replays nets) ∧
    (∀ active items nets, (values sc active items nets).Replays nets) ∧
    (∀ active name body found nets, (runLogic sc active name body found nets).Replays nets) ∧
    (∀ active body last nets, (runBody sc active body last nets).Replays nets) ∧
    (∀ active items nets, (pipeline sc active items nets).Replays nets) ∧
    (∀ active e nets, (bodyItem sc active e nets).Replays nets) := by
  apply value.mutual_induct sc
  · intro active nets n net located
    rw [value_name_net located]
    exact .quiet rfl rfl
  · intro active nets n missing body found ih
    rw [value_name_logic missing found]
    refine ih.andThen fun v _ => ?_
    split <;> exact .quiet rfl rfl
  · intro active nets n missing absent
    rw [value_name_undeclared missing absent]
    exact .quiet rfl rfl
  · intro active nets digits
    rw [value.eq_2]
    exact .quiet rfl rfl
  · intro active nets items ih
    rw [value.eq_3]
    exact ih
  · intro active nets lhs rhs ih
    rw [value.eq_4, if_pos rfl]
    refine ih.andThen fun source _ => ?_
    split
    · exact connectLanes_replays _ _ _ _
    · exact .quiet rfl rfl
  · intro active nets op lhs rhs notConnect g gate ihl ihr
    simp only [value.eq_4, if_neg notConnect, gate]
    refine ihl.andThen fun _ _ => (ihr _).andThen fun _ _ => ?_
    split <;> exact .quiet rfl rfl
  · intro active nets op lhs rhs notConnect unknown
    simp only [value.eq_4, if_neg notConnect, unknown]
    exact .quiet rfl rfl
  · intro active nets
    rw [values.eq_1]
    exact .quiet rfl rfl
  · intro active nets x xs ihx ihxs
    rw [values.eq_2]
    exact ihx.andThen fun _ _ => (ihxs _).andThen fun _ _ => .quiet rfl rfl
  · intro active name body found nets idle _ ih
    rw [runLogic.eq_1, dif_pos idle]
    exact ih
  · intro active name body found nets busy
    rw [runLogic.eq_1, dif_neg busy]
    exact .quiet rfl rfl
  · intro active last nets
    rw [runBody.eq_1]
    exact .quiet rfl rfl
  · intro active last nets root rest ihroot ihrest
    rw [runBody.eq_2]
    exact ihroot.andThen fun v _ => ihrest v _
  · intro active last nets items rest ihitems ihrest
    rw [runBody.eq_3]
    exact ihitems.andThen fun _ _ => ihrest _
  · intro active last nets head rest notExpression notPipeline ih
    rw [runBody.eq_4 sc active last nets head rest notExpression notPipeline]
    exact ih
  · intro active nets
    rw [pipeline.eq_1]
    exact .quiet rfl rfl
  · intro active nets n rest body found ih ihrest
    rw [pipeline_name_logic found]
    exact ih.andThen fun _ _ => ihrest _
  · intro active nets n rest absent
    rw [pipeline_name_missing absent]
    exact .quiet rfl rfl
  · intro active nets x rest notName ih ihrest
    rw [pipeline.eq_3 sc active nets x rest notName]
    exact ih.andThen fun _ _ => ihrest _
  · intro active nets n net located
    rw [bodyItem_name_net located]
    exact .quiet rfl rfl
  · intro active nets n missing body found ih
    rw [bodyItem_name_logic missing found]
    exact ih
  · intro active nets n missing absent
    rw [bodyItem_name_undeclared missing absent]
    exact .quiet rfl rfl
  · intro active nets other notName ih
    rw [bodyItem.eq_2 sc active other nets notName]
    exact ih

/-- The write an event of a pass reports, if it reports one. -/
def PassEvent.write? : PassEvent → Option (String × Level)
  | .driven net level => some (net, level)
  | .pipelineStart _ _ => none

@[simp] theorem PassEvent.write?_driven (net : String) (level : Level) :
    (PassEvent.driven net level).write? = some (net, level) := rfl

@[simp] theorem PassEvent.write?_pipelineStart (index items : Nat) :
    (PassEvent.pipelineStart index items).write? = none := rfl

theorem PassEvent.filterMap_write?_driven (ws : List (String × Level)) :
    (ws.map fun w => PassEvent.driven w.1 w.2).filterMap PassEvent.write? = ws := by
  induction ws with
  | nil => rfl
  | cons w rest ih => rw [List.map_cons, List.filterMap_cons_some (PassEvent.write?_driven w.1 w.2), ih]

theorem passFrom_replays (index : Nat) (pipelines : List (List Expr)) (nets : List Net) :
    (passFrom sc index pipelines nets).2.1 =
      Net.replay nets ((passFrom sc index pipelines nets).2.2.filterMap PassEvent.write?) := by
  induction pipelines generalizing index nets with
  | nil => rfl
  | cons items rest ih =>
    have first := (evaluation_replays sc).2.2.2.2.1 [] items nets
    simp only [passFrom]
    cases done : (pipeline sc [] items nets).result with
    | ok u =>
      dsimp only
      rw [List.filterMap_append, List.filterMap_cons_none (PassEvent.write?_pipelineStart _ _),
        PassEvent.filterMap_write?_driven,
        Net.replay_append, ← first]
      exact ih (index + 1) _
    | error f =>
      dsimp only
      rw [List.filterMap_cons_none (PassEvent.write?_pipelineStart _ _),
        PassEvent.filterMap_write?_driven]
      exact first

end Replay

namespace Engine

theorem eventRecords_driven (component : String) {j : Journal} (debug : j.keeps .debug = true)
    (events : List PassEvent) :
    (events.map (eventRecord component)).filter (fun r => j.keeps r.severity && r.message == "signal driven") =
      (events.filterMap PassEvent.write?).map fun w =>
        ⟨.debug, "signal driven",
          [("component", .text component), ("signal", .text w.1), ("state", .text w.2.name)]⟩ := by
  induction events with
  | nil => rfl
  | cons event rest ih =>
    cases event with
    | pipelineStart index items =>
      rw [List.map_cons, List.filter_cons_of_neg (by simp [eventRecord]), ih,
        List.filterMap_cons_none (PassEvent.write?_pipelineStart index items)]
    | driven net level =>
      rw [List.map_cons, List.filter_cons_of_pos (by simp [eventRecord, debug]), ih,
        List.filterMap_cons_some (PassEvent.write?_driven net level), List.map_cons]
      rfl

/-- The debug records of an evaluation are a faithful trace of its writes. For any instance of
an engine and a journal that keeps debug records, the `signal driven` records the journal keeps
from evaluating the instance all name the instance and list, in order, one net and level per
write; making those writes again by net name on the instance's nets before the evaluation gives
the engine after it, whether the evaluation finished or stopped at a fault. -/
theorem evaluateAt_driven_replay (e : Engine) (s : Slot) {inst : Instance} {j : Journal}
    (found : e.at? s = some inst) (debug : j.keeps .debug = true) :
    ∃ writes : List (String × Level),
      (e.evaluateAt s).2.2.filter (fun r => j.keeps r.severity && r.message == "signal driven") =
        writes.map (fun w => ⟨.debug, "signal driven",
          [("component", .text inst.name), ("signal", .text w.1), ("state", .text w.2.name)]⟩) ∧
      (e.evaluateAt s).2.1 = e.put s { inst with nets := Net.replay inst.nets writes } := by
  refine ⟨(inst.evaluate (e.sharedAt s)).2.2.filterMap PassEvent.write?, ?_, ?_⟩
  · rw [evaluateAt_of_at? found]
    exact eventRecords_driven inst.name debug _
  · rw [evaluateAt_of_at? found]
    exact congrArg (fun nets => e.put s { inst with nets := nets })
      (passFrom_replays _ 0 inst.pipelines inst.nets)

/-- A buffer whose input is high, evaluated with a journal that keeps debug records. -/
theorem buffer_driven_replay :
    (bufferEngine .high .z).at? (.component 0) = some (bufferAt .high .z) ∧
    (⟨.keyValue, .debug⟩ : Journal).keeps .debug = true ∧
    ∃ writes : List (String × Level),
      ((bufferEngine .high .z).evaluateAt (.component 0)).2.2.filter
        (fun r => (⟨.keyValue, .debug⟩ : Journal).keeps r.severity && r.message == "signal driven") =
        writes.map (fun w => ⟨.debug, "signal driven",
          [("component", .text "buffer"), ("signal", .text w.1), ("state", .text w.2.name)]⟩) ∧
      ((bufferEngine .high .z).evaluateAt (.component 0)).2.1 =
        (bufferEngine .high .z).put (.component 0)
          { bufferAt .high .z with nets := Net.replay (bufferAt .high .z).nets writes } :=
  ⟨rfl, rfl, @evaluateAt_driven_replay _ (.component 0) (bufferAt .high .z) ⟨.keyValue, .debug⟩ rfl rfl⟩

end Engine

end Circuitry
