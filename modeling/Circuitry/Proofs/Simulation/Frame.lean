import Circuitry.Proofs.Simulation.Setup

/-!
# What evaluating an instance can change

Evaluation writes levels only through connections, and a connection drives only outputs and
internal nets of the instance that evaluates it: an input is refused as a target, and so is
every name that is not a net. That holds however the target is reached: through arrays, chained
connections, logic blocks run in place (the instance's own or the shared ones, which run in the
evaluating instance's nets) and nested pipelines, and whether the pass finishes or stops at a
fault.

`Net.Keeps before after` says that `after` is `before` with only levels of outputs and internal
nets changed. Every evaluation function keeps its nets in this sense, provided the nets have
distinct names, which every engine built from a program has. The main statement,
`Engine.evaluateAt_frame`: in every state of a built engine, evaluating one instance leaves
every other instance as it was and changes no input of its own, and so does a whole run.
-/

namespace Circuitry

namespace Net

/-- The names of a list of nets are pairwise distinct. -/
def Distinct (nets : List Net) : Prop := (nets.map (·.name)).Nodup

/-- Every net of this name is an output or an internal net, so it may be driven. -/
def Drivable (nets : List Net) (name : String) : Prop := ∀ n ∈ nets, n.name = name → n.role ≠ .input

/-- `after` is `before` with only levels of outputs and internal nets changed: net by net, the
same name and role, and an input keeps its level. -/
def Keeps (before after : List Net) : Prop :=
  List.Forall₂ (fun n n' => n'.name = n.name ∧ n'.role = n.role ∧ (n.role = .input → n'.level = n.level))
    before after

theorem Keeps.refl (nets : List Net) : Keeps nets nets :=
  List.forall₂_same.2 fun _ _ => ⟨rfl, rfl, fun _ => rfl⟩

theorem Keeps.trans {a b c : List Net} (first : Keeps a b) (second : Keeps b c) : Keeps a c := by
  induction first generalizing c with
  | nil => exact second
  | cons head _ ih =>
    cases second with
    | cons head' tail' =>
      obtain ⟨name₁, role₁, level₁⟩ := head
      obtain ⟨name₂, role₂, level₂⟩ := head'
      exact .cons ⟨name₂.trans name₁, role₂.trans role₁,
        fun input => (level₂ (role₁.trans input)).trans (level₁ input)⟩ (ih tail')

theorem Keeps.plan {a b : List Net} (keeps : Keeps a b) :
    b.map (fun n => (n.name, n.role)) = a.map fun n => (n.name, n.role) := by
  induction keeps with
  | nil => rfl
  | cons same _ ih => simp [same.1, same.2.1, ih]

theorem Keeps.distinct {a b : List Net} (keeps : Keeps a b) (distinct : Distinct a) : Distinct b := by
  have names : b.map (·.name) = a.map (·.name) := by
    simpa [Function.comp_def] using congrArg (List.map Prod.fst) keeps.plan
  unfold Distinct
  rwa [names]

theorem Keeps.drivable {a b : List Net} {name : String} (keeps : Keeps a b) (drivable : Drivable a name) :
    Drivable b name := by
  induction keeps with
  | nil => exact fun _ absent => absurd absent List.not_mem_nil
  | cons same _ ih =>
    intro n member named
    rcases List.mem_cons.1 member with rfl | later
    · rw [same.2.1]
      exact drivable _ (List.mem_cons_self ..) (same.1 ▸ named)
    · exact ih (fun m member' => drivable m (List.mem_cons_of_mem _ member')) n later named

theorem drivable_of_find {nets : List Net} {name : String} {net : Net} (distinct : Distinct nets)
    (found : find? nets name = some net) (notInput : net.role ≠ .input) : Drivable nets name := by
  intro n member named
  have netMember := List.mem_of_find?_eq_some found
  have netNamed : net.name = name := by simpa using List.find?_some found
  have same : n = net := List.inj_on_of_nodup_map distinct member netMember (named.trans netNamed.symm)
  exact same ▸ notInput

theorem set_keeps {nets : List Net} {name : String} (level : Level) (drivable : Drivable nets name) :
    Keeps nets (set nets name level) := by
  unfold set Keeps
  rw [List.forall₂_map_right_iff, List.forall₂_same]
  intro n member
  by_cases named : n.name = name
  · simp only [named, beq_self_eq_true, if_true, true_and]
    exact fun input => absurd input (drivable n member named)
  · simp [named]

theorem replay_keeps {nets : List Net} {writes : List (String × Level)}
    (drivable : ∀ w ∈ writes, Drivable nets w.1) : Keeps nets (replay nets writes) := by
  induction writes generalizing nets with
  | nil => exact Keeps.refl nets
  | cons w rest ih =>
    have first := set_keeps w.2 (drivable w (List.mem_cons_self ..))
    exact first.trans (ih fun v member => first.drivable (drivable v (List.mem_cons_of_mem _ member)))

end Net

mutual

theorem connectionTargets_drivable (sc : Scope) {nets : List Net} (distinct : Net.Distinct nets) :
    (e : Expr) → (targets : List String) → connectionTargets sc nets e = .ok targets →
      ∀ t ∈ targets, Net.Drivable nets t
  | .name n, targets, found => by
    unfold connectionTargets at found
    split at found
    · rename_i net located
      split at found
      · cases found
      · rename_i notInput
        cases found
        intro t member
        rw [List.mem_singleton.1 member]
        exact Net.drivable_of_find distinct located notInput
    · split at found <;> cases found
  | .array items, targets, found => by
    unfold connectionTargets at found
    exact arrayTargets_drivable sc distinct items targets found
  | .numeral _, _, found => by cases found
  | .binary _ _ _, _, found => by cases found

theorem arrayTargets_drivable (sc : Scope) {nets : List Net} (distinct : Net.Distinct nets) :
    (items : List Expr) → (targets : List String) →
      connectionTargets.arrayTargets sc nets items = .ok targets → ∀ t ∈ targets, Net.Drivable nets t
  | [], targets, found => by
    unfold connectionTargets.arrayTargets at found
    cases found
    exact fun _ absent => absurd absent List.not_mem_nil
  | x :: xs, targets, found => by
    unfold connectionTargets.arrayTargets at found
    cases first : connectionTargets sc nets x with
    | error f => simp [first, bind, Except.bind] at found
    | ok ts =>
      cases more : connectionTargets.arrayTargets sc nets xs with
      | error f => simp [first, more, bind, Except.bind] at found
      | ok us =>
        simp only [first, more, bind, Except.bind, pure, Except.pure, Except.ok.injEq] at found
        subst found
        intro t member
        rcases List.mem_append.1 member with here | later
        · exact connectionTargets_drivable sc distinct x ts first t here
        · exact arrayTargets_drivable sc distinct xs us more t later

end

theorem connectLanes_keeps {component : String} {source : Bundle} {targets : List String}
    {nets : List Net} (drivable : ∀ t ∈ targets, Net.Drivable nets t) :
    Net.Keeps nets (connectLanes component source targets nets).nets := by
  unfold connectLanes
  split
  · exact Net.Keeps.refl nets
  · split
    · exact Net.Keeps.refl nets
    · split
      · exact Net.Keeps.refl nets
      · apply Net.replay_keeps
        intro w member
        obtain ⟨⟨t, i⟩, pair, rfl⟩ := List.mem_map.1 member
        exact drivable t (List.fst_mem_of_mem_zipIdx pair)

namespace Outcome

theorem andThen_keeps {o : Outcome α} {k : α → List Net → Outcome β} {nets : List Net}
    (distinct : Net.Distinct nets) (first : Net.Keeps nets o.nets)
    (next : ∀ a after, Net.Distinct after → Net.Keeps after (k a after).nets) :
    Net.Keeps nets (o.andThen k).nets := by
  unfold andThen
  split
  · rename_i a _
    exact first.trans (next a o.nets (first.distinct distinct))
  · exact first

end Outcome

section Evaluation

variable (sc : Scope)

/-- Running `run` from nets with distinct names keeps them. -/
abbrev KeepsFrom (run : List Net → Outcome α) (nets : List Net) : Prop :=
  Net.Distinct nets → Net.Keeps nets (run nets).nets

theorem evaluation_keeps :
    (∀ active e nets, KeepsFrom (value sc active e) nets) ∧
    (∀ active items nets, KeepsFrom (values sc active items) nets) ∧
    (∀ active name body found nets, KeepsFrom (runLogic sc active name body found) nets) ∧
    (∀ active body last nets, KeepsFrom (runBody sc active body last) nets) ∧
    (∀ active items nets, KeepsFrom (pipeline sc active items) nets) ∧
    (∀ active e nets, KeepsFrom (bodyItem sc active e) nets) := by
  apply value.mutual_induct sc
  · intro active nets n net located _
    rw [value.eq_1, located]
    exact Net.Keeps.refl nets
  · intro active nets n missing body found ih distinct
    simp only [value.eq_1, missing]
    split
    · rename_i body' found'
      obtain rfl : body' = body := Option.some.inj (found'.symm.trans found)
      exact Outcome.andThen_keeps distinct (ih distinct) fun v after _ => by
        split <;> exact Net.Keeps.refl after
    · rename_i absent
      simp [absent] at found
  · intro active nets n missing absent _
    simp only [value.eq_1, missing]
    split
    · rename_i body' found'
      simp [absent] at found'
    · exact Net.Keeps.refl nets
  · intro active nets digits _
    rw [value.eq_2]
    exact Net.Keeps.refl nets
  · intro active nets items ih distinct
    rw [value.eq_3]
    exact ih distinct
  · intro active nets lhs rhs ih distinct
    rw [value.eq_4, if_pos rfl]
    refine Outcome.andThen_keeps distinct (ih distinct) fun source after apart => ?_
    split
    · rename_i targets resolved
      exact connectLanes_keeps (connectionTargets_drivable sc apart rhs targets resolved)
    · exact Net.Keeps.refl after
  · intro active nets op lhs rhs notConnect g gate ihl ihr distinct
    simp only [value.eq_4, if_neg notConnect, gate]
    exact Outcome.andThen_keeps distinct (ihl distinct) fun l after apart =>
      Outcome.andThen_keeps apart (ihr after apart) fun r after2 _ => by
        split <;> exact Net.Keeps.refl after2
  · intro active nets op lhs rhs notConnect unknown _
    simp only [value.eq_4, if_neg notConnect, unknown]
    exact Net.Keeps.refl nets
  · intro active nets _
    rw [values.eq_1]
    exact Net.Keeps.refl nets
  · intro active nets x xs ihx ihxs distinct
    rw [values.eq_2]
    exact Outcome.andThen_keeps distinct (ihx distinct) fun v after apart =>
      Outcome.andThen_keeps apart (ihxs after apart) fun vs after2 _ => Net.Keeps.refl after2
  · intro active name body found nets idle _ ih distinct
    rw [runLogic.eq_1, dif_pos idle]
    exact ih distinct
  · intro active name body found nets busy _
    rw [runLogic.eq_1, dif_neg busy]
    exact Net.Keeps.refl nets
  · intro active last nets _
    rw [runBody.eq_1]
    exact Net.Keeps.refl nets
  · intro active last nets root rest ihroot ihrest distinct
    rw [runBody.eq_2]
    exact Outcome.andThen_keeps distinct (ihroot distinct) fun v after apart => ihrest v after apart
  · intro active last nets items rest ihitems ihrest distinct
    rw [runBody.eq_3]
    exact Outcome.andThen_keeps distinct (ihitems distinct) fun _ after apart => ihrest after apart
  · intro active last nets head rest notExpression notPipeline ih distinct
    rw [runBody.eq_4 sc active last nets head rest notExpression notPipeline]
    exact ih distinct
  · intro active nets _
    rw [pipeline.eq_1]
    exact Net.Keeps.refl nets
  · intro active nets n rest body found ih ihrest distinct
    rw [pipeline.eq_2]
    split
    · rename_i body' found'
      obtain rfl : body' = body := Option.some.inj (found'.symm.trans found)
      exact Outcome.andThen_keeps distinct (ih distinct) fun _ after apart => ihrest after apart
    · rename_i absent
      simp [absent] at found
  · intro active nets n rest absent _
    rw [pipeline.eq_2]
    split
    · rename_i body' found'
      simp [absent] at found'
    · exact Net.Keeps.refl nets
  · intro active nets x rest notName ih ihrest distinct
    rw [pipeline.eq_3 sc active nets x rest notName]
    exact Outcome.andThen_keeps distinct (ih distinct) fun _ after apart => ihrest after apart
  · intro active nets n net located _
    rw [bodyItem.eq_1, located]
    exact Net.Keeps.refl nets
  · intro active nets n missing body found ih distinct
    simp only [bodyItem.eq_1, missing]
    split
    · rename_i body' found'
      obtain rfl : body' = body := Option.some.inj (found'.symm.trans found)
      exact ih distinct
    · rename_i absent
      simp [absent] at found
  · intro active nets n missing absent _
    simp only [bodyItem.eq_1, missing]
    split
    · rename_i body' found'
      simp [absent] at found'
    · exact Net.Keeps.refl nets
  · intro active nets other notName ih distinct
    rw [bodyItem.eq_2 sc active other nets notName]
    exact ih distinct

theorem pipeline_keeps (active : List String) (items : List Expr) {nets : List Net}
    (distinct : Net.Distinct nets) : Net.Keeps nets (pipeline sc active items nets).nets :=
  (evaluation_keeps sc).2.2.2.2.1 active items nets distinct

theorem passFrom_keeps (index : Nat) (pipelines : List (List Expr)) {nets : List Net}
    (distinct : Net.Distinct nets) : Net.Keeps nets (passFrom sc index pipelines nets).2.1 := by
  induction pipelines generalizing index nets with
  | nil => exact Net.Keeps.refl nets
  | cons items rest ih =>
    have first := pipeline_keeps sc [] items distinct
    simp only [passFrom]
    split
    · exact first.trans (ih (index + 1) (first.distinct distinct))
    · exact first

end Evaluation

def Instance.layout (inst : Instance) :
    String × List (String × Role) × List LogicBlock × List (List Expr) :=
  (inst.name, inst.nets.map fun n => (n.name, n.role), inst.logic, inst.pipelines)

/-- `after` is `before` evaluated: the same name, logic blocks and pipelines, and nets that
keep. -/
structure Instance.Keeps (before after : Instance) : Prop where
  name : after.name = before.name
  logic : after.logic = before.logic
  pipelines : after.pipelines = before.pipelines
  nets : Net.Keeps before.nets after.nets

theorem Instance.Keeps.refl (inst : Instance) : Instance.Keeps inst inst :=
  ⟨rfl, rfl, rfl, Net.Keeps.refl inst.nets⟩

theorem Instance.Keeps.trans {a b c : Instance} (first : Instance.Keeps a b)
    (second : Instance.Keeps b c) : Instance.Keeps a c :=
  ⟨second.name.trans first.name, second.logic.trans first.logic,
    second.pipelines.trans first.pipelines, first.nets.trans second.nets⟩

theorem Instance.Keeps.layout {a b : Instance} (keeps : Instance.Keeps a b) : b.layout = a.layout := by
  simp only [Instance.layout, keeps.name, keeps.logic, keeps.pipelines, keeps.nets.plan]

theorem Instance.Keeps.option_layout {x y : Option Instance} (keeps : Option.Rel Instance.Keeps x y) :
    y.map Instance.layout = x.map Instance.layout := by
  cases keeps with
  | none => rfl
  | some kept => simp [kept.layout]

theorem Instance.Keeps.option_trans {x y z : Option Instance} (first : Option.Rel Instance.Keeps x y)
    (second : Option.Rel Instance.Keeps y z) : Option.Rel Instance.Keeps x z := by
  cases first with
  | none => exact second
  | some kept =>
    cases second with
    | some kept' => exact .some (kept.trans kept')

theorem Instance.evaluate_keeps (inst : Instance) (shared : List LogicBlock)
    (distinct : Net.Distinct inst.nets) : Instance.Keeps inst (inst.evaluate shared).2.1 :=
  ⟨rfl, rfl, rfl, passFrom_keeps _ 0 inst.pipelines distinct⟩

namespace Engine

def layout (e : Engine) :
    List (String × List (String × Role) × List LogicBlock × List (List Expr)) ×
      (String × List (String × Role) × List LogicBlock × List (List Expr)) × Bool :=
  (e.components.map Instance.layout, e.global.layout, e.strict)

/-- Every instance of the engine holds nets with distinct names. -/
def Distinct (e : Engine) : Prop := ∀ s inst, e.at? s = some inst → Net.Distinct inst.nets

/-- `after` is `before` with only levels of outputs and internal nets changed, in any of its
instances. -/
structure Keeps (before after : Engine) : Prop where
  strict : after.strict = before.strict
  slots : ∀ s, Option.Rel Instance.Keeps (before.at? s) (after.at? s)

theorem Keeps.refl (e : Engine) : e.Keeps e := by
  refine ⟨rfl, fun s => ?_⟩
  cases e.at? s with
  | none => exact .none
  | some inst => exact .some (Instance.Keeps.refl inst)

theorem Keeps.trans {a b c : Engine} (first : a.Keeps b) (second : b.Keeps c) : a.Keeps c :=
  ⟨second.strict.trans first.strict, fun s => Instance.Keeps.option_trans (first.slots s) (second.slots s)⟩

theorem Keeps.distinct {a b : Engine} (keeps : a.Keeps b) (distinct : a.Distinct) : b.Distinct := by
  intro s inst' taken
  have kept := keeps.slots s
  rw [taken] at kept
  cases before : a.at? s with
  | none => simp [before] at kept
  | some inst =>
    rw [before, Option.rel_some_some] at kept
    exact kept.nets.distinct (distinct s inst before)

theorem layout_at? {e e' : Engine} (same : e.layout = e'.layout) (s : Slot) :
    (e.at? s).map Instance.layout = (e'.at? s).map Instance.layout := by
  simp only [layout, Prod.mk.injEq] at same
  cases s with
  | global => simp [at?, same.2.1]
  | component i => simp only [at?, ← List.getElem?_map, same.1]

theorem Distinct.of_layout {e e' : Engine} (same : e.layout = e'.layout) (distinct : e'.Distinct) :
    e.Distinct := by
  intro s inst taken
  have agree := layout_at? same s
  rw [taken, Option.map_some] at agree
  obtain ⟨inst', taken', laid⟩ := Option.map_eq_some_iff.1 agree.symm
  simp only [Instance.layout, Prod.mk.injEq] at laid
  have names : inst.nets.map (·.name) = inst'.nets.map (·.name) := by
    simpa [Function.comp_def] using congrArg (List.map Prod.fst) laid.2.1.symm
  unfold Net.Distinct
  rw [names]
  exact distinct s inst' taken'

theorem declaredBy_distinct {name : String} {body : List Decl} (named : (Decl.names body).Nodup) :
    Net.Distinct (Instance.declaredBy name body).nets :=
  List.Nodup.of_append_left named

theorem build_distinct {p : Program} {strict : Bool} {e : Engine}
    (built : (build p strict).1 = .ok e) : e.Distinct := by
  obtain ⟨_, named, _, bodies, rfl⟩ := (build_eq_ok p strict e).1 built
  intro s inst taken
  cases s with
  | global =>
    cases taken
    exact declaredBy_distinct named
  | component i =>
    obtain ⟨c, member, rfl⟩ := List.mem_map.1 (List.mem_of_getElem? taken)
    exact declaredBy_distinct (bodies c member).2

theorem evaluateAt_other (e : Engine) {s t : Slot} (apart : t ≠ s) :
    (e.evaluateAt s).2.1.at? t = e.at? t := by
  unfold evaluateAt
  split
  · rfl
  · exact at?_put_of_ne e _ (Ne.symm apart)

theorem evaluateAt_of_none {e : Engine} {s : Slot} (empty : e.at? s = none) :
    e.evaluateAt s = (.ok (), e, []) := by
  unfold evaluateAt
  rw [empty]

theorem evaluateAt_of_at? {e : Engine} {s : Slot} {inst : Instance} (taken : e.at? s = some inst) :
    e.evaluateAt s = ((inst.evaluate (e.sharedAt s)).1,
      e.put s (inst.evaluate (e.sharedAt s)).2.1,
      (inst.evaluate (e.sharedAt s)).2.2.map (eventRecord inst.name)) := by
  unfold evaluateAt
  rw [taken]

theorem evaluateAt_strict (e : Engine) (s : Slot) : (e.evaluateAt s).2.1.strict = e.strict := by
  unfold evaluateAt
  split
  · rfl
  · cases s <;> rfl

theorem evaluateAt_keeps {e : Engine} (distinct : e.Distinct) (s : Slot) :
    e.Keeps (e.evaluateAt s).2.1 := by
  refine ⟨evaluateAt_strict e s, fun t => ?_⟩
  by_cases apart : t = s
  · subst apart
    cases taken : e.at? t with
    | none =>
      rw [evaluateAt_of_none taken, taken]
      exact .none
    | some inst =>
      rw [evaluateAt_of_at? taken, at?_put_self e t _ (by simp [taken])]
      exact .some (Instance.evaluate_keeps inst _ (distinct t inst taken))
  · rw [evaluateAt_other e apart]
    exact (Keeps.refl e).slots t

theorem evaluateAll_keeps {e : Engine} (distinct : e.Distinct) (slots : List Slot) :
    e.Keeps (e.evaluateAll slots).2.1 := by
  induction slots generalizing e with
  | nil => exact Keeps.refl e
  | cons s rest ih =>
    have first := evaluateAt_keeps distinct s
    simp only [evaluateAll]
    split
    · exact first
    · exact first.trans (ih (first.distinct distinct))

theorem run_keeps {e : Engine} (distinct : e.Distinct) : e.Keeps e.run.2.1 := by
  have all := evaluateAll_keeps distinct e.slots
  simp only [run]
  split
  · exact all
  · split <;> exact all

theorem Keeps.layout {a b : Engine} (keeps : a.Keeps b) : b.layout = a.layout := by
  have global := Instance.Keeps.option_layout (keeps.slots .global)
  have components : b.components.map Instance.layout = a.components.map Instance.layout := by
    apply List.ext_getElem?
    intro i
    rw [List.getElem?_map, List.getElem?_map]
    exact Instance.Keeps.option_layout (keeps.slots (.component i))
  simp only [at?, Option.map_some, Option.some.injEq] at global
  simp only [Engine.layout, components, global, keeps.strict]

theorem put_layout {e : Engine} {s : Slot} {old inst : Instance} (taken : e.at? s = some old)
    (same : inst.layout = old.layout) : (e.put s inst).layout = e.layout := by
  cases s with
  | global =>
    cases taken
    simp [put, layout, same]
  | component i =>
    obtain ⟨bound, rfl⟩ := List.getElem?_eq_some_iff.1 taken
    simp only [put, layout, List.map_set, same, Prod.mk.injEq, and_true]
    rw [← List.getElem_map Instance.layout, List.set_getElem_self]
    simpa using bound

theorem setInputs_layout (inst : Instance) (inputs : List (String × Level)) :
    (∀ next, (setInputs inst inputs).1 = .ok next → next.layout = inst.layout) ∧
      (setInputs inst inputs).2.layout = inst.layout := by
  induction inputs generalizing inst with
  | nil => exact ⟨fun next done => by cases done; rfl, rfl⟩
  | cons input rest ih =>
    obtain ⟨name, level⟩ := input
    have set : (inst.setNet name level).layout = inst.layout := by
      simp only [Instance.setNet, Instance.layout, Net.set, List.map_map, Prod.mk.injEq, and_true,
        true_and]
      apply List.map_congr_left
      intro n _
      simp only [Function.comp_apply]
      split <;> rfl
    have setsNet : ∀ next, inst.setInput name level = .ok next → next = inst.setNet name level := by
      intro next done
      unfold Instance.setInput at done
      split at done
      · split at done
        · cases done
          rfl
        · cases done
      · cases done
    cases setting : inst.setInput name level with
    | error f => simp [setInputs, setting]
    | ok next =>
      obtain rfl := setsNet next setting
      simp only [setInputs, setting]
      simpa only [set] using ih (inst.setNet name level)

theorem apply_layout (e : Engine) (stimulus : Stimulus) : (e.apply stimulus).2.layout = e.layout := by
  induction stimulus generalizing e with
  | nil => rfl
  | cons step rest ih =>
    obtain ⟨component, inputs⟩ := step
    have setting := setInputs_layout
    simp only [apply]
    split
    · rfl
    · split
      · rfl
      · rename_i s _ inst taken
        split
        · rename_i f halfway result
          exact put_layout taken (by simpa [result] using (setting inst inputs).2)
        · rename_i next _ result
          rw [ih, put_layout taken ((setting inst inputs).1 next (by rw [result]))]

/-- In every state of an engine built from a program, evaluating the instance in one slot
leaves every other slot as it was and changes in its own instance only levels of outputs and
internal nets, whether it finishes or stops at a fault; and a whole run changes no input of
any instance. A state of the engine is any engine of its layout: those a stimulus reaches
(`apply_layout`) and those evaluation reaches (`Keeps.layout`) among them. -/
theorem evaluateAt_frame {p : Program} {strict : Bool} {built e : Engine}
    (setUp : (build p strict).1 = .ok built) (state : e.layout = built.layout) (s : Slot) :
    (∀ t, t ≠ s → (e.evaluateAt s).2.1.at? t = e.at? t) ∧
      Option.Rel Instance.Keeps (e.at? s) ((e.evaluateAt s).2.1.at? s) ∧ e.Keeps e.run.2.1 := by
  have distinct : e.Distinct := Distinct.of_layout state (build_distinct setUp)
  exact ⟨fun t apart => evaluateAt_other e apart, (evaluateAt_keeps distinct s).slots s,
    run_keeps distinct⟩

/-- A buffer: a component that drives its output `y` from its input `a`. -/
def bufferProgram : Program :=
  ⟨[.component "buffer" [.publicSection [⟨"a", .input⟩, ⟨"y", .output⟩],
    .pipeline [.binary "=>" (.name "a") (.name "y")]]]⟩

def bufferAt (a y : Level) : Instance :=
  ⟨"buffer", [⟨"a", .input, a⟩, ⟨"y", .output, y⟩], [], [[.binary "=>" (.name "a") (.name "y")]]⟩

def bufferEngine (a y : Level) : Engine := ⟨[bufferAt a y], ⟨globalName, [], [], []⟩, false⟩

/-- The buffer set up from its declarations, then its input driven high: evaluating it drives
its output alone. -/
theorem buffer_evaluation_frame :
    (build bufferProgram false).1 = .ok (bufferEngine .z .z) ∧
    ((∀ t, t ≠ .component 0 →
        ((bufferEngine .high .z).evaluateAt (.component 0)).2.1.at? t = (bufferEngine .high .z).at? t) ∧
      Option.Rel Instance.Keeps ((bufferEngine .high .z).at? (.component 0))
        (((bufferEngine .high .z).evaluateAt (.component 0)).2.1.at? (.component 0)) ∧
      (bufferEngine .high .z).Keeps (bufferEngine .high .z).run.2.1) := by
  have setUp := (build_eq_ok bufferProgram false (bufferEngine .z .z)).2
    ⟨by simp [bufferProgram, globalsOf, Decl.AdmissibleAll],
      by simp [bufferProgram, globalsOf, Decl.names, Decl.netsAll, Decl.blocksAll],
      by simp [bufferProgram, componentsOf],
      by simp [bufferProgram, componentsOf, globalName, Decl.AdmissibleAll, Decl.Admissible, Decl.names,
        Decl.netsAll, Decl.nets, Decl.blocksAll, Decl.blocks, Role.ofDatatype],
      rfl⟩
  exact ⟨setUp, evaluateAt_frame setUp (by rfl) (.component 0)⟩

end Engine

end Circuitry
