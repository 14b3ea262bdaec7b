import Circuitry.Proofs.Simulation.Lockstep

/-!
# The accesses of a pass

What a pass does, in order: it reads the level of a net, drives a net, starts running a logic
block, and finishes running it, with a value or at a fault. `valueTrace` and its companions
follow the evaluator's recursion step by step and list these accesses; where the evaluator
goes on after a step only when the step succeeded, so does the trace, which asks the
evaluator for the step's result and the nets after it.

Two facts about every trace come first. The trace does not depend on levels
(`trace_level_blind`): evaluation branches on names, roles and widths only. And a step changes
no level but those of the nets its trace drives (`evaluation_confined`).
-/

namespace Circuitry

/-- One access of a pass to the nets or to the running blocks. -/
inductive Access
  | read (net : String)
  | write (net : String)
  | enter (block : String)
  | leave (block : String)
deriving DecidableEq, Repr

/-- The net an access drives, if it is a write. -/
def Access.driven? : Access → Option String
  | .write n => some n
  | _ => none

def Access.written (trace : List Access) : List String := trace.filterMap Access.driven?

def Outcome.traceThen (o : Outcome α) (k : α → List Net → List Access) : List Access :=
  match o.result with
  | .ok a => k a o.nets
  | .error _ => []

mutual

def valueTrace (sc : Scope) (active : List String) (e : Expr) (nets : List Net) : List Access :=
  match e with
  | .name n =>
    match Net.find? nets n with
    | some _ => [.read n]
    | none =>
      match found : sc.lookup n with
      | some body => runLogicTrace sc active n body found nets
      | none => []
  | .numeral _ => []
  | .array items => valuesTrace sc active items nets
  | .binary op lhs rhs =>
    if op = connectWord then
      valueTrace sc active lhs nets ++ (value sc active lhs nets).traceThen fun source after =>
        match connectionTargets sc after rhs with
        | .ok targets => (connectLanes sc.component source targets after).writes.map fun w => .write w.1
        | .error _ => []
    else
      match Gate.ofWord? op with
      | some _ =>
        valueTrace sc active lhs nets ++ (value sc active lhs nets).traceThen fun _ after =>
          valueTrace sc active rhs after
      | none => []
termination_by (sc.pending active, sizeOf e)

def valuesTrace (sc : Scope) (active : List String) (items : List Expr) (nets : List Net) :
    List Access :=
  match items with
  | [] => []
  | x :: xs =>
    valueTrace sc active x nets ++ (value sc active x nets).traceThen fun _ after =>
      valuesTrace sc active xs after
termination_by (sc.pending active, sizeOf items)

def runLogicTrace (sc : Scope) (active : List String) (name : String) (body : List Decl)
    (found : sc.lookup name = some body) (nets : List Net) : List Access :=
  if idle : active.contains name = false then
    have _fewer := Scope.pending_lt found idle
    .enter name :: runBodyTrace sc (name :: active) body nets ++ [.leave name]
  else []
termination_by (sc.pending active, 0)

def runBodyTrace (sc : Scope) (active : List String) (body : List Decl) (nets : List Net) :
    List Access :=
  match body with
  | [] => []
  | .expression root :: rest =>
    bodyItemTrace sc active root nets ++ (bodyItem sc active root nets).traceThen fun _ after =>
      runBodyTrace sc active rest after
  | .pipeline items :: rest =>
    pipelineTrace sc active items nets ++ (pipeline sc active items nets).traceThen fun _ after =>
      runBodyTrace sc active rest after
  | _ :: rest => runBodyTrace sc active rest nets
termination_by (sc.pending active, sizeOf body)

def bodyItemTrace (sc : Scope) (active : List String) (e : Expr) (nets : List Net) : List Access :=
  match e with
  | .name n =>
    match Net.find? nets n with
    | some _ => [.read n]
    | none =>
      match found : sc.lookup n with
      | some body => runLogicTrace sc active n body found nets
      | none => []
  | other => valueTrace sc active other nets
termination_by (sc.pending active, sizeOf e + 1)

def pipelineTrace (sc : Scope) (active : List String) (items : List Expr) (nets : List Net) :
    List Access :=
  match items with
  | [] => []
  | .name n :: rest =>
    match found : sc.lookup n with
    | some body =>
      runLogicTrace sc active n body found nets ++
        (runLogic sc active n body found nets).traceThen fun _ after => pipelineTrace sc active rest after
    | none => []
  | x :: rest =>
    valueTrace sc active x nets ++ (value sc active x nets).traceThen fun _ after =>
      pipelineTrace sc active rest after
termination_by (sc.pending active, sizeOf items)

end

def passTrace (sc : Scope) (pipelines : List (List Expr)) (nets : List Net) : List Access :=
  match pipelines with
  | [] => []
  | items :: rest =>
    pipelineTrace sc [] items nets ++ (pipeline sc [] items nets).traceThen fun _ after =>
      passTrace sc rest after

def Instance.trace (inst : Instance) (shared : List LogicBlock) : List Access :=
  passTrace ⟨inst.name, inst.logic, shared⟩ inst.pipelines inst.nets

/-! ### The branches of a trace on a name -/

section Branches

variable {sc : Scope} {active : List String} {nets : List Net} {n : String} {body : List Decl}

theorem valueTrace_name_net {net : Net} (located : Net.find? nets n = some net) :
    valueTrace sc active (.name n) nets = [.read n] := by
  rw [valueTrace.eq_1, located]

theorem valueTrace_name_logic (missing : Net.find? nets n = none) (found : sc.lookup n = some body) :
    valueTrace sc active (.name n) nets = runLogicTrace sc active n body found nets := by
  simp only [valueTrace.eq_1, missing]
  split
  · rename_i body' found'
    obtain rfl : body' = body := Option.some.inj (found'.symm.trans found)
    rfl
  · rename_i absent
    simp [absent] at found

theorem valueTrace_name_undeclared (missing : Net.find? nets n = none) (absent : sc.lookup n = none) :
    valueTrace sc active (.name n) nets = [] := by
  simp only [valueTrace.eq_1, missing]
  split
  · rename_i body' found'
    simp [absent] at found'
  · rfl

theorem bodyItemTrace_name_net {net : Net} (located : Net.find? nets n = some net) :
    bodyItemTrace sc active (.name n) nets = [.read n] := by
  rw [bodyItemTrace.eq_1, located]

theorem bodyItemTrace_name_logic (missing : Net.find? nets n = none) (found : sc.lookup n = some body) :
    bodyItemTrace sc active (.name n) nets = runLogicTrace sc active n body found nets := by
  simp only [bodyItemTrace.eq_1, missing]
  split
  · rename_i body' found'
    obtain rfl : body' = body := Option.some.inj (found'.symm.trans found)
    rfl
  · rename_i absent
    simp [absent] at found

theorem bodyItemTrace_name_undeclared (missing : Net.find? nets n = none)
    (absent : sc.lookup n = none) : bodyItemTrace sc active (.name n) nets = [] := by
  simp only [bodyItemTrace.eq_1, missing]
  split
  · rename_i body' found'
    simp [absent] at found'
  · rfl

theorem pipelineTrace_name_logic {rest : List Expr} (found : sc.lookup n = some body) :
    pipelineTrace sc active (.name n :: rest) nets =
      runLogicTrace sc active n body found nets ++
        (runLogic sc active n body found nets).traceThen fun _ after => pipelineTrace sc active rest after := by
  rw [pipelineTrace.eq_2]
  split
  · rename_i body' found'
    obtain rfl : body' = body := Option.some.inj (found'.symm.trans found)
    rfl
  · rename_i absent
    simp [absent] at found

theorem pipelineTrace_name_missing {rest : List Expr} (absent : sc.lookup n = none) :
    pipelineTrace sc active (.name n :: rest) nets = [] := by
  rw [pipelineTrace.eq_2]
  split
  · rename_i body' found'
    simp [absent] at found'
  · rfl

end Branches

/-! ### Steps and what follows them -/

namespace Outcome

variable {o : Outcome α} {k : α → List Net → Outcome β} {kt : α → List Net → List Access}

theorem andThen_of_ok {a : α} (done : o.result = .ok a) :
    o.andThen k = ⟨(k a o.nets).result, (k a o.nets).nets, o.writes ++ (k a o.nets).writes⟩ := by
  unfold andThen
  rw [done]

theorem andThen_of_error {f : CircuitFault} (failed : o.result = .error f) :
    o.andThen k = ⟨.error f, o.nets, o.writes⟩ := by
  unfold andThen
  rw [failed]

theorem traceThen_of_ok {a : α} (done : o.result = .ok a) : o.traceThen kt = kt a o.nets := by
  unfold traceThen
  rw [done]

theorem traceThen_of_error {f : CircuitFault} (failed : o.result = .error f) : o.traceThen kt = [] := by
  unfold traceThen
  rw [failed]

@[simp] theorem traceThen_nil : o.traceThen (fun _ _ => ([] : List Access)) = [] := by
  unfold traceThen
  split <;> rfl

end Outcome

@[simp] theorem Access.written_nil : Access.written [] = [] := rfl

@[simp] theorem Access.written_append (t u : List Access) :
    Access.written (t ++ u) = Access.written t ++ Access.written u :=
  List.filterMap_append

@[simp] theorem Access.written_read (n : String) (t : List Access) :
    Access.written (.read n :: t) = Access.written t := rfl

@[simp] theorem Access.written_write (n : String) (t : List Access) :
    Access.written (.write n :: t) = n :: Access.written t := rfl

@[simp] theorem Access.written_enter (n : String) (t : List Access) :
    Access.written (.enter n :: t) = Access.written t := rfl

@[simp] theorem Access.written_leave (n : String) (t : List Access) :
    Access.written (.leave n :: t) = Access.written t := rfl

theorem Access.written_map_write (ws : List (String × Level)) :
    Access.written (ws.map fun w => .write w.1) = ws.map (·.1) := by
  induction ws with
  | nil => rfl
  | cons w rest ih => rw [List.map_cons, written_write, ih, List.map_cons]

theorem connectLanes_eq (component : String) (source : Bundle) (targets : List String)
    (nets : List Net) :
    connectLanes component source targets nets =
      ⟨(connectLanes component source targets []).result,
        Net.replay nets (connectLanes component source targets []).writes,
        (connectLanes component source targets []).writes⟩ := by
  unfold connectLanes
  split
  · rfl
  · split
    · rfl
    · split
      · rfl
      · rfl

/-! ### Traces do not depend on levels -/

theorem Coupling.Writes.map_write {R : Coupling} {ws ws' : List (String × Level)} (writes : R.Writes ws ws') :
    ws'.map (fun w => Access.write w.1) = ws.map fun w => Access.write w.1 := by
  induction writes with
  | nil => rfl
  | cons pair _ ih => rw [List.map_cons, List.map_cons, ih, pair.1]

theorem Coupling.Outcomes.traceThen {R : Coupling} {V : α → α → Prop} {o o' : Outcome α}
    {k k' : α → List Net → List Access} (coupled : R.Outcomes V o o')
    (next : ∀ a a' after after', V a a' → R.Nets after after' → k' a' after' = k a after) :
    o'.traceThen k' = o.traceThen k := by
  obtain ⟨result, nets, _⟩ := coupled
  rcases o with ⟨_ | a, after, ws⟩ <;> rcases o' with ⟨_ | a', after', ws'⟩
  · rfl
  · exact result.elim
  · exact result.elim
  · exact next a a' after after' result nets

section LevelBlind

variable (sc : Scope)

/-- Running `trace` from nets with the names and roles of `nets` lists the same accesses. -/
abbrev TraceBlind (trace : List Net → List Access) (nets : List Net) : Prop :=
  ∀ nets', Coupling.any.Nets nets nets' → trace nets' = trace nets

theorem trace_level_blind :
    (∀ active e nets, TraceBlind (valueTrace sc active e) nets) ∧
    (∀ active items nets, TraceBlind (valuesTrace sc active items) nets) ∧
    (∀ active name body found nets, TraceBlind (runLogicTrace sc active name body found) nets) ∧
    (∀ active body (_last : Bundle) nets, TraceBlind (runBodyTrace sc active body) nets) ∧
    (∀ active items nets, TraceBlind (pipelineTrace sc active items) nets) ∧
    (∀ active e nets, TraceBlind (bodyItemTrace sc active e) nets) := by
  have coupled := evaluation_coupled Coupling.any sc
  apply value.mutual_induct sc
  · intro active nets n net located nets' same
    obtain ⟨net', located', _⟩ := same.find?_some located
    rw [valueTrace_name_net located, valueTrace_name_net located']
  · intro active nets n missing body found ih nets' same
    rw [valueTrace_name_logic missing found, valueTrace_name_logic (same.find?_none missing) found]
    exact ih nets' same
  · intro active nets n missing absent nets' same
    rw [valueTrace_name_undeclared missing absent,
      valueTrace_name_undeclared (same.find?_none missing) absent]
  · intro active nets digits nets' same
    rw [valueTrace.eq_2, valueTrace.eq_2]
  · intro active nets items ih nets' same
    rw [valueTrace.eq_3, valueTrace.eq_3]
    exact ih nets' same
  · intro active nets lhs rhs ih nets' same
    rw [valueTrace.eq_4, valueTrace.eq_4, if_pos rfl, if_pos rfl, ih nets' same]
    congr 1
    refine (coupled.1 active lhs nets nets' same).traceThen fun s s' after after' lanes sameAfter => ?_
    rw [Coupling.connectionTargets_eq sc sameAfter rhs]
    split
    · rename_i targets _
      exact (Coupling.connectLanes_coupled sc.component targets lanes sameAfter).writes.map_write
    · rfl
  · intro active nets op lhs rhs notConnect g gate ihl ihr nets' same
    simp only [valueTrace.eq_4, if_neg notConnect, gate]
    rw [ihl nets' same]
    congr 1
    exact (coupled.1 active lhs nets nets' same).traceThen fun _ _ after after' _ sameAfter =>
      ihr after after' sameAfter
  · intro active nets op lhs rhs notConnect unknown nets' same
    simp only [valueTrace.eq_4, if_neg notConnect, unknown]
  · intro active nets nets' same
    rw [valuesTrace.eq_1, valuesTrace.eq_1]
  · intro active nets x xs ihx ihxs nets' same
    rw [valuesTrace.eq_2, valuesTrace.eq_2, ihx nets' same]
    congr 1
    exact (coupled.1 active x nets nets' same).traceThen fun _ _ after after' _ sameAfter =>
      ihxs after after' sameAfter
  · intro active name body found nets idle _ ih nets' same
    rw [runLogicTrace.eq_1, runLogicTrace.eq_1, dif_pos idle, dif_pos idle, ih nets' same]
  · intro active name body found nets busy nets' same
    rw [runLogicTrace.eq_1, runLogicTrace.eq_1, dif_neg busy, dif_neg busy]
  · intro active last nets nets' same
    rw [runBodyTrace.eq_1, runBodyTrace.eq_1]
  · intro active last nets root rest ihroot ihrest nets' same
    rw [runBodyTrace.eq_2, runBodyTrace.eq_2, ihroot nets' same]
    congr 1
    exact (coupled.2.2.2.2.2 active root nets nets' same).traceThen fun v _ after after' _ sameAfter =>
      ihrest v after after' sameAfter
  · intro active last nets items rest ihitems ihrest nets' same
    rw [runBodyTrace.eq_3, runBodyTrace.eq_3, ihitems nets' same]
    congr 1
    exact (coupled.2.2.2.2.1 active items nets nets' same).traceThen fun _ _ after after' _ sameAfter =>
      ihrest after after' sameAfter
  · intro active last nets head rest notExpression notPipeline ih nets' same
    rw [runBodyTrace.eq_4 sc active nets head rest notExpression notPipeline,
      runBodyTrace.eq_4 sc active nets' head rest notExpression notPipeline]
    exact ih nets' same
  · intro active nets nets' same
    rw [pipelineTrace.eq_1, pipelineTrace.eq_1]
  · intro active nets n rest body found ih ihrest nets' same
    rw [pipelineTrace_name_logic found, pipelineTrace_name_logic found, ih nets' same]
    congr 1
    exact (coupled.2.2.1 active n body found nets nets' same).traceThen fun _ _ after after' _ sameAfter =>
      ihrest after after' sameAfter
  · intro active nets n rest absent nets' same
    rw [pipelineTrace_name_missing absent, pipelineTrace_name_missing absent]
  · intro active nets x rest notName ih ihrest nets' same
    rw [pipelineTrace.eq_3 sc active nets x rest notName, pipelineTrace.eq_3 sc active nets' x rest notName,
      ih nets' same]
    congr 1
    exact (coupled.1 active x nets nets' same).traceThen fun _ _ after after' _ sameAfter =>
      ihrest after after' sameAfter
  · intro active nets n net located nets' same
    obtain ⟨net', located', _⟩ := same.find?_some located
    rw [bodyItemTrace_name_net located, bodyItemTrace_name_net located']
  · intro active nets n missing body found ih nets' same
    rw [bodyItemTrace_name_logic missing found, bodyItemTrace_name_logic (same.find?_none missing) found]
    exact ih nets' same
  · intro active nets n missing absent nets' same
    rw [bodyItemTrace_name_undeclared missing absent,
      bodyItemTrace_name_undeclared (same.find?_none missing) absent]
  · intro active nets other notName ih nets' same
    rw [bodyItemTrace.eq_2 sc active other nets notName, bodyItemTrace.eq_2 sc active other nets' notName]
    exact ih nets' same

theorem passTrace_level_blind (pipelines : List (List Expr)) {nets nets' : List Net}
    (same : Coupling.any.Nets nets nets') : passTrace sc pipelines nets' = passTrace sc pipelines nets := by
  induction pipelines generalizing nets nets' with
  | nil => rfl
  | cons items rest ih =>
    rw [passTrace, passTrace, (trace_level_blind sc).2.2.2.2.1 [] items nets nets' same]
    congr 1
    exact ((evaluation_coupled Coupling.any sc).2.2.2.2.1 [] items nets nets' same).traceThen
      fun _ _ after after' _ sameAfter => ih sameAfter

end LevelBlind

theorem Instance.trace_eq_of_layout {inst inst' : Instance} (shared : List LogicBlock)
    (same : inst'.layout = inst.layout) : inst'.trace shared = inst.trace shared := by
  have coupled := Coupling.instances_any_of_layout same
  rw [Instance.trace, Instance.trace, coupled.name, coupled.logic, coupled.pipelines]
  exact passTrace_level_blind _ _ coupled.nets

/-! ### Nets that agree off a set of names -/

theorem Net.eq_of_fields {n n' : Net} (name : n'.name = n.name) (role : n'.role = n.role)
    (level : n'.level = n.level) : n' = n := by
  cases n
  cases n'
  cases name
  cases role
  cases level
  rfl

namespace Net

/-- `nets'` has the names and roles of `nets`, net by net, and the same level on every net whose
name is not in `dirty`. -/
def AgreeOff (dirty : List String) (nets nets' : List Net) : Prop :=
  List.Forall₂ (fun n n' => n'.name = n.name ∧ n'.role = n.role ∧ (n.name ∉ dirty → n'.level = n.level))
    nets nets'

namespace AgreeOff

variable {dirty more : List String} {a b c : List Net}

theorem refl (dirty : List String) (nets : List Net) : AgreeOff dirty nets nets :=
  List.forall₂_same.2 fun _ _ => ⟨rfl, rfl, fun _ => rfl⟩

theorem mono (agree : AgreeOff dirty a b) (wider : ∀ n ∈ dirty, n ∈ more) : AgreeOff more a b :=
  agree.imp fun _ _ pair => ⟨pair.1, pair.2.1, fun clean => pair.2.2 fun member => clean (wider _ member)⟩

theorem trans (first : AgreeOff dirty a b) (second : AgreeOff more b c) : AgreeOff (dirty ++ more) a c := by
  induction first generalizing c with
  | nil =>
    cases second
    exact .nil
  | @cons n n' _ _ head _ ih =>
    cases second with
    | @cons _ n'' _ _ head' tail' =>
      refine .cons ⟨head'.1.trans head.1, head'.2.1.trans head.2.1, fun clean => ?_⟩ (ih tail')
      rw [List.mem_append, not_or] at clean
      rw [head'.2.2 (head.1 ▸ clean.2), head.2.2 clean.1]

theorem any (agree : AgreeOff dirty a b) : Coupling.any.Nets a b :=
  agree.imp fun _ _ pair => ⟨pair.1, pair.2.1, trivial⟩

theorem names (agree : AgreeOff dirty a b) : b.map (·.name) = a.map (·.name) := by
  induction agree with
  | nil => rfl
  | cons pair _ ih => rw [List.map_cons, List.map_cons, pair.1, ih]

theorem find?_eq {name : String} (agree : AgreeOff dirty a b) (clean : name ∉ dirty) :
    Net.find? b name = Net.find? a name := by
  induction agree with
  | nil => rfl
  | @cons n n' _ _ pair _ ih =>
    unfold Net.find? at ih ⊢
    rw [List.find?_cons, List.find?_cons, pair.1]
    by_cases named : n.name = name
    · have hit : (n.name == name) = true := beq_iff_eq.2 named
      simp only [hit]
      exact congrArg some (Net.eq_of_fields pair.1 pair.2.1 (pair.2.2 (named ▸ clean)))
    · have miss : (n.name == name) = false := by simpa using named
      simp only [miss]
      exact ih

theorem eq_of_nil (agree : AgreeOff [] a b) : b = a := by
  induction agree with
  | nil => rfl
  | cons pair _ ih => rw [Net.eq_of_fields pair.1 pair.2.1 (pair.2.2 List.not_mem_nil), ih]

theorem set_right (agree : AgreeOff dirty a b) (name : String) (level : Level) :
    AgreeOff (name :: dirty) a (Net.set b name level) := by
  unfold Net.set
  rw [AgreeOff, List.forall₂_map_right_iff]
  refine agree.imp fun n n' pair => ?_
  by_cases named : n'.name = name
  · rw [if_pos (beq_iff_eq.2 named)]
    exact ⟨pair.1, pair.2.1, fun clean => absurd (List.mem_cons.2 (.inl (pair.1.symm.trans named))) clean⟩
  · rw [if_neg (by simpa using named)]
    exact ⟨pair.1, pair.2.1, fun clean => pair.2.2 fun member => clean (List.mem_cons_of_mem _ member)⟩

theorem set_both {name : String} (agree : AgreeOff (name :: dirty) a b) (level : Level) :
    AgreeOff dirty (Net.set a name level) (Net.set b name level) := by
  unfold Net.set
  rw [AgreeOff, List.forall₂_map_left_iff, List.forall₂_map_right_iff]
  refine agree.imp fun n n' pair => ?_
  by_cases named : n.name = name
  · have named' : n'.name = name := pair.1.trans named
    rw [if_pos (beq_iff_eq.2 named), if_pos (beq_iff_eq.2 named')]
    exact ⟨pair.1, pair.2.1, fun _ => rfl⟩
  · have named' : ¬n'.name = name := fun same => named (pair.1.symm.trans same)
    rw [if_neg (show ¬(n.name == name) = true by simpa using named),
      if_neg (show ¬(n'.name == name) = true by simpa using named')]
    refine ⟨pair.1, pair.2.1, fun clean => pair.2.2 fun member => ?_⟩
    rcases List.mem_cons.1 member with same | rest
    · exact named same
    · exact clean rest

theorem replay_right (agree : AgreeOff dirty a b) (writes : List (String × Level)) :
    AgreeOff (writes.map (·.1) ++ dirty) a (Net.replay b writes) := by
  induction writes generalizing dirty b with
  | nil => exact agree
  | cons w rest ih =>
    refine (ih (agree.set_right w.1 w.2)).mono fun n member => ?_
    simp only [List.map_cons, List.mem_append, List.mem_cons] at member ⊢
    rcases member with later | first | old
    · exact .inl (.inr later)
    · exact .inl (.inl first)
    · exact .inr old

theorem replay_both {writes : List (String × Level)} (agree : AgreeOff (writes.map (·.1) ++ dirty) a b) :
    AgreeOff dirty (Net.replay a writes) (Net.replay b writes) := by
  induction writes generalizing a b with
  | nil => exact agree
  | cons w rest ih =>
    rw [List.map_cons, List.cons_append] at agree
    exact ih (agree.set_both w.2)

end AgreeOff

end Net

/-! ### A step changes only what its trace drives -/

namespace Outcome

/-- A step from `nets` whose nets after it agree with `nets` off the nets `trace` drives. -/
abbrev Confined (trace : List Access) (o : Outcome α) (nets : List Net) : Prop :=
  Net.AgreeOff (Access.written trace) nets o.nets

theorem Confined.nil {o : Outcome α} {nets : List Net} (same : o.nets = nets) : Confined [] o nets := by
  rw [Confined, same]
  exact Net.AgreeOff.refl _ nets

theorem Confined.andThen {o : Outcome α} {k : α → List Net → Outcome β} {kt : α → List Net → List Access}
    {t : List Access} {nets : List Net} (first : Confined t o nets)
    (next : ∀ a, o.result = .ok a → Confined (kt a o.nets) (k a o.nets) o.nets) :
    Confined (t ++ o.traceThen kt) (o.andThen k) nets := by
  cases done : o.result with
  | ok a =>
    rw [Confined, andThen_of_ok done, traceThen_of_ok done, Access.written_append]
    exact first.trans (next a done)
  | error f =>
    rw [Confined, andThen_of_error done, traceThen_of_error done, List.append_nil]
    exact first

theorem Confined.andThen_quiet {o : Outcome α} {k : α → List Net → Outcome β} {t : List Access}
    {nets : List Net} (first : Confined t o nets) (next : ∀ a, o.result = .ok a → (k a o.nets).nets = o.nets) :
    Confined t (o.andThen k) nets := by
  cases done : o.result with
  | ok a =>
    rw [Confined, andThen_of_ok done]
    dsimp only
    rw [next a done]
    exact first
  | error f =>
    rw [Confined, andThen_of_error done]
    exact first

end Outcome

section Confinement

variable (sc : Scope)

theorem evaluation_confined :
    (∀ active e nets, (value sc active e nets).Confined (valueTrace sc active e nets) nets) ∧
    (∀ active items nets, (values sc active items nets).Confined (valuesTrace sc active items nets) nets) ∧
    (∀ active name body found nets,
      (runLogic sc active name body found nets).Confined (runLogicTrace sc active name body found nets) nets) ∧
    (∀ active body last nets,
      (runBody sc active body last nets).Confined (runBodyTrace sc active body nets) nets) ∧
    (∀ active items nets, (pipeline sc active items nets).Confined (pipelineTrace sc active items nets) nets) ∧
    (∀ active e nets, (bodyItem sc active e nets).Confined (bodyItemTrace sc active e nets) nets) := by
  apply value.mutual_induct sc
  · intro active nets n net located
    rw [value_name_net located, valueTrace_name_net located]
    exact .nil rfl
  · intro active nets n missing body found ih
    rw [value_name_logic missing found, valueTrace_name_logic missing found]
    refine ih.andThen_quiet fun v _ => ?_
    split <;> rfl
  · intro active nets n missing absent
    rw [value_name_undeclared missing absent, valueTrace_name_undeclared missing absent]
    exact .nil rfl
  · intro active nets digits
    rw [value.eq_2, valueTrace.eq_2]
    exact .nil rfl
  · intro active nets items ih
    rw [value.eq_3, valueTrace.eq_3]
    exact ih
  · intro active nets lhs rhs ih
    rw [value.eq_4, valueTrace.eq_4, if_pos rfl, if_pos rfl]
    refine ih.andThen fun source _ => ?_
    cases resolved : connectionTargets sc (value sc active lhs nets).nets rhs with
    | ok targets =>
      dsimp only
      rw [Outcome.Confined, connectLanes_eq, Access.written_map_write]
      have driven := (Net.AgreeOff.refl [] (value sc active lhs nets).nets).replay_right
        (connectLanes sc.component source targets []).writes
      rwa [List.append_nil] at driven
    | error f => exact .nil rfl
  · intro active nets op lhs rhs notConnect g gate ihl ihr
    simp only [value.eq_4, valueTrace.eq_4, if_neg notConnect, gate]
    refine ihl.andThen fun _ _ => (ihr _).andThen_quiet fun _ _ => ?_
    split <;> rfl
  · intro active nets op lhs rhs notConnect unknown
    simp only [value.eq_4, valueTrace.eq_4, if_neg notConnect, unknown]
    exact .nil rfl
  · intro active nets
    rw [values.eq_1, valuesTrace.eq_1]
    exact .nil rfl
  · intro active nets x xs ihx ihxs
    rw [values.eq_2, valuesTrace.eq_2]
    exact ihx.andThen fun _ _ => (ihxs _).andThen_quiet fun _ _ => rfl
  · intro active name body found nets idle _ ih
    rw [runLogic.eq_1, runLogicTrace.eq_1, dif_pos idle, dif_pos idle, Outcome.Confined,
      Access.written_append, Access.written_enter, Access.written_leave, Access.written_nil, List.append_nil]
    exact ih
  · intro active name body found nets busy
    rw [runLogic.eq_1, runLogicTrace.eq_1, dif_neg busy, dif_neg busy]
    exact .nil rfl
  · intro active last nets
    rw [runBody.eq_1, runBodyTrace.eq_1]
    exact .nil rfl
  · intro active last nets root rest ihroot ihrest
    rw [runBody.eq_2, runBodyTrace.eq_2]
    exact ihroot.andThen fun v _ => ihrest v _
  · intro active last nets items rest ihitems ihrest
    rw [runBody.eq_3, runBodyTrace.eq_3]
    exact ihitems.andThen fun _ _ => ihrest _
  · intro active last nets head rest notExpression notPipeline ih
    rw [runBody.eq_4 sc active last nets head rest notExpression notPipeline,
      runBodyTrace.eq_4 sc active nets head rest notExpression notPipeline]
    exact ih
  · intro active nets
    rw [pipeline.eq_1, pipelineTrace.eq_1]
    exact .nil rfl
  · intro active nets n rest body found ih ihrest
    rw [pipeline_name_logic found, pipelineTrace_name_logic found]
    exact ih.andThen fun _ _ => ihrest _
  · intro active nets n rest absent
    rw [pipeline_name_missing absent, pipelineTrace_name_missing absent]
    exact .nil rfl
  · intro active nets x rest notName ih ihrest
    rw [pipeline.eq_3 sc active nets x rest notName, pipelineTrace.eq_3 sc active nets x rest notName]
    exact ih.andThen fun _ _ => ihrest _
  · intro active nets n net located
    rw [bodyItem_name_net located, bodyItemTrace_name_net located]
    exact .nil rfl
  · intro active nets n missing body found ih
    rw [bodyItem_name_logic missing found, bodyItemTrace_name_logic missing found]
    exact ih
  · intro active nets n missing absent
    rw [bodyItem_name_undeclared missing absent, bodyItemTrace_name_undeclared missing absent]
    exact .nil rfl
  · intro active nets other notName ih
    rw [bodyItem.eq_2 sc active other nets notName, bodyItemTrace.eq_2 sc active other nets notName]
    exact ih

theorem passFrom_confined (index : Nat) (pipelines : List (List Expr)) (nets : List Net) :
    Net.AgreeOff (Access.written (passTrace sc pipelines nets)) nets (passFrom sc index pipelines nets).2.1 := by
  induction pipelines generalizing index nets with
  | nil => exact Net.AgreeOff.refl _ nets
  | cons items rest ih =>
    have first := (evaluation_confined sc).2.2.2.2.1 [] items nets
    rw [passTrace, Access.written_append]
    simp only [passFrom]
    cases done : (pipeline sc [] items nets).result with
    | ok u =>
      rw [Outcome.traceThen_of_ok done]
      exact first.trans (ih (index + 1) _)
    | error f =>
      rw [Outcome.traceThen_of_error done, Access.written_nil, List.append_nil]
      exact first

end Confinement

theorem Instance.evaluate_confined (inst : Instance) (shared : List LogicBlock) :
    (inst.evaluate shared).2.1 = { inst with nets := (inst.evaluate shared).2.1.nets } ∧
      Net.AgreeOff (Access.written (inst.trace shared)) inst.nets (inst.evaluate shared).2.1.nets :=
  ⟨rfl, passFrom_confined _ 0 inst.pipelines inst.nets⟩

end Circuitry
