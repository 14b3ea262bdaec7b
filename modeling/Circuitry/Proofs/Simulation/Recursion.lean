import Mathlib.Logic.Relation
import Circuitry.Proofs.Simulation.Bundles
import Circuitry.Proofs.Simulation.Trace

/-!
# Recursion faults and reference cycles

Block `x` refers to block `y` when `y` is named where the body of `x` runs: an expression item,
an operand, an array element or an item of a nested pipeline, but not a connection's targets,
which are driven, nor anything inside a nested logic block, which does not run. A name resolves
as the evaluator resolves it: a net first, except for a bare pipeline item, and then the
instance's own blocks before the shared ones.

The blocks running during evaluation form a path of this graph, from a block that a pipeline of
the instance names to the block running innermost: a block is only run from the body of the
block running innermost, or from a pipeline of the instance. So a block refused as running
already closes a cycle reachable from the pipelines. Conversely a pass that succeeds has run
every block reachable from the pipelines along every path, each time refusing none, so no such
path returns to a block on it. Main statement: `Instance.recursion_on_cycle`.
-/

namespace Circuitry

/-! ### The reference graph -/

mutual

def Expr.blockRefs (sc : Scope) (netNames : List String) : Expr → List String
  | .name n => if n ∈ netNames then [] else if (sc.lookup n).isSome then [n] else []
  | .numeral _ => []
  | .array items => Expr.blockRefsAll sc netNames items
  | .binary op lhs rhs =>
    if op = connectWord then lhs.blockRefs sc netNames
    else lhs.blockRefs sc netNames ++ rhs.blockRefs sc netNames

def Expr.blockRefsAll (sc : Scope) (netNames : List String) : List Expr → List String
  | [] => []
  | x :: xs => x.blockRefs sc netNames ++ Expr.blockRefsAll sc netNames xs

end

def Expr.pipelineRefs (sc : Scope) (netNames : List String) : Expr → List String
  | .name n => if (sc.lookup n).isSome then [n] else []
  | x => x.blockRefs sc netNames

def Decl.blockRefs (sc : Scope) (netNames : List String) : Decl → List String
  | .expression root => root.blockRefs sc netNames
  | .pipeline items => items.flatMap (Expr.pipelineRefs sc netNames)
  | _ => []

section RefsOfNames

variable {sc : Scope} {netNames : List String} {n : String} {body : List Decl}

theorem Expr.blockRefs_net (member : n ∈ netNames) : (Expr.name n).blockRefs sc netNames = [] := by
  rw [Expr.blockRefs, if_pos member]

theorem Expr.blockRefs_block (absent : n ∉ netNames) (found : sc.lookup n = some body) :
    (Expr.name n).blockRefs sc netNames = [n] := by
  rw [Expr.blockRefs, if_neg absent, found]
  rfl

theorem Expr.pipelineRefs_block (found : sc.lookup n = some body) :
    (Expr.name n).pipelineRefs sc netNames = [n] := by
  rw [Expr.pipelineRefs, found]
  rfl

end RefsOfNames

/-- Block `x` refers to block `y`: the body that `x` resolves to names `y`. -/
def Scope.Refers (sc : Scope) (netNames : List String) (x y : String) : Prop :=
  ∃ body, sc.lookup x = some body ∧ y ∈ body.flatMap (Decl.blockRefs sc netNames)

def Instance.Refers (inst : Instance) (shared : List LogicBlock) : String → String → Prop :=
  Scope.Refers ⟨inst.name, inst.logic, shared⟩ (inst.nets.map (·.name))

/-- The blocks an instance's pipelines name, and every block they reach. -/
def Instance.Reaches (inst : Instance) (shared : List LogicBlock) (y : String) : Prop :=
  ∃ root ∈ inst.pipelines.flatMap
      (List.flatMap (Expr.pipelineRefs ⟨inst.name, inst.logic, shared⟩ (inst.nets.map (·.name)))),
    Relation.ReflTransGen (inst.Refers shared) root y

/-! ### Faults that are not recursion faults -/

/-- The block a recursion fault refuses. -/
def CircuitFault.recursion? : CircuitFault → Option String
  | .reference _ y .recursive => some y
  | _ => none

mutual

theorem connectionTargets_recursion (sc : Scope) (nets : List Net) :
    (e : Expr) → ∀ {f : CircuitFault}, connectionTargets sc nets e = .error f → f.recursion? = none
  | .name n, f, refused => by
    unfold connectionTargets at refused
    split at refused
    · split at refused
      · cases refused
        rfl
      · cases refused
    · split at refused <;> cases refused <;> rfl
  | .array items, f, refused => by
    unfold connectionTargets at refused
    exact arrayTargets_recursion sc nets items refused
  | .numeral _, f, refused => by
    unfold connectionTargets at refused
    cases refused
    rfl
  | .binary _ _ _, f, refused => by
    unfold connectionTargets at refused
    cases refused
    rfl

theorem arrayTargets_recursion (sc : Scope) (nets : List Net) :
    (items : List Expr) → ∀ {f : CircuitFault},
      connectionTargets.arrayTargets sc nets items = .error f → f.recursion? = none
  | [], f, refused => by
    unfold connectionTargets.arrayTargets at refused
    cases refused
  | x :: xs, f, refused => by
    unfold connectionTargets.arrayTargets at refused
    cases first : connectionTargets sc nets x with
    | error f' =>
      simp only [first, bind, Except.bind] at refused
      cases refused
      exact connectionTargets_recursion sc nets x first
    | ok ts =>
      cases more : connectionTargets.arrayTargets sc nets xs with
      | error f' =>
        simp only [first, more, bind, Except.bind] at refused
        cases refused
        exact arrayTargets_recursion sc nets xs more
      | ok us => simp [first, more, bind, Except.bind, pure, Except.pure] at refused

end

theorem gateLanes_recursion {component op : String} {g : Gate} {l r : Bundle} {f : CircuitFault}
    (refused : gateLanes component op g l r = .error f) : f.recursion? = none := by
  unfold gateLanes at refused
  split at refused
  · cases refused
    rfl
  · split at refused
    · cases refused
      rfl
    · cases refused

theorem connectLanes_recursion {component : String} {source : Bundle} {targets : List String}
    {nets : List Net} {f : CircuitFault}
    (refused : (connectLanes component source targets nets).result = .error f) : f.recursion? = none := by
  unfold connectLanes at refused
  split at refused
  · cases refused
    rfl
  · split at refused
    · cases refused
      rfl
    · split at refused
      · cases refused
        rfl
      · cases refused

/-! ### Paths of running blocks -/

section Paths

variable {sc : Scope} {netNames : List String} {Reach : String → Prop}

/-- Block `y`, named while the blocks `active` run, is reachable, and reached from every block
running. -/
def OnPath (sc : Scope) (netNames : List String) (Reach : String → Prop) (active : List String)
    (y : String) : Prop :=
  Reach y ∧ ∀ z ∈ active, Relation.TransGen (sc.Refers netNames) z y

/-- No block reachable from `y` runs or lies on a cycle. -/
def Clear (sc : Scope) (netNames : List String) (active : List String) (y : String) : Prop :=
  ∀ w, Relation.ReflTransGen (sc.Refers netNames) y w → w ∉ active ∧ ¬Relation.TransGen (sc.Refers netNames) w w

theorem OnPath.enter (closed : ∀ x y, Reach x → sc.Refers netNames x y → Reach y) {active : List String}
    {name y : String} {body : List Decl} (path : OnPath sc netNames Reach active name)
    (found : sc.lookup name = some body) (named : y ∈ body.flatMap (Decl.blockRefs sc netNames)) :
    OnPath sc netNames Reach (name :: active) y := by
  have edge : sc.Refers netNames name y := ⟨body, found, named⟩
  refine ⟨closed name y path.1 edge, fun z member => ?_⟩
  rcases List.mem_cons.1 member with rfl | running
  · exact .single edge
  · exact .tail (path.2 z running) edge

theorem OnPath.cycle {active : List String} {name : String} (path : OnPath sc netNames Reach active name)
    (running : name ∈ active) : Reach name ∧ Relation.TransGen (sc.Refers netNames) name name :=
  ⟨path.1, path.2 name running⟩

theorem Clear.of_body {active : List String} {name : String} {body : List Decl} (idle : name ∉ active)
    (found : sc.lookup name = some body)
    (clear : ∀ y ∈ body.flatMap (Decl.blockRefs sc netNames), Clear sc netNames (name :: active) y) :
    Clear sc netNames active name := by
  have step : ∀ y, sc.Refers netNames name y → Clear sc netNames (name :: active) y := by
    rintro y ⟨body', found', named⟩
    obtain rfl : body' = body := Option.some.inj (found'.symm.trans found)
    exact clear y named
  intro w reached
  rcases reached.cases_head with same | ⟨y, edge, later⟩
  · rw [← same]
    refine ⟨idle, fun cycle => ?_⟩
    obtain ⟨y, edge, back⟩ := Relation.TransGen.head'_iff.1 cycle
    exact (step y edge name back).1 List.mem_cons_self
  · have beyond := step y edge w later
    exact ⟨fun running => beyond.1 (List.mem_cons_of_mem _ running), beyond.2⟩

end Paths

/-! ### Each step of evaluation -/

namespace Outcome

variable {sc : Scope} {netNames : List String} {Reach : String → Prop}

/-- What a step naming the blocks `refs` guarantees, while the blocks `active` run: a recursion
fault it ends with is on a reachable cycle when its references stand on paths, and when it
succeeds its references are clear. -/
structure CycleSound (sc : Scope) (netNames : List String) (Reach : String → Prop) (active refs : List String)
    (o : Outcome α) : Prop where
  fault : (∀ y ∈ refs, OnPath sc netNames Reach active y) → ∀ f, o.result = .error f → ∀ y,
    f.recursion? = some y → Reach y ∧ Relation.TransGen (sc.Refers netNames) y y
  clear : ∀ v, o.result = .ok v → ∀ y ∈ refs, Clear sc netNames active y

variable {active : List String}

theorem CycleSound.pure (a : α) (nets : List Net) : CycleSound sc netNames Reach active [] (.pure a nets) :=
  ⟨fun _ _ failed => (by cases failed), fun _ _ _ absent => absurd absent List.not_mem_nil⟩

theorem CycleSound.fail {refs : List String} {f : CircuitFault} (other : f.recursion? = none) (nets : List Net) :
    CycleSound sc netNames Reach active refs (.fail f nets : Outcome α) := by
  refine ⟨fun _ f' failed y named => ?_, fun _ done => by cases done⟩
  cases failed
  rw [other] at named
  cases named

theorem CycleSound.andThen {refs more : List String} {o : Outcome α} {k : α → List Net → Outcome β}
    (first : CycleSound sc netNames Reach active refs o)
    (next : ∀ a, o.result = .ok a → CycleSound sc netNames Reach active more (k a o.nets)) :
    CycleSound sc netNames Reach active (refs ++ more) (o.andThen k) := by
  constructor
  · intro paths f failed y named
    have firstPaths := fun y member => paths y (List.mem_append_left more member)
    have morePaths := fun y member => paths y (List.mem_append_right refs member)
    cases done : o.result with
    | ok a =>
      rw [andThen_of_ok done] at failed
      exact (next a done).fault morePaths f failed y named
    | error f' =>
      rw [andThen_of_error done] at failed
      cases failed
      exact first.fault firstPaths f done y named
  · intro b done y member
    obtain ⟨a, firstDone, nextDone⟩ := andThen_ok done
    rcases List.mem_append.1 member with here | later
    · exact first.clear a firstDone y here
    · exact (next a firstDone).clear b nextDone y later

theorem CycleSound.andThen_plain {refs : List String} {o : Outcome α} {k : α → List Net → Outcome β}
    (first : CycleSound sc netNames Reach active refs o)
    (next : ∀ a f, o.result = .ok a → (k a o.nets).result = .error f → f.recursion? = none) :
    CycleSound sc netNames Reach active refs (o.andThen k) := by
  rw [← List.append_nil refs]
  refine first.andThen fun a done => ⟨fun _ f failed y named => ?_, fun _ _ _ absent => absurd absent List.not_mem_nil⟩
  rw [next a f done failed] at named
  cases named

end Outcome

/-! ### Nets keep their names -/

theorem Net.mem_names_of_find? {nets : List Net} {n : String} {net : Net} (located : Net.find? nets n = some net) :
    n ∈ nets.map (·.name) := by
  have named := List.find?_some located
  simp only [beq_iff_eq] at named
  exact List.mem_map.2 ⟨net, List.mem_of_find?_eq_some located, named⟩

theorem Net.not_mem_names_of_find? {nets : List Net} {n : String} (missing : Net.find? nets n = none) :
    n ∉ nets.map (·.name) := by
  intro member
  obtain ⟨net, held, named⟩ := List.mem_map.1 member
  have unnamed := List.find?_eq_none.1 missing net held
  simp [named] at unnamed

section Names

variable (sc : Scope) (active : List String) (nets : List Net)

theorem value_names (e : Expr) : (value sc active e nets).nets.map (·.name) = nets.map (·.name) :=
  ((evaluation_confined sc).1 active e nets).names

theorem runLogic_names (name : String) (body : List Decl) (found : sc.lookup name = some body) :
    (runLogic sc active name body found nets).nets.map (·.name) = nets.map (·.name) :=
  ((evaluation_confined sc).2.2.1 active name body found nets).names

theorem pipeline_names (items : List Expr) :
    (pipeline sc active items nets).nets.map (·.name) = nets.map (·.name) :=
  ((evaluation_confined sc).2.2.2.2.1 active items nets).names

theorem bodyItem_names (e : Expr) : (bodyItem sc active e nets).nets.map (·.name) = nets.map (·.name) :=
  ((evaluation_confined sc).2.2.2.2.2 active e nets).names

end Names

/-! ### Evaluation keeps the running blocks on a path -/

theorem evaluation_cycle_sound (sc : Scope) (netNames : List String) {Reach : String → Prop}
    (closed : ∀ x y, Reach x → sc.Refers netNames x y → Reach y) :
    (∀ active e nets, nets.map (·.name) = netNames →
      (value sc active e nets).CycleSound sc netNames Reach active (e.blockRefs sc netNames)) ∧
    (∀ active items nets, nets.map (·.name) = netNames →
      (values sc active items nets).CycleSound sc netNames Reach active (Expr.blockRefsAll sc netNames items)) ∧
    (∀ active name body found nets, nets.map (·.name) = netNames →
      (runLogic sc active name body found nets).CycleSound sc netNames Reach active [name]) ∧
    (∀ active body last nets, nets.map (·.name) = netNames →
      (runBody sc active body last nets).CycleSound sc netNames Reach active
        (body.flatMap (Decl.blockRefs sc netNames))) ∧
    (∀ active items nets, nets.map (·.name) = netNames →
      (pipeline sc active items nets).CycleSound sc netNames Reach active
        (items.flatMap (Expr.pipelineRefs sc netNames))) ∧
    (∀ active e nets, nets.map (·.name) = netNames →
      (bodyItem sc active e nets).CycleSound sc netNames Reach active (e.blockRefs sc netNames)) := by
  apply value.mutual_induct sc
  · intro active nets n net located named
    rw [value_name_net located, Expr.blockRefs_net (named ▸ Net.mem_names_of_find? located)]
    exact .pure _ _
  · intro active nets n missing body found ih named
    rw [value_name_logic missing found, Expr.blockRefs_block (named ▸ Net.not_mem_names_of_find? missing) found]
    refine (ih named).andThen_plain fun v f _ failed => ?_
    split at failed
    · cases failed
      rfl
    · cases failed
  · intro active nets n missing absent named
    rw [value_name_undeclared missing absent]
    exact .fail rfl _
  · intro active nets digits named
    rw [value.eq_2, Expr.blockRefs]
    exact .pure _ _
  · intro active nets items ih named
    rw [value.eq_3, Expr.blockRefs]
    exact ih named
  · intro active nets lhs rhs ih named
    rw [value.eq_4, if_pos rfl, Expr.blockRefs, if_pos rfl]
    refine (ih named).andThen_plain fun source f _ failed => ?_
    split at failed
    · exact connectLanes_recursion failed
    · rename_i f' refused
      cases failed
      exact connectionTargets_recursion sc _ rhs refused
  · intro active nets op lhs rhs notConnect g gate ihl ihr named
    simp only [value.eq_4, if_neg notConnect, gate, Expr.blockRefs]
    refine (ihl named).andThen fun l _ =>
      (ihr _ ((value_names sc active nets lhs).trans named)).andThen_plain fun r f _ failed => ?_
    split at failed
    · cases failed
    · rename_i f' refused
      cases failed
      exact gateLanes_recursion refused
  · intro active nets op lhs rhs notConnect unknown named
    simp only [value.eq_4, if_neg notConnect, unknown]
    exact .fail rfl _
  · intro active nets named
    rw [values.eq_1, Expr.blockRefsAll]
    exact .pure _ _
  · intro active nets x xs ihx ihxs named
    rw [values.eq_2, Expr.blockRefsAll]
    exact (ihx named).andThen fun v _ =>
      (ihxs _ ((value_names sc active nets x).trans named)).andThen_plain fun vs f _ failed => by cases failed
  · intro active name body found nets idle _ ih named
    rw [runLogic.eq_1, dif_pos idle]
    have free : name ∉ active := by simpa using idle
    constructor
    · intro paths f failed y refused
      have path := paths name List.mem_cons_self
      exact (ih named).fault (fun y member => path.enter closed found member) f failed y refused
    · intro v done y member
      rw [List.mem_singleton.1 member]
      exact Clear.of_body free found ((ih named).clear v done)
  · intro active name body found nets busy named
    rw [runLogic.eq_1, dif_neg busy]
    constructor
    · intro paths f failed y refused
      cases failed
      have same : name = y := Option.some.inj refused
      rw [← same]
      exact (paths name List.mem_cons_self).cycle (by simpa using busy)
    · intro v done
      cases done
  · intro active last nets named
    rw [runBody.eq_1]
    exact .pure _ _
  · intro active last nets root rest ihroot ihrest named
    rw [runBody.eq_2, List.flatMap_cons, Decl.blockRefs]
    exact (ihroot named).andThen fun v _ => ihrest v _ ((bodyItem_names sc active nets root).trans named)
  · intro active last nets items rest ihitems ihrest named
    rw [runBody.eq_3, List.flatMap_cons, Decl.blockRefs]
    exact (ihitems named).andThen fun _ _ => ihrest _ ((pipeline_names sc active nets items).trans named)
  · intro active last nets head rest notExpression notPipeline ih named
    rw [runBody.eq_4 sc active last nets head rest notExpression notPipeline, List.flatMap_cons,
      Decl.blockRefs.eq_3 sc netNames head notExpression notPipeline, List.nil_append]
    exact ih named
  · intro active nets named
    rw [pipeline.eq_1]
    exact .pure _ _
  · intro active nets n rest body found ih ihrest named
    rw [pipeline_name_logic found, List.flatMap_cons, Expr.pipelineRefs_block found]
    exact (ih named).andThen fun _ _ => ihrest _ ((runLogic_names sc active nets n body found).trans named)
  · intro active nets n rest absent named
    rw [pipeline_name_missing absent]
    exact .fail rfl _
  · intro active nets x rest notName ih ihrest named
    rw [pipeline.eq_3 sc active nets x rest notName, List.flatMap_cons,
      Expr.pipelineRefs.eq_2 sc netNames x notName]
    exact (ih named).andThen fun _ _ => ihrest _ ((value_names sc active nets x).trans named)
  · intro active nets n net located named
    rw [bodyItem_name_net located, Expr.blockRefs_net (named ▸ Net.mem_names_of_find? located)]
    exact .pure _ _
  · intro active nets n missing body found ih named
    rw [bodyItem_name_logic missing found,
      Expr.blockRefs_block (named ▸ Net.not_mem_names_of_find? missing) found]
    exact ih named
  · intro active nets n missing absent named
    rw [bodyItem_name_undeclared missing absent]
    exact .fail rfl _
  · intro active nets other notName ih named
    rw [bodyItem.eq_2 sc active other nets notName]
    exact ih named

theorem passFrom_cycle_sound (sc : Scope) (netNames : List String) {Reach : String → Prop}
    (closed : ∀ x y, Reach x → sc.Refers netNames x y → Reach y) (index : Nat)
    (pipelines : List (List Expr)) (nets : List Net) (named : nets.map (·.name) = netNames)
    (rooted : ∀ y ∈ pipelines.flatMap (List.flatMap (Expr.pipelineRefs sc netNames)), Reach y) :
    (∀ f y, (passFrom sc index pipelines nets).1 = .error f → f.recursion? = some y →
      Reach y ∧ Relation.TransGen (sc.Refers netNames) y y) ∧
    ((passFrom sc index pipelines nets).1 = .ok () →
      ∀ y ∈ pipelines.flatMap (List.flatMap (Expr.pipelineRefs sc netNames)), Clear sc netNames [] y) := by
  induction pipelines generalizing index nets with
  | nil =>
    exact ⟨fun f y failed => (by cases failed), fun _ y absent => absurd absent List.not_mem_nil⟩
  | cons items rest ih =>
    rw [List.flatMap_cons] at rooted ⊢
    have first := (evaluation_cycle_sound sc netNames closed).2.2.2.2.1 [] items nets named
    have paths : ∀ y ∈ items.flatMap (Expr.pipelineRefs sc netNames), OnPath sc netNames Reach [] y :=
      fun y member => ⟨rooted y (List.mem_append_left _ member), fun _ absent => absurd absent List.not_mem_nil⟩
    simp only [passFrom]
    cases done : (pipeline sc [] items nets).result with
    | ok u =>
      obtain ⟨fault, clear⟩ := ih (index + 1) (pipeline sc [] items nets).nets
        ((pipeline_names sc [] nets items).trans named) fun y member => rooted y (List.mem_append_right _ member)
      refine ⟨fault, fun finished y member => ?_⟩
      rcases List.mem_append.1 member with here | later
      · exact first.clear u done y here
      · exact clear finished y later
    | error f =>
      refine ⟨fun f' y failed refused => ?_, fun finished => by cases finished⟩
      cases failed
      exact first.fault paths f done y refused

/-- A recursion fault is raised exactly on a reachable reference cycle. For every instance,
shared blocks and state: when evaluation stops because block `y` is referenced while it runs,
`y` is reachable from the instance's pipelines and lies on a cycle of the reference graph; and
when evaluation succeeds, no block reachable from the pipelines lies on a cycle, so the part of
the graph the pipelines reach is acyclic. -/
theorem Instance.recursion_on_cycle (inst : Instance) (shared : List LogicBlock) :
    (∀ c y, (inst.evaluate shared).1 = .error (.reference c y .recursive) →
      inst.Reaches shared y ∧ Relation.TransGen (inst.Refers shared) y y) ∧
    ((inst.evaluate shared).1 = .ok () →
      ∀ y, inst.Reaches shared y → ¬Relation.TransGen (inst.Refers shared) y y) := by
  have closed : ∀ x y, inst.Reaches shared x → inst.Refers shared x y → inst.Reaches shared y := by
    rintro x y ⟨root, rootNamed, path⟩ edge
    exact ⟨root, rootNamed, path.tail edge⟩
  obtain ⟨fault, clear⟩ := passFrom_cycle_sound ⟨inst.name, inst.logic, shared⟩ (inst.nets.map (·.name))
    closed 0 inst.pipelines inst.nets rfl fun y named => ⟨y, named, .refl⟩
  refine ⟨fun c y failed => fault _ y failed rfl, ?_⟩
  rintro finished y ⟨root, rootNamed, path⟩
  exact (clear finished root rootNamed y path).2

end Circuitry
