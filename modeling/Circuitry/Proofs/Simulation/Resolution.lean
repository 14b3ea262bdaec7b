import Circuitry.Proofs.Simulation.Recursion
import Circuitry.Proofs.Simulation.Stimulus

/-!
# How a component resolves a name

A component evaluates in a scope of its own logic blocks and the program's shared ones, and its
nets. Three positions look a name up among the nets first: an operand, a bare item of a logic
block's body and a connection target. A bare pipeline item looks it up among logic blocks only,
since it is a logic reference by design.

So a name that is at once a signal of a component and the name of a program-level logic block
resolves to the signal in the first three positions and to the block in the last. In a built
engine no instance has a net and a block of one name (`Engine.Named`), so the block is not one of
the component's own and the lookup reaches the shared block; and the shared blocks have distinct
names, so it reaches that block. Main statement, `Engine.signal_and_block_resolution`: in every
state of a built engine and at every point of a component's evaluation, the signal is read or
driven in the first three positions, while the pipeline item runs the shared block in the
component's nets, and never reports that the name is not a logic block
(`shared_block_runs_under_signal_name`).
-/

namespace Circuitry

theorem Instance.taken_of_layout {a b : Instance} (same : a.layout = b.layout) : a.taken = b.taken := by
  simp only [Instance.layout, Prod.mk.injEq] at same
  have names : a.nets.map (·.name) = b.nets.map (·.name) := by
    simpa [Function.comp_def] using congrArg (List.map Prod.fst) same.2.1
  rw [Instance.taken, Instance.taken, names, same.2.2.1]

theorem Net.Keeps.find?_some {a b : List Net} {name : String} {net : Net} (keeps : Net.Keeps a b)
    (located : Net.find? a name = some net) :
    ∃ net', Net.find? b name = some net' ∧ net'.role = net.role := by
  induction keeps with
  | nil => cases located
  | @cons n n' _ _ same _ ih =>
    simp only [Net.find?, List.find?_cons, same.1] at located ih ⊢
    cases named : n.name == name with
    | true =>
      rw [named] at located
      cases located
      exact ⟨n', rfl, same.2.1⟩
    | false =>
      rw [named] at located
      exact ih located

theorem connectionTargets_name_net {sc : Scope} {nets : List Net} {n : String} {net : Net}
    (located : Net.find? nets n = some net) :
    connectionTargets sc nets (.name n) =
      if net.role = .input then .error (.connection sc.component (.driveInput n)) else .ok [n] := by
  rw [connectionTargets, located]

theorem Instance.signal_not_own {inst : Instance} (named : inst.taken.Nodup) {x : String}
    {signal : Net} (isSignal : Net.find? inst.nets x = some signal) : x ∉ inst.logic.map (·.name) := by
  intro own
  exact (List.nodup_append.1 named).2.2 x (Net.mem_names_of_find? isSignal) x own rfl

theorem Scope.lookup_shared {sc : Scope} {block : LogicBlock} (notOwn : block.name ∉ sc.own.map (·.name))
    (distinct : (sc.shared.map (·.name)).Nodup) (shared : block ∈ sc.shared) :
    sc.lookup block.name = some block.body := by
  have ownMissing : sc.own.find? (·.name == block.name) = none :=
    List.find?_eq_none.2 fun b member named => notOwn (List.mem_map.2 ⟨b, member, by simpa using named⟩)
  rw [Scope.lookup, ownMissing, find?_key_of_mem LogicBlock.name distinct shared, Option.map_some]

namespace Engine

/-- Every instance of the engine has taken each of its names once: no two nets, no two logic
blocks, and no net and logic block, share a name. -/
def Named (e : Engine) : Prop := ∀ s inst, e.at? s = some inst → inst.taken.Nodup

theorem Named.of_layout {e e' : Engine} (same : e.layout = e'.layout) (named : e'.Named) :
    e.Named := by
  intro s inst taken
  have agree := layout_at? same s
  rw [taken, Option.map_some] at agree
  obtain ⟨inst', taken', laid⟩ := Option.map_eq_some_iff.1 agree.symm
  rw [Instance.taken_of_layout laid.symm]
  exact named s inst' taken'

theorem build_named {p : Program} {strict : Bool} {e : Engine}
    (built : (build p strict).1 = .ok e) : e.Named := by
  obtain ⟨_, named, _, bodies, rfl⟩ := (build_eq_ok p strict e).1 built
  intro s inst taken
  cases s with
  | global =>
    cases taken
    exact named
  | component i =>
    obtain ⟨c, member, rfl⟩ := List.mem_map.1 (List.mem_of_getElem? taken)
    exact (bodies c member).2

theorem lookup_shared_of_signal {e : Engine} (named : e.Named) {i : Nat} {inst : Instance}
    (taken : e.at? (.component i) = some inst) {signal : Net} {block : LogicBlock}
    (isSignal : Net.find? inst.nets block.name = some signal) (shared : block ∈ e.global.logic) :
    Scope.lookup ⟨inst.name, inst.logic, e.global.logic⟩ block.name = some block.body :=
  Scope.lookup_shared (Instance.signal_not_own (named _ inst taken) isSignal)
    (List.nodup_append.1 (named .global e.global rfl)).2.1 shared

/-- A name that is both a signal of a component and a program-level logic block, in every state
of a built engine and at every point of the component's evaluation (nets that keep the
component's own): as an operand and as a bare item of a logic block's body it reads the signal,
as a connection target it drives the signal (or is refused as an input), and as a bare pipeline
item, which is a logic reference, it runs the shared block in the component's nets. -/
theorem signal_and_block_resolution {p : Program} {strict : Bool} {built e : Engine}
    (builds : (build p strict).1 = .ok built) (same : e.layout = built.layout)
    {i : Nat} {inst : Instance} (taken : e.at? (.component i) = some inst)
    {x : String} {signal : Net} (isSignal : Net.find? inst.nets x = some signal)
    {block : LogicBlock} (shared : block ∈ e.global.logic) (named : block.name = x)
    (active : List String) (nets : List Net) (kept : Net.Keeps inst.nets nets) (rest : List Expr) :
    (∃ net, Net.find? nets x = some net ∧
      value ⟨inst.name, inst.logic, e.global.logic⟩ active (.name x) nets = .pure [net.level] nets ∧
      bodyItem ⟨inst.name, inst.logic, e.global.logic⟩ active (.name x) nets =
        .pure [net.level] nets) ∧
    connectionTargets ⟨inst.name, inst.logic, e.global.logic⟩ nets (.name x) =
      (if signal.role = .input then .error (.connection inst.name (.driveInput x)) else .ok [x]) ∧
    ∃ found : Scope.lookup ⟨inst.name, inst.logic, e.global.logic⟩ x = some block.body,
      pipeline ⟨inst.name, inst.logic, e.global.logic⟩ active (.name x :: rest) nets =
        (runLogic ⟨inst.name, inst.logic, e.global.logic⟩ active x block.body found nets).andThen
          fun _ after => pipeline ⟨inst.name, inst.logic, e.global.logic⟩ active rest after := by
  subst named
  obtain ⟨net, located, role⟩ := kept.find?_some isSignal
  have found := lookup_shared_of_signal (Named.of_layout same (build_named builds)) taken isSignal shared
  refine ⟨⟨net, located, value_name_net located, bodyItem_name_net located⟩, ?_, found,
    pipeline_name_logic found⟩
  rw [connectionTargets_name_net located, role]

/-- The body `1 => x` of the program's logic block `x`. -/
def oneToX : List Decl := [.expression (.binary "=>" (.numeral "1") (.name "x"))]

/-- `logic x { 1 => x } component C { public { a: input, x: output } pipeline { x } }`. -/
def blockBesideOutput : Program :=
  ⟨[.logic "x" oneToX, .component "C" [.publicSection [⟨"a", .input⟩, ⟨"x", .output⟩], .pipeline [.name "x"]]]⟩

def blockBesideOutputNets : List Net := [⟨"a", .input, .z⟩, ⟨"x", .output, .z⟩]

def blockBesideOutputEngine : Engine :=
  ⟨[⟨"C", blockBesideOutputNets, [], [[.name "x"]]⟩], ⟨globalName, [], [⟨"x", oneToX⟩], []⟩, false⟩

/-- What `C` sees while it is evaluated: no logic of its own, and the program's block `x`. -/
def blockBesideOutputScope : Scope := ⟨"C", [], [⟨"x", oneToX⟩]⟩

theorem blockBesideOutput_builds : (build blockBesideOutput false).1 = .ok blockBesideOutputEngine :=
  (build_eq_ok _ false _).2
    ⟨by simp [blockBesideOutput, oneToX, globalsOf, Decl.AdmissibleAll, Decl.Admissible, Decl.HoistableAll,
        Decl.Hoistable],
      by simp [blockBesideOutput, oneToX, globalsOf, Decl.names, Decl.netsAll, Decl.nets, Decl.blocksAll,
        Decl.blocks],
      by simp [blockBesideOutput, componentsOf],
      by simp [blockBesideOutput, componentsOf, globalName, Decl.AdmissibleAll, Decl.Admissible, Decl.names,
        Decl.netsAll, Decl.nets, Decl.blocksAll, Decl.blocks, Role.ofDatatype],
      rfl⟩

/-- The output `x` of `C` reads as undriven and is a target, while the pipeline item `x` runs the
program's block. -/
theorem output_beside_block_resolution :
    (build blockBesideOutput false).1 = .ok blockBesideOutputEngine ∧
    value blockBesideOutputScope [] (.name "x") blockBesideOutputNets = .pure [.z] blockBesideOutputNets ∧
    connectionTargets blockBesideOutputScope blockBesideOutputNets (.name "x") = .ok ["x"] ∧
    ∃ found : Scope.lookup blockBesideOutputScope "x" = some oneToX,
      pipeline blockBesideOutputScope [] [.name "x"] blockBesideOutputNets =
        (runLogic blockBesideOutputScope [] "x" oneToX found blockBesideOutputNets).andThen fun _ after =>
          pipeline blockBesideOutputScope [] [] after := by
  obtain ⟨⟨net, located, read, -⟩, target, ran⟩ :=
    signal_and_block_resolution blockBesideOutput_builds rfl (i := 0) rfl (x := "x") rfl
      (List.mem_singleton_self _) rfl [] _ (Net.Keeps.refl _) []
  obtain rfl : net = ⟨"x", .output, .z⟩ := by simpa [blockBesideOutputNets, Net.find?] using located.symm
  exact ⟨blockBesideOutput_builds, read, target, ran⟩

/-- Evaluating `C` runs the program's block `x` for the pipeline item `x`, which drives the output
`x` high: the item is not refused as naming no logic block. -/
theorem shared_block_runs_under_signal_name :
    ∃ e : Engine,
      (build blockBesideOutput false).1 = .ok e ∧
      (e.evaluateAt (.component 0)).1 = .ok () ∧
      ((e.evaluateAt (.component 0)).2.1.at? (.component 0)).map (·.nets) =
        some [⟨"a", .input, .z⟩, ⟨"x", .output, .high⟩] := by
  have found : Scope.lookup blockBesideOutputScope "x" = some oneToX := rfl
  simp only [blockBesideOutputScope, oneToX] at found
  refine ⟨blockBesideOutputEngine, blockBesideOutput_builds, ?_, ?_⟩ <;>
  simp [blockBesideOutputEngine, blockBesideOutputNets, oneToX, evaluateAt, at?, sharedAt, put,
    Instance.evaluate, passFrom, pipeline_name_logic found, pipeline.eq_1, runLogic, runBody, bodyItem, value,
    Outcome.pure, Outcome.andThen, connectionTargets, connectWord, connectLanes, drive, Net.find?, Net.replay,
    Net.set, Bundle.pick, Level.ofNumeral]

end Engine

end Circuitry
