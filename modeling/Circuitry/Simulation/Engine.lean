import Circuitry.Journal
import Circuitry.Simulation.Evaluate

/-!
# The simulation engine

An engine holds one instance per component, in declaration order, and the instance `global`
made of every top-level declaration that is not a component. The global instance's logic
blocks are shared: a component looks a logic block up among its own first, then among them.

A run evaluates every component in order and then the global instance; with strict outputs it
then requires every output of every instance, by instance in that order and by name within
one, to be driven. A stimulus sets inputs of named instances.

An instance is addressed by its slot: the global one, or a component by its position in
declaration order. A name addresses `global`, or the component of that name.

Operations return the records they emit, in order, beside their results: a debug record when
a component has been set up, when a pipeline starts and when a net is driven, and an info
record when a run completes.
-/

namespace Circuitry

/-- An engine: the component instances in declaration order, the global instance, and whether
runs require every output to be driven. -/
structure Engine where
  components : List Instance
  global : Instance
  strict : Bool
deriving Repr

abbrev Stimulus := List (String × List (String × Level))

namespace Engine

def instantiated (inst : Instance) : Record :=
  ⟨.debug, "component instantiated",
    [("component", .text inst.name),
     ("inputs", .count (Net.levelsOf inst.nets .input).length),
     ("outputs", .count (Net.levelsOf inst.nets .output).length),
     ("privates", .count (Net.levelsOf inst.nets .internal).length)]⟩

/-- Sets up the components in order after the global instance; a name used twice is refused. -/
def addComponents (done : List Instance) :
    List (String × List Decl) → Except CircuitFault (List Instance) × List Record
  | [] => (.ok done, [])
  | (name, body) :: rest =>
    if done.any (·.name == name) then (.error (.declaration name .duplicateComponent), [])
    else
      match (Instance.empty name).collect body with
      | .error f => (.error f, [])
      | .ok inst =>
        let (result, records) := addComponents (done ++ [inst]) rest
        (result, instantiated inst :: records)

def componentsOf (p : Program) : List (String × List Decl) :=
  p.body.filterMap fun d =>
    match d with
    | .component name body => some (name, body)
    | _ => none

def globalsOf (p : Program) : List Decl :=
  p.body.filter fun d =>
    match d with
    | .component _ _ => false
    | _ => true

/-- The engine for a program, or the first fault found setting it up; with the records
emitted on the way. -/
def build (p : Program) (strict : Bool) : Except CircuitFault Engine × List Record :=
  match (Instance.empty globalName).collect (globalsOf p) with
  | .error f => (.error f, [])
  | .ok global =>
    let (result, records) := addComponents [] (componentsOf p)
    (result.map fun components => ⟨components, global, strict⟩, records)

/-- Where an instance stands in an engine: the global instance, or the component at a
position in declaration order. -/
inductive Slot
  | global
  | component (index : Nat)
deriving DecidableEq, Repr

def at? (e : Engine) : Slot → Option Instance
  | .global => some e.global
  | .component i => e.components[i]?

def put (e : Engine) (s : Slot) (inst : Instance) : Engine :=
  match s with
  | .global => { e with global := inst }
  | .component i => { e with components := e.components.set i inst }

theorem at?_put_self (e : Engine) (s : Slot) (inst : Instance) (taken : (e.at? s).isSome) :
    (e.put s inst).at? s = some inst := by
  cases s with
  | global => rfl
  | component i =>
    simp only [at?, put, Option.isSome_iff_exists, List.getElem?_eq_some_iff] at taken ⊢
    obtain ⟨_, bound, _⟩ := taken
    exact ⟨by simpa using bound, List.getElem_set_self _⟩

theorem at?_put_of_ne (e : Engine) {s t : Slot} (inst : Instance) (apart : s ≠ t) :
    (e.put s inst).at? t = e.at? t := by
  cases s <;> cases t
  · exact absurd rfl apart
  · rfl
  · rfl
  · rename_i i j
    have : i ≠ j := fun same => apart (congrArg Slot.component same)
    simp only [at?, put, List.getElem?_set_ne this]

theorem put_comm (e : Engine) {s t : Slot} (a b : Instance) (apart : s ≠ t) :
    (e.put s a).put t b = (e.put t b).put s a := by
  cases s <;> cases t
  · exact absurd rfl apart
  · rfl
  · rfl
  · rename_i i j
    have : i ≠ j := fun same => apart (congrArg Slot.component same)
    simp only [put, List.set_comm _ _ this]

@[simp] theorem global_put_component (e : Engine) (i : Nat) (inst : Instance) :
    (e.put (.component i) inst).global = e.global := rfl

def slot? (e : Engine) (name : String) : Option Slot :=
  if name = globalName then some .global
  else (e.components.findIdx? (·.name == name)).map .component

def instance? (e : Engine) (name : String) : Option Instance :=
  (e.slot? name).bind e.at?

def slots (e : Engine) : List Slot :=
  (List.range e.components.length).map .component ++ [.global]

def instances (e : Engine) : List Instance := e.components ++ [e.global]

def sharedAt (e : Engine) : Slot → List LogicBlock
  | .global => []
  | .component _ => e.global.logic

def eventRecord (component : String) : PassEvent → Record
  | .pipelineStart index items =>
    ⟨.debug, "pipeline pass",
      [("component", .text component), ("pipeline", .count index), ("items", .count items)]⟩
  | .driven net level =>
    ⟨.debug, "signal driven",
      [("component", .text component), ("signal", .text net), ("state", .text level.name)]⟩

/-- Evaluates the instance in a slot: the result, the engine after it, the records. An empty
slot evaluates to nothing. -/
def evaluateAt (e : Engine) (s : Slot) : Except CircuitFault Unit × Engine × List Record :=
  match e.at? s with
  | none => (.ok (), e, [])
  | some inst =>
    let (result, after, events) := inst.evaluate (e.sharedAt s)
    (result, e.put s after, events.map (eventRecord inst.name))

def evaluateAll (e : Engine) : List Slot → Except CircuitFault Unit × Engine × List Record
  | [] => (.ok (), e, [])
  | s :: rest =>
    let (result, after, records) := e.evaluateAt s
    match result with
    | .error f => (.error f, after, records)
    | .ok () =>
      let (result2, after2, records2) := evaluateAll after rest
      (result2, after2, records ++ records2)

def firstUndriven (e : Engine) : Option CircuitFault :=
  (e.instances.flatMap fun inst =>
    (inst.outputNames.filter fun n => (Net.find? inst.nets n).any (·.level == .z)).map fun n =>
      CircuitFault.connection inst.name (.undriven n)).head?

/-- One run: every instance evaluated in run order, then, with strict outputs, every output
checked to be driven. -/
def run (e : Engine) : Except CircuitFault Unit × Engine × List Record :=
  let (result, after, records) := evaluateAll e e.slots
  match result with
  | .error f => (.error f, after, records)
  | .ok () =>
    match (if after.strict then after.firstUndriven else none) with
    | some f => (.error f, after, records)
    | none =>
      (.ok (), after,
        records ++ [⟨.info, "run complete", [("components", .count after.components.length)]⟩])

/-- Sets the inputs of one instance in order, stopping at the first that is not an input. -/
def setInputs (inst : Instance) : List (String × Level) → Except CircuitFault Instance × Instance
  | [] => (.ok inst, inst)
  | (name, level) :: rest =>
    match inst.setInput name level with
    | .error f => (.error f, inst)
    | .ok next => setInputs next rest

/-- Applies a stimulus instance by instance; the first fault stops it, and the inputs set
before it stay set. -/
def apply (e : Engine) : Stimulus → Except CircuitFault Unit × Engine
  | [] => (.ok (), e)
  | (component, inputs) :: rest =>
    match e.slot? component with
    | none => (.error (.reference globalName component .notComponent), e)
    | some s =>
      match e.at? s with
      | none => (.error (.reference globalName component .notComponent), e)
      | some inst =>
        match setInputs inst inputs with
        | (.error f, halfway) => (.error f, e.put s halfway)
        | (.ok next, _) => (e.put s next).apply rest

end Engine

/-- An input level of a stimulus that is not a level word: instance, input and the text. -/
structure StimulusFault where
  component : String
  input : String
  text : String
deriving DecidableEq, Repr

/-- The message of a stimulus fault. -/
def StimulusFault.message (f : StimulusFault) : String :=
  f.component ++ "." ++ f.input ++ ": " ++ Level.invalidMessage f.text

/-- Reads the level words of a stimulus; the first that is not one is a fault. -/
def Stimulus.read (raw : List (String × List (String × String))) : Except StimulusFault Stimulus :=
  raw.mapM fun (component, inputs) => do
    let levels ← inputs.mapM fun (input, text) =>
      match Level.read? text with
      | some level => (Except.ok (input, level) : Except StimulusFault (String × Level))
      | none => Except.error ⟨component, input, text⟩
    return (component, levels)

end Circuitry
