import Circuitry.Signal.Level
import Circuitry.Simulation.Fault

/-!
# Instances

An instance is what a component (or the program's top level, the instance `global`) becomes
when it is set up for simulation: its nets, each an input, an output or an internal net with
a level, its logic blocks by name, and its pipelines in order.

Setting up walks the declarations in order. A public section declares inputs and outputs
(a wire there is refused), a private section internal nets, a bare variable a net of its
datatype's role. A logic block is registered under its name and its body is searched for
declarations, which are hoisted into the instance, and for nested logic blocks, which are
registered too; its expressions and pipelines stay in the block. A global block may only
stand at the top level, and no component may be nested. A name can be declared once, either
as a net or as a logic block.
-/

namespace Circuitry

def globalName : String := "global"

/-- The role of a net in its instance. -/
inductive Role
  | input
  | output
  | internal
deriving DecidableEq, Repr

def Role.ofDatatype : Datatype → Role
  | .input => .input
  | .output => .output
  | .wire => .internal

/-- A net: its name, its role and its level. -/
structure Net where
  name : String
  role : Role
  level : Level
deriving DecidableEq, Repr

/-- A named logic block. -/
structure LogicBlock where
  name : String
  body : List Decl
deriving Repr

namespace Net

def find? (nets : List Net) (name : String) : Option Net := nets.find? (·.name == name)

def set (nets : List Net) (name : String) (level : Level) : List Net :=
  nets.map fun n => if n.name == name then { n with level := level } else n

def replay (nets : List Net) (writes : List (String × Level)) : List Net :=
  writes.foldl (fun acc w => set acc w.1 w.2) nets

def levelsOf (nets : List Net) (role : Role) : List (String × Level) :=
  (nets.filter (·.role == role)).map fun n => (n.name, n.level)

end Net

/-- An instance: its name, nets, own logic blocks and pipelines. -/
structure Instance where
  name : String
  nets : List Net
  logic : List LogicBlock
  pipelines : List (List Expr)
deriving Repr

namespace Instance

def empty (name : String) : Instance := ⟨name, [], [], []⟩

def hasNet (inst : Instance) (name : String) : Bool := (Net.find? inst.nets name).isSome

def hasLogic (inst : Instance) (name : String) : Bool := inst.logic.any (·.name == name)

def refuse (inst : Instance) (issue : DeclarationIssue) : Except CircuitFault α :=
  .error (.declaration inst.name issue)

def declareNet (inst : Instance) (role : Role) (name : String) : Except CircuitFault Instance :=
  if inst.hasNet name then inst.refuse (.duplicateSignal name)
  else if inst.hasLogic name then inst.refuse (.signalCollides name)
  else .ok { inst with nets := inst.nets ++ [Net.mk name role .z] }

def declarePublic (inst : Instance) : List Variable → Except CircuitFault Instance
  | [] => .ok inst
  | v :: vs =>
    if v.datatype = .wire then inst.refuse (.publicWire v.name)
    else do
      let next ← inst.declareNet (Role.ofDatatype v.datatype) v.name
      next.declarePublic vs

def declarePrivate (inst : Instance) : List Variable → Except CircuitFault Instance
  | [] => .ok inst
  | v :: vs => do
    let next ← inst.declareNet .internal v.name
    next.declarePrivate vs

mutual

def collect (inst : Instance) : List Decl → Except CircuitFault Instance
  | [] => .ok inst
  | d :: ds => do
    let next ← inst.collectOne d
    next.collect ds

def collectOne (inst : Instance) : Decl → Except CircuitFault Instance
  | .publicSection vs => inst.declarePublic vs
  | .privateSection vs => inst.declarePrivate vs
  | .var v => inst.declareNet (Role.ofDatatype v.datatype) v.name
  | .pipeline items => .ok { inst with pipelines := inst.pipelines ++ [items] }
  | .logic name body => inst.register name body
  | .global body => if inst.name = globalName then inst.collect body else inst.refuse .nestedGlobal
  | .component name _ => inst.refuse (.nestedComponent name)
  | .expression root => inst.refuse (.unexpected (.expression root))

def register (inst : Instance) (name : String) (body : List Decl) : Except CircuitFault Instance :=
  if inst.hasLogic name then inst.refuse (.duplicateLogic name)
  else if inst.hasNet name then inst.refuse (.logicCollides name)
  else { inst with logic := inst.logic ++ [LogicBlock.mk name body] }.hoist body

/-- Hoists the declarations of a logic block's body into the instance, registering nested
logic blocks; expressions and pipelines are left in the block. -/
def hoist (inst : Instance) : List Decl → Except CircuitFault Instance
  | [] => .ok inst
  | d :: ds =>
    match d with
    | .publicSection vs => do
      let next ← inst.declarePublic vs
      next.hoist ds
    | .privateSection vs => do
      let next ← inst.declarePrivate vs
      next.hoist ds
    | .var v => do
      let next ← inst.declareNet (Role.ofDatatype v.datatype) v.name
      next.hoist ds
    | .logic name body => do
      let next ← inst.register name body
      next.hoist ds
    | .component name _ => inst.refuse (.nestedComponent name)
    | .global _ => inst.refuse .nestedGlobal
    | .pipeline _ | .expression _ => inst.hoist ds

end

def setNet (inst : Instance) (name : String) (level : Level) : Instance :=
  { inst with nets := Net.set inst.nets name level }

def outputNames (inst : Instance) : List String :=
  ((Net.levelsOf inst.nets .output).map (·.1)).mergeSort fun a b => decide (a ≤ b)

def setInput (inst : Instance) (name : String) (level : Level) : Except CircuitFault Instance :=
  match Net.find? inst.nets name with
  | some n => if n.role = .input then .ok (inst.setNet name level)
    else .error (.reference inst.name name .notInput)
  | none => .error (.reference inst.name name .notInput)

def output (inst : Instance) (name : String) : Except CircuitFault Level :=
  match Net.find? inst.nets name with
  | some n => if n.role = .output then .ok n.level
    else .error (.reference inst.name name .notOutput)
  | none => .error (.reference inst.name name .notOutput)

def netText (inst : Instance) (name : String) : Option String :=
  (Net.find? inst.nets name).map fun n => n.name ++ ": " ++ n.level.name

end Instance

end Circuitry
