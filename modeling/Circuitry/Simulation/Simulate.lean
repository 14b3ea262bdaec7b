import Circuitry.Simulation.Engine
import Circuitry.Syntax.Program.Parse

/-!
# Simulating a source

A whole simulation: the source is compiled, the stimulus read, the engine set up, the
stimulus applied and one run made. The first step that fails ends it, and its fault says
which step it was.
-/

namespace Circuitry

/-- What a simulation is configured with: the journal's level and type, the two settings of
the source location that records may carry, whether outputs must all be driven, and the
stimulus as text (`none` when never given). -/
structure SimulationConfig where
  level : String
  logType : String
  addSource : Bool
  sourcePath : String
  strictOutputs : Bool
  stimulus : Option (List (String × List (String × String)))
deriving DecidableEq, Repr

namespace SimulationConfig

def blank : SimulationConfig := ⟨"", "", false, "", false, none⟩

def journal (c : SimulationConfig) : Journal :=
  if c.logType.isEmpty then Journal.silent else Journal.ofSettings c.level c.logType

end SimulationConfig

/-- Why a simulation failed, by step. -/
inductive SimulationFault
  | source (f : SyntaxFault)
  | stimulus (f : StimulusFault)
  | setup (f : CircuitFault)
  | apply (f : CircuitFault)
  | run (f : CircuitFault)
deriving Repr

/-- The message of a simulation fault, with the step's prefix where it has one. -/
def SimulationFault.message : SimulationFault → String
  | .source f => f.message
  | .stimulus f => "invalid stimulus: " ++ f.message
  | .setup f => f.message
  | .apply f => "failed to apply stimulus: " ++ f.message
  | .run f => f.message

/-- Simulates a source once: the engine after the run, or the fault; with the records
emitted, in order. -/
def simulate (bytes : List UInt8) (c : SimulationConfig) :
    Except SimulationFault Engine × List Record :=
  match Program.compile defaultLabel bytes with
  | .error f => (.error (.source f), [])
  | .ok p =>
    match Stimulus.read (c.stimulus.getD []) with
    | .error f => (.error (.stimulus f), [])
    | .ok stimulus =>
      match Engine.build p c.strictOutputs with
      | (.error f, records) => (.error (.setup f), records)
      | (.ok e, records) =>
        match e.apply stimulus with
        | (.error f, _) => (.error (.apply f), records)
        | (.ok (), applied) =>
          match applied.run with
          | (.error f, _, more) => (.error (.run f), records ++ more)
          | (.ok (), done, more) => (.ok done, records ++ more)

end Circuitry
