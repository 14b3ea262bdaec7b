import Circuitry.Settings.Load
import Circuitry.Simulation.Simulate

/-!
# Simulation settings

The settings of a simulation as a settings record: the journal (`level`, default `info`;
`log_type`; `add_source`; `source_path`), `strict_outputs`, and the `stimulus` as a table of
components to tables of inputs to text. They are read from files in order, then from
environment variables prefixed `HDLSIM` (`HDLSIM_LOGGER_LEVEL`).
-/

namespace Circuitry

def sameTags (name : String) : Settings.Tags := ⟨none, some name, some name, none⟩

def journalSchema : Settings.Schema :=
  .mk "xlogger.Config"
    [.mk "Level" true .text ⟨none, some "level", some "level", some "info"⟩,
     .mk "LogType" true .text (sameTags "log_type"),
     .mk "AddSource" true .flag (sameTags "add_source"),
     .mk "SourcePath" true .text (sameTags "source_path")]
    []

def simulationSchema : Settings.Schema :=
  .mk "hdlsim.Config"
    [.mk "Logger" true (.record journalSchema) (sameTags "logger"),
     .mk "StrictOutputs" true .flag (sameTags "strict_outputs"),
     .mk "Stimulus" true (.table .text (.table .text .text)) (sameTags "stimulus")]
    []

def simulationEnvPrefix : String := "HDLSIM"

/-- Why simulation settings could not be loaded. -/
structure SettingsFault where
  issue : Settings.LoadIssue
deriving Repr

def SettingsFault.aborts (f : SettingsFault) : Bool := f.issue.aborts

/-- The message of a settings fault; one that aborts the load says only what went wrong. -/
def SettingsFault.message (f : SettingsFault) : String :=
  if f.issue.aborts then f.issue.message else "failed to load config: " ++ f.issue.message

/-- Simulation settings loaded from files, in order, and then the environment. -/
def loadSimulationSettings (tree : Settings.FileTree) (env : List (String × String))
    (files : List String) : Except SettingsFault Settings.Value :=
  match simulationSchema.load ⟨files, [], simulationEnvPrefix, false⟩ tree env with
  | .ok v => .ok v
  | .error e => .error ⟨e⟩

def Settings.Value.textOr (v : Settings.Value) (fallback : String) : String :=
  match v with
  | .text s => s
  | _ => fallback

def Settings.Value.flagOr (v : Settings.Value) (fallback : Bool) : Bool :=
  match v with
  | .flag b => b
  | _ => fallback

def Settings.Value.textPairs : Settings.Value → List (String × String)
  | .table (some entries) =>
    entries.filterMap fun (k, v) =>
      match k, v with
      | .text k, .text v => some (k, v)
      | _, _ => none
  | _ => []

/-- The configuration of a simulation that loaded settings describe. -/
def SimulationConfig.ofSettings (v : Settings.Value) : SimulationConfig :=
  let fields := v.fields
  let journal := (fields.getD 0 default).fields
  { level := (journal.getD 0 default).textOr ""
    logType := (journal.getD 1 default).textOr ""
    addSource := (journal.getD 2 default).flagOr false
    sourcePath := (journal.getD 3 default).textOr ""
    strictOutputs := (fields.getD 1 default).flagOr false
    stimulus :=
      match fields.getD 2 default with
      | .table (some entries) =>
        some (entries.filterMap fun (k, v) =>
          match k with
          | .text k => some (k, v.textPairs)
          | _ => none)
      | _ => none }

end Circuitry
