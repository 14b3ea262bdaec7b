import Circuitry.Settings.Defaults
import Circuitry.Settings.Environment
import Circuitry.Settings.Files

/-!
# Loading settings

A settings record is filled from its sources in a fixed order, later sources winning: the
default tags, the records' own hooks, the files of the directories, the files, and last the
environment (only when a prefix is given). The first source that fails stops the load, and the
fault says which stage it was in; a YAML key that no set of keys can hold aborts the load
outright, with no stage named.

Settings can only be loaded into a record: anything else is refused before any source is read.
-/

namespace Circuitry
namespace Settings

/-- Where settings are loaded into: a record of a schema, nothing at all, or a value of some
other class. -/
inductive Target
  | record (schema : Schema)
  | absent
  | other (className : String)

/-- Where settings come from: files, directories of files, the environment prefix (empty for
no environment, `-` for variables without a prefix), and whether unknown keys in files are
refused. -/
structure LoadOptions where
  files : List String
  dirs : List String
  envPrefix : String
  strict : Bool

/-- Why settings could not be loaded. -/
inductive LoadIssue
  | absent
  | notRecord (className : String)
  | defaults (issue : DefaultIssue)
  | directory (dir : String)
  | directoryFile (name : String) (issue : FileIssue)
  | file (name : String) (issue : FileIssue)
  | environment (issue : EnvIssue)
deriving Repr

def LoadIssue.aborts : LoadIssue → Bool
  | .file _ (.unhashableKey _) | .directoryFile _ (.unhashableKey _) => true
  | _ => false

/-- The message of a load issue: the stage, then what went wrong; an issue that aborts the
load says only what went wrong. -/
def LoadIssue.message : LoadIssue → String
  | .file _ (.unhashableKey type) | .directoryFile _ (.unhashableKey type) =>
    (FileIssue.unhashableKey type).message
  | .absent => "failed to validate config: config must be a non-nil pointer"
  | .notRecord c => "failed to validate config: config must point to a struct, got " ++ c
  | .defaults d => "failed to apply default tags: " ++ d.message
  | .directory dir =>
    "failed to load from directories: failed to read directory " ++ dir ++ ": open " ++ dir ++
      ": not a directory"
  | .directoryFile name e =>
    "failed to load from directories: failed to load file " ++ name ++ ": " ++ e.message
  | .file name e => "failed to load from files: failed to load file " ++ name ++ ": " ++ e.message
  | .environment e => "failed to load from environment: " ++ e.message

def FileTree.filesOf (t : FileTree) : List String → Except LoadIssue (List String)
  | [] => .ok []
  | dir :: rest =>
    match t.settingsFiles dir with
    | .error d => .error (.directory d)
    | .ok found =>
      match t.filesOf rest with
      | .ok more => .ok (found.getD [] ++ more)
      | .error e => .error e

/-- A record of a schema loaded from its sources. -/
def Schema.load (s : Schema) (opts : LoadOptions) (t : FileTree) (env : List (String × String)) :
    Except LoadIssue Value :=
  match s.applyDefaults (Kind.record s).zero with
  | .error e => .error (.defaults e)
  | .ok v =>
    let v := s.runHooks v
    let fromDirs : Except LoadIssue Value :=
      if opts.dirs.isEmpty then .ok v
      else
        match t.filesOf opts.dirs with
        | .error e => .error e
        | .ok names =>
          match s.readFiles t opts.strict names v with
          | .ok v => .ok v
          | .error (name, e) => .error (.directoryFile name e)
    match fromDirs with
    | .error e => .error e
    | .ok v =>
      let fromFiles : Except LoadIssue Value :=
        if opts.files.isEmpty then .ok v
        else
          match s.readFiles t opts.strict opts.files v with
          | .ok v => .ok v
          | .error (name, e) => .error (.file name e)
      match fromFiles with
      | .error e => .error e
      | .ok v =>
        if opts.envPrefix.isEmpty then .ok v
        else
          match s.loadEnv env opts.envPrefix v with
          | .ok v => .ok v
          | .error e => .error (.environment e)

/-- Settings loaded into a target. -/
def Target.load (target : Target) (opts : LoadOptions) (t : FileTree)
    (env : List (String × String)) : Except LoadIssue Value :=
  match target with
  | .record s => s.load opts t env
  | .absent => .error .absent
  | .other c => .error (.notRecord c)

end Settings
end Circuitry
