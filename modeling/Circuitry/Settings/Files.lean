import Circuitry.Settings.Json.Decode
import Circuitry.Settings.Yaml.Decode

/-!
# Settings files

Settings are read from files in a tree of files and directories, given as data. A path is
followed part by part as the file system does: each part must exist in the directory reached
so far, `..` leads to its parent, and a path starting with `/` starts outside the tree, where
nothing is known. A directory exists when it is listed or when something lies inside it.

A file that does not exist is skipped. A directory where a file is expected, or a file where
a directory is expected on the way (also before a trailing `/`), is a fault. A file is read by
its extension, in any case: `.json` as JSON, `.yaml` and `.yml` as YAML (a YAML file of white space alone sets nothing);
any other extension is a fault. A directory contributes its files with one of those
extensions, in sorted order of their paths; a directory that does not exist contributes
nothing.
-/

namespace Circuitry
namespace Settings

/-- An entry of a file tree: a file with its text, or a directory. -/
inductive Entry
  | file (text : String)
  | folder
deriving DecidableEq, Repr

/-- A file tree: entries by path. -/
structure FileTree where
  entries : List (String × Entry)
deriving Repr

def pathParts (path : String) : List String :=
  let step := fun (acc : List String) (part : String) =>
    if part.isEmpty || part = "." then acc
    else if part = ".." then
      match acc with
      | last :: rest => if last = ".." then part :: acc else rest
      | [] => [part]
    else part :: acc
  ((path.splitOn "/").foldl step []).reverse

def cleanPath (path : String) : String :=
  let body := "/".intercalate (pathParts path)
  if path.startsWith "/" then "/" ++ body
  else if body.isEmpty then "." else body

def joinPath (dir name : String) : String := cleanPath (dir ++ "/" ++ name)

def extension (name : String) : String :=
  let last := ((name.splitOn "/").getLast?).getD name
  match (last.splitOn ".") with
  | [_] => ""
  | parts => "." ++ (parts.getLast?).getD ""

/-- Whether a file name has a settings extension. -/
def isSettingsFile (name : String) : Bool :=
  let ext := lower (extension name)
  ext = ".json" || ext = ".yaml" || ext = ".yml"

def FileTree.entryAt (t : FileTree) (parts : List String) : Option Entry :=
  match t.entries.find? (fun e => pathParts e.1 == parts) with
  | some (_, entry) => some entry
  | none =>
    if t.entries.any (fun e => (pathParts e.1).take parts.length == parts && (pathParts e.1).length > parts.length)
    then some .folder else none

/-- Where a path leads. -/
inductive Place
  /-- A part of the path does not exist. -/
  | missing
  /-- A file stands where the path needs a directory. -/
  | notDirectory
  /-- A file, with its text. -/
  | file (text : String)
  /-- A directory of the tree, by its parts. -/
  | folder (parts : List String)
  /-- A directory outside the tree, such as the root: nothing in it is known. -/
  | outside
deriving Repr

/-- Follows the parts of a path from a place, one part at a time as the file system does: an
empty part or `.` stays, `..` goes to the parent directory (above the tree is outside it), and
a name must exist in the directory reached so far. Any part after a file, even an empty one
left by a trailing `/`, needs a directory where the file is. -/
def FileTree.walk (t : FileTree) : Place → List String → Place
  | p, [] => p
  | .folder parts, c :: rest =>
    if c.isEmpty || c = "." then t.walk (.folder parts) rest
    else if c = ".." then
      t.walk (if parts.isEmpty then .outside else .folder parts.dropLast) rest
    else
      match t.entryAt (parts ++ [c]) with
      | some (.file text) => t.walk (.file text) rest
      | some .folder => t.walk (.folder (parts ++ [c])) rest
      | none => .missing
  | .outside, c :: rest =>
    if c.isEmpty || c = "." || c = ".." then t.walk .outside rest else .missing
  | .file _, _ :: _ => .notDirectory
  | .missing, _ :: _ => .missing
  | .notDirectory, _ :: _ => .notDirectory

def FileTree.locate (t : FileTree) (path : String) : Place :=
  if path.isEmpty then .missing
  else t.walk (if path.startsWith "/" then .outside else .folder []) (path.splitOn "/")

/-- Why a settings file could not be read. -/
inductive FileIssue
  | isDirectory (name : String)
  | notDirectory (name : String)
  | extension (ext name : String)
  | json (issue : JsonIssue)
  | yaml (message : String)
  | unhashableKey (type : String)
deriving Repr

/-- The message of a file issue. -/
def FileIssue.message : FileIssue → String
  | .isDirectory name => "read " ++ name ++ ": is a directory"
  | .notDirectory name => "open " ++ name ++ ": not a directory"
  | .extension ext name => "unsupported file extension " ++ ext ++ " for file " ++ name
  | .json issue => issue.message
  | .yaml message => message
  | .unhashableKey type => "runtime error: hash of unhashable type " ++ type

/-- The text of a file; none when it does not exist. -/
def FileTree.read (t : FileTree) (name : String) : Except FileIssue (Option String) :=
  match t.locate name with
  | .missing => .ok none
  | .notDirectory => .error (.notDirectory name)
  | .file text => .ok (some text)
  | .folder _ | .outside => .error (.isDirectory name)

/-- The settings files of a directory, by their joined paths in sorted order; none when the
directory does not exist, and the directory itself when it is not a directory. -/
def FileTree.settingsFiles (t : FileTree) (dir : String) : Except String (Option (List String)) :=
  match t.locate dir with
  | .missing => .ok none
  | .notDirectory | .file _ => .error dir
  | .outside => .ok (some [])
  | .folder parts =>
    let names := t.entries.filterMap fun (path, entry) =>
      match entry with
      | .file _ =>
        let p := pathParts path
        if p.length = parts.length + 1 && p.take parts.length == parts then p.getLast? else none
      | .folder => none
    let paths := (names.filter isSettingsFile).map (joinPath dir)
    .ok (some (paths.mergeSort (fun a b => decide (a ≤ b))))

/-- A record value with one settings file read over it: by its extension, or unchanged when the
file does not exist. -/
def Schema.readFile (s : Schema) (t : FileTree) (strict : Bool) (name : String) (current : Value) :
    Except FileIssue Value :=
  match t.read name with
  | .error e => .error e
  | .ok none => .ok current
  | .ok (some text) =>
    let ext := lower (extension name)
    if ext = ".json" then
      match s.readJson strict text current with
      | .ok v => .ok v
      | .error e => .error (.json e)
    else if ext = ".yaml" || ext = ".yml" then
      if (Text.trimSpace text).isEmpty then .ok current
      else
        match Yaml.readRecord s strict text current with
        | .ok v => .ok v
        | .error (.fault e) => .error (.yaml e)
        | .error (.unhashable type) => .error (.unhashableKey type)
    else .error (.extension ext name)

def Schema.readFiles (s : Schema) (t : FileTree) (strict : Bool) :
    List String → Value → Except (String × FileIssue) Value
  | [], v => .ok v
  | name :: rest, v =>
    match s.readFile t strict name v with
    | .ok v => s.readFiles t strict rest v
    | .error e => .error (name, e)

end Settings
end Circuitry
