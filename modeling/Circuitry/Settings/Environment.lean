import Circuitry.Settings.Scalar

/-!
# Settings from environment variables

Each field that can be set and has a name (see `Field.envName`) is read from the variable
named by the prefix, `_`, and its name in capitals; a nested record passes that variable name
on as the prefix of its own fields (`P_INNER_ON`). A variable that is unset or empty leaves the
field as it is; the first variable whose text gives no value stops the load.

The prefix `-` means no prefix at all; any other prefix is put in capitals.
-/

namespace Circuitry
namespace Settings

def noPrefix : String := "-"

/-- An environment variable whose text gives no value for its field. -/
structure EnvIssue where
  field : String
  envVar : String
  issue : TextIssue
deriving DecidableEq, Repr

/-- The message of an environment issue: the field, the variable, then why. -/
def EnvIssue.message (e : EnvIssue) : String :=
  "failed to set field " ++ e.field ++ " from " ++ e.envVar ++ ": " ++ e.issue.message

def variableName (pre name : String) : String :=
  if pre.isEmpty then upper name else pre ++ "_" ++ upper name

mutual

def Schema.readEnv (env : List (String × String)) (pre : String) :
    Schema → Value → Except EnvIssue Value
  | .mk _ fields _, .record values =>
    match Field.readEnv env pre fields values with
    | .ok values => .ok (.record values)
    | .error e => .error e
  | .mk _ _ _, other => .ok other

/-- Field values read from the environment, field by field. -/
def Field.readEnv (env : List (String × String)) (pre : String) :
    List Field → List Value → Except EnvIssue (List Value)
  | [], values => .ok values
  | _, [] => .ok []
  | .mk name exported kind tags :: fields, value :: values =>
    let here : Except EnvIssue Value :=
      if !exported then .ok value
      else
        match Field.envName (.mk name exported kind tags) with
        | none => .ok value
        | some tag =>
          let var := variableName pre tag
          match kind with
          | .record schema => Schema.readEnv env var schema value
          | _ =>
            match env.lookup var with
            | some text =>
              if text.isEmpty then .ok value
              else
                match kind.ofText text with
                | .ok v => .ok v
                | .error issue => .error ⟨name, var, issue⟩
            | none => .ok value
    match here with
    | .ok v =>
      match Field.readEnv env pre fields values with
      | .ok vs => .ok (v :: vs)
      | .error e => .error e
    | .error e => .error e

end

/-- A record value with its fields read from the environment under a prefix as given: `-` for
none, any other prefix put in capitals. -/
def Schema.loadEnv (s : Schema) (env : List (String × String)) (pre : String) (v : Value) :
    Except EnvIssue Value :=
  s.readEnv env (if pre = noPrefix then "" else upper pre) v

end Settings
end Circuitry
