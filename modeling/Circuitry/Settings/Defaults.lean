import Circuitry.Settings.Scalar

/-!
# Defaults of a settings record

Two passes give a fresh record its defaults. The first reads default tags: every field that
can be set and still holds its starting value takes the value its default text gives, nested
records taking theirs field by field; the first text that gives no value stops the pass with
the name of its field. The second runs the hooks of the records, the nested ones first, so
that an outer record has the last word.
-/

namespace Circuitry
namespace Settings

/-- A default text that gives no value for its field. -/
structure DefaultIssue where
  field : String
  issue : TextIssue
deriving DecidableEq, Repr

/-- The message of a default issue: the field's name, then why. -/
def DefaultIssue.message (d : DefaultIssue) : String :=
  "field " ++ d.field ++ ": " ++ d.issue.message

mutual

/-- A record value with its default tags applied. -/
def Schema.applyDefaults : Schema → Value → Except DefaultIssue Value
  | .mk _ fields _, .record values =>
    match Field.applyDefaults fields values with
    | .ok values => .ok (.record values)
    | .error e => .error e
  | .mk _ _ _, other => .ok other

/-- Field values with their default tags applied, field by field. -/
def Field.applyDefaults : List Field → List Value → Except DefaultIssue (List Value)
  | [], values => .ok values
  | _, [] => .ok []
  | .mk name exported kind tags :: fields, value :: values =>
    let here : Except DefaultIssue Value :=
      if !exported then .ok value
      else
        match kind with
        | .record schema => Schema.applyDefaults schema value
        | _ =>
          match tags.default with
          | some text =>
            if value.isZero then
              match kind.ofText text with
              | .ok v => .ok v
              | .error issue => .error ⟨name, issue⟩
            else .ok value
          | none => .ok value
    match here with
    | .ok v =>
      match Field.applyDefaults fields values with
      | .ok vs => .ok (v :: vs)
      | .error e => .error e
    | .error e => .error e

end

def fieldIndex (fields : List Field) (name : String) : Option Nat :=
  fields.findIdx? fun f => f.name == name

/-- A record value after one hook. -/
def Hook.run (fields : List Field) (v : Value) : Hook → Value
  | .whenEmpty field text =>
    match fieldIndex fields field with
    | some i =>
      match v.fields[i]? with
      | some (.text "") => v.setField i (.text text)
      | _ => v
    | none => v
  | .always field text =>
    match fieldIndex fields field with
    | some i => v.setField i (.text text)
    | none => v

mutual

/-- A record value after the hooks of its nested records, then its own. -/
def Schema.runHooks : Schema → Value → Value
  | .mk _ fields hooks, .record values =>
    hooks.foldl (Hook.run fields) (.record (Field.runHooks fields values))
  | .mk _ _ _, other => other

/-- Field values after the hooks of the nested records that can be set. -/
def Field.runHooks : List Field → List Value → List Value
  | [], values => values
  | _, [] => []
  | .mk _ exported kind _ :: fields, value :: values =>
    let v := match kind with
      | .record schema => if exported then Schema.runHooks schema value else value
      | _ => value
    v :: Field.runHooks fields values

end

end Settings
end Circuitry
