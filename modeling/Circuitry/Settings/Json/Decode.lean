import Circuitry.Settings.Json.Syntax
import Circuitry.Settings.Scalar

/-!
# Settings from a JSON document

A JSON value sets a settings value of a kind. An object sets the fields of a record whose JSON
key matches a member name exactly, or else up to simple case folding; other members are
skipped, or are a fault when unknown fields are refused. An object also sets the entries of a
table, each entry read afresh, the key read by the table's key kind. An array replaces a list,
each element read over the element that stood at its place, counting the spare elements a
shorter array left behind; the elements after the array become the spare ones, and an empty
array leaves none. `null` empties a list, a table or an optional value and leaves anything else
as it is; any other value sets an optional value's target, creating it first. A number sets an
integer only when its text is an integer that fits the field.

A value of the wrong type is a fault, but reading goes on and the first fault is the one
reported. A fault below the top names the value by the short name of the top record and the
path from the top as the document spells it: member names and list positions, a `~` written
`~0` and a `/` written `~1`, joined by dots; the path is called a struct field unless its last
part is all digits, as a list position is. A fault at the top names only the type. A table key
that does not fit the key kind is a fault before anything in its value.
-/

namespace Circuitry
namespace Settings

abbrev JsonContext := Option (String × List String)

/-- Why a JSON document does not give a settings value. -/
inductive JsonIssue
  | malformed (issue : JsonSyntaxIssue)
  | mismatch (found : String) (type : String) (context : JsonContext)
  | unknownField (key : String)
deriving DecidableEq, Repr

def endsInIndex (field : String) : Bool :=
  let last := ((field.splitOn ".").getLast?).getD ""
  !last.isEmpty && last.all Char.isDigit

/-- The message of a JSON issue. -/
def JsonIssue.message : JsonIssue → String
  | .malformed issue => issue.message
  | .mismatch found type none => "json: cannot unmarshal " ++ found ++ " into Go value of type " ++ type
  | .mismatch found type (some (record, path)) =>
    let field := ".".intercalate path
    let place := if endsInIndex field then "" else "Go struct field "
    "json: cannot unmarshal " ++ found ++ " into " ++ place ++ record ++ "." ++ field ++
      " of type " ++ type
  | .unknownField key => "json: unknown field " ++ Text.quote key

def jsonField (fields : List Field) (key : String) : Option (Nat × Field × String) :=
  let keyed := (fields.zipIdx).filterMap fun (f, i) => f.jsonKey.map fun k => (i, f, k)
  match keyed.find? (fun e => e.2.2 == key) with
  | some e => some e
  | none => keyed.find? fun e => Text.foldEqual e.2.2 key

def pathStep (name : String) : String :=
  String.join (name.toList.map fun c => if c = '~' then "~0" else if c = '/' then "~1" else String.singleton c)

def JsonContext.below (context : JsonContext) (root : String) (step : String) : JsonContext :=
  match context with
  | some (name, path) => some (name, path ++ [step])
  | none => some (root, [step])

def fitsSigned (bits : Nat) (i : Int) : Bool := -(Int.pow 2 (bits - 1)) ≤ i && i < Int.pow 2 (bits - 1)

def numberValue (kind : Kind) (text : String) : Option Value :=
  match kind with
  | .signed size =>
    (Number.readSigned text).bind fun i => if fitsSigned size.bits i then some (.signed i) else none
  | .unsigned size =>
    (Number.readUnsigned text).bind fun n => if n < Nat.pow 2 size.bits then some (.unsigned n) else none
  | .span => (Number.readSigned text).map Value.span
  | .real => (Number.readReal text).map Value.real
  | _ => none

def Kind.isNumeric : Kind → Bool
  | .signed _ | .unsigned _ | .span | .real => true
  | _ => false

def tableKey (context : JsonContext) (kind : Kind) (key : String) : Except JsonIssue Value :=
  match kind with
  | .text => .ok (.text key)
  | _ =>
    match numberValue kind key with
    | some v => .ok v
    | none => .error (.mismatch ("number " ++ key) kind.typeText context)

def Kind.keysObjects : Kind → Bool
  | .text | .signed _ | .unsigned _ | .span => true
  | _ => false

/-- The value a JSON value gives a settings value of a kind, and the faults met in order. -/
def decodeJson (strict : Bool) (root : String) (context : JsonContext) (kind : Kind)
    (node : JsonNode) (current : Value) : Value × List JsonIssue :=
  match node, kind with
  | .null, .optional _ => (.optional none, [])
  | .null, .list _ => (.list none [], [])
  | .null, .table _ _ => (.table none, [])
  | .null, _ => (current, [])
  | node, .optional elem =>
    let target := match current with
      | .optional (some v) => v
      | _ => elem.zero
    let (v, issues) := decodeJson strict root context elem node target
    (.optional (some v), issues)
  | .bool b, .flag => (.flag b, [])
  | .bool _, kind => (current, [.mismatch "bool" kind.typeText context])
  | .string s, .text => (.text s, [])
  | .string _, kind => (current, [.mismatch "string" kind.typeText context])
  | .number text, kind =>
    if kind.isNumeric then
      match numberValue kind text with
      | some v => (v, [])
      | none => (current, [.mismatch ("number " ++ text) kind.typeText context])
    else (current, [.mismatch "number" kind.typeText context])
  | .array items, .list elem =>
    let olds := match current with
      | .list (some xs) spare => xs ++ spare
      | _ => []
    if items.isEmpty then (.list (some []) [], [])
    else
      let results := items.attach.zipIdx.map fun (⟨item, _member⟩, i) =>
        decodeJson strict root (context.below root (toString i)) elem item (olds.getD i elem.zero)
      (.list (some (results.map Prod.fst)) (olds.drop items.length), (results.map Prod.snd).flatten)
  | .array _, kind => (current, [.mismatch "array" kind.typeText context])
  | .object members, .table key elem =>
    if !key.keysObjects then (current, [.mismatch "object" kind.typeText context])
    else
      let start := match current with
        | .table (some entries) => entries
        | _ => []
      let (entries, issues) := members.attach.foldl
        (fun (acc : List (Value × Value) × List JsonIssue) ⟨(name, item), _member⟩ =>
          match tableKey (context.below root (pathStep name)) key name with
          | .ok k =>
            let (v, found) := decodeJson strict root (context.below root (pathStep name)) elem item
              elem.zero
            (putEntry acc.1 k v, acc.2 ++ found)
          | .error e => (acc.1, acc.2 ++ [e]))
        (start, [])
      (.table (some entries), issues)
  | .object members, .record schema =>
    let (values, issues) := members.attach.foldl
      (fun (acc : List Value × List JsonIssue) ⟨(name, item), _member⟩ =>
        match jsonField schema.fields name with
        | some (i, f, _) =>
          let (v, found) := decodeJson strict root (context.below root (pathStep name)) f.kind
            item (acc.1.getD i f.kind.zero)
          (acc.1.set i v, acc.2 ++ found)
        | none => (acc.1, if strict then acc.2 ++ [.unknownField name] else acc.2))
      (current.fields, [])
    (.record values, issues)
  | .object _, kind => (current, [.mismatch "object" kind.typeText context])
termination_by (sizeOf node, sizeOf kind)
decreasing_by
  all_goals simp_wf
  · exact Prod.Lex.right _ (by omega)
  · exact Prod.Lex.left _ _ (by have := List.sizeOf_lt_of_mem _member; omega)
  · exact Prod.Lex.left _ _ (by have := List.sizeOf_lt_of_mem _member; simp at this; omega)
  · exact Prod.Lex.left _ _ (by have := List.sizeOf_lt_of_mem _member; simp at this; omega)

def Schema.readJson (s : Schema) (strict : Bool) (text : String) (current : Value) :
    Except JsonIssue Value :=
  match Settings.readJson text with
  | .error e => .error (.malformed e)
  | .ok node =>
    match decodeJson strict s.shortName none (.record s) node current with
    | (v, []) => .ok v
    | (_, e :: _) => .error e

end Settings
end Circuitry
