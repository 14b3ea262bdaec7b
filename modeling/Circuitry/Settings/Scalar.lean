import Circuitry.Settings.Schema
import Circuitry.Number.Integer
import Circuitry.Number.Real
import Circuitry.Number.Duration
import Circuitry.Text.Space
import Circuitry.Text.Quote

/-!
# Settings values from text

How a default tag or an environment variable sets a field. A duration is read as a sum of
numbers with units (`1h2m3.5s`); a truth value is one of the truth words; an integer is decimal
and must fit 64 bits, a narrower field keeping its low bits; a real is any real number text.
A list of text is the comma-separated parts, each trimmed, the empty ones dropped. A table with
text keys is comma-separated `key=value` pairs: blank pairs are skipped, a pair needs an `=`
and a key that is not blank, key and value are trimmed, the value is read by the element's
kind (so a table of tables reads `a=b=c` as `a` mapped to `b=c`), and a later key wins. Other
kinds cannot be set from text.
-/

namespace Circuitry
namespace Settings

/-- Why a text does not give a value of a kind. -/
inductive TextIssue
  | duration (text : String)
  | truth (text : String)
  | integer (text : String)
  | unsignedInteger (text : String)
  | real (text : String)
  | listElement (className : String)
  | tableKey (className : String)
  | tablePair (pair : String)
  | unsupported (className : String)
deriving DecidableEq, Repr

/-- The message of a text issue. -/
def TextIssue.message : TextIssue → String
  | .duration t => "invalid duration value: " ++ t
  | .truth t => "invalid boolean value: " ++ t
  | .integer t => "invalid integer value: " ++ t
  | .unsignedInteger t => "invalid unsigned integer value: " ++ t
  | .real t => "invalid float value: " ++ t
  | .listElement c => "unsupported slice element type " ++ c
  | .tableKey c => "unsupported map key type " ++ c
  | .tablePair p => "invalid map pair " ++ Text.quote p ++ " (expected key=value)"
  | .unsupported c => "unsupported type " ++ c

def Value.sameKey : Value → Value → Bool
  | .text a, .text b => a == b
  | .flag a, .flag b => a == b
  | .signed a, .signed b => a == b
  | .unsigned a, .unsigned b => a == b
  | .span a, .span b => a == b
  | _, _ => false

def putEntry (entries : List (Value × Value)) (key value : Value) : List (Value × Value) :=
  if entries.any (fun e => e.1.sameKey key) then
    entries.map fun e => if e.1.sameKey key then (key, value) else e
  else entries ++ [(key, value)]

def listParts (s : String) : List String :=
  ((s.splitOn ",").map Text.trimSpace).filter fun part => !part.isEmpty

def splitPair (pair : String) : Option (String × String) :=
  match pair.splitOn "=" with
  | key :: first :: rest => some (key, "=".intercalate (first :: rest))
  | _ => none

/-- The entries of a table text, each value read by `readElem`; entries come in the order of
their first key, a later key replacing the value. -/
def tableEntries (readElem : String → Except TextIssue Value) :
    List (Value × Value) → List String → Except TextIssue (List (Value × Value))
  | entries, [] => .ok entries
  | entries, pair :: rest =>
    if (Text.trimSpace pair).isEmpty then tableEntries readElem entries rest
    else
      match splitPair pair with
      | some (key, value) =>
        if (Text.trimSpace key).isEmpty then .error (.tablePair pair)
        else
          match readElem (Text.trimSpace value) with
          | .ok v => tableEntries readElem (putEntry entries (.text (Text.trimSpace key)) v) rest
          | .error e => .error e
      | none => .error (.tablePair pair)

/-- The value of a kind that a text sets, or why it sets none. -/
def Kind.ofText : Kind → String → Except TextIssue Value
  | .span, s =>
    match Number.readDuration s with
    | some n => .ok (.span n)
    | none => .error (.duration s)
  | .text, s => .ok (.text s)
  | .flag, s =>
    match Number.readTruth s with
    | some b => .ok (.flag b)
    | none => .error (.truth s)
  | .signed size, s =>
    match Number.readSigned s with
    | some i => .ok (.signed (Number.wrapSigned size.bits i))
    | none => .error (.integer s)
  | .unsigned size, s =>
    match Number.readUnsigned s with
    | some n => .ok (.unsigned (Number.wrapUnsigned size.bits n))
    | none => .error (.unsignedInteger s)
  | .real, s =>
    match Number.readReal s with
    | some f => .ok (.real f)
    | none => .error (.real s)
  | .list .text, s => .ok (.list (some ((listParts s).map Value.text)) [])
  | .list elem, _ => .error (.listElement elem.className)
  | .table .text elem, s =>
    match tableEntries (Kind.ofText elem) [] (s.splitOn ",") with
    | .ok entries => .ok (.table (some entries))
    | .error e => .error e
  | .table key _, _ => .error (.tableKey key.className)
  | .optional _, _ => .error (.unsupported "ptr")
  | .record _, _ => .error (.unsupported "struct")

end Settings
end Circuitry
