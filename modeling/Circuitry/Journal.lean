import Circuitry.Text.Quote
import Circuitry.Text.Space

/-!
# Journal of records

A record has a severity, a message and named values. A journal keeps the records at or above
its threshold and writes each as a line: either `key=value` pairs (`level=INFO msg="run
complete" components=1`), a value being quoted when it is empty or holds a blank, `=`, `"`, a
control character or a character that is not printable, or as a JSON object with the same keys
in the same order. A journal that is off keeps nothing.
-/

namespace Circuitry

/-- How serious a record is, from least to most. -/
inductive Severity
  | debug
  | info
  | warn
  | error
deriving DecidableEq, Repr

namespace Severity

def rank : Severity → Nat
  | .debug => 0
  | .info => 1
  | .warn => 2
  | .error => 3

/-- The name under which a severity is written. -/
def name : Severity → String
  | .debug => "DEBUG"
  | .info => "INFO"
  | .warn => "WARN"
  | .error => "ERROR"

def ofWord (word : String) : Severity :=
  match Text.foldCase word with
  | "debug" => .debug
  | "warn" => .warn
  | "error" => .error
  | _ => .info

end Severity

/-- A value attached to a record: a text or a count. -/
inductive Attr
  | text (s : String)
  | count (n : Nat)
deriving DecidableEq, Repr

/-- A record: severity, message and named values in order. -/
structure Record where
  severity : Severity
  message : String
  attrs : List (String × Attr)
deriving DecidableEq, Repr

/-- How a journal writes its records. -/
inductive JournalFormat
  | keyValue
  | json
  | off
deriving DecidableEq, Repr

/-- Where records go: the format and the least severity kept. -/
structure Journal where
  format : JournalFormat
  threshold : Severity
deriving DecidableEq, Repr

namespace Journal

def silent : Journal := ⟨.off, .error⟩

def ofSettings (level logType : String) : Journal :=
  let format := match Text.foldCase logType with
    | "json" => .json
    | "discard" => .off
    | _ => .keyValue
  ⟨format, Severity.ofWord level⟩

def keeps (j : Journal) (s : Severity) : Bool := j.format != .off && j.threshold.rank ≤ s.rank

def needsQuotes (s : String) : Bool :=
  s.isEmpty || s.toList.any fun c =>
    if c.toNat < 0x80 then
      c = ' ' || c = '=' || c = '"' || c.toNat < 0x20 || c.toNat = 0x7F
    else Text.isSpace c || !Text.isPrintable c.toNat

def plainText (s : String) : String := if needsQuotes s then Text.quote s else s

def jsonChar (c : Char) : String :=
  if c = '"' then "\\\""
  else if c = '\\' then "\\\\"
  else if c = '\n' then "\\n"
  else if c = '\r' then "\\r"
  else if c = '\t' then "\\t"
  else if c.toNat < 0x20 then "\\u" ++ Text.hexDigits 4 c.toNat
  else c.toString

def jsonText (s : String) : String := "\"" ++ String.join (s.toList.map jsonChar) ++ "\""

def plainAttr : Attr → String
  | .text s => plainText s
  | .count n => toString n

def jsonAttr : Attr → String
  | .text s => jsonText s
  | .count n => toString n

def line (j : Journal) (r : Record) : String :=
  let pairs := ("level", Attr.text r.severity.name) :: ("msg", Attr.text r.message) :: r.attrs
  match j.format with
  | .json =>
    "\x7b" ++ ",".intercalate (pairs.map fun (k, v) => jsonText k ++ ":" ++ jsonAttr v) ++ "\x7d"
  | _ => " ".intercalate (pairs.map fun (k, v) => plainText k ++ "=" ++ plainAttr v)

def lines (j : Journal) (records : List Record) : List String :=
  (records.filter fun r => j.keeps r.severity).map j.line

end Journal

end Circuitry
