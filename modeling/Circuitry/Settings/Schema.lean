import Circuitry.Text.Case
/-!
# Settings schemas and values

A settings record is described by a schema: a type name and fields, each with a name, whether
it may be set from outside, a kind and tags (the names it goes by in the environment, in YAML
and in JSON, and a default value as text). A kind is a scalar (text, truth value, signed or
unsigned integer of some width, real, duration), a list, a table, an optional value, or a
nested record. Values mirror kinds; a list, a table or an optional value may be absent, which
is not the same as empty.

Names: a field goes by its environment tag, else its YAML tag, else its JSON tag (the part
before the first comma), a tag `-` hiding it; without a tag, by its name split into
lower-case words joined with `_` (`HTTPServerAddr` is `http_server_addr`).
-/

namespace Circuitry
namespace Settings

/-- The width of an integer field: the machine word (64 bits) or a fixed number of bits. -/
inductive IntSize
  | word
  | bits8
  | bits16
  | bits32
  | bits64
deriving DecidableEq, Repr

def IntSize.bits : IntSize → Nat
  | .word => 64
  | .bits8 => 8
  | .bits16 => 16
  | .bits32 => 32
  | .bits64 => 64

def IntSize.suffix : IntSize → String
  | .word => ""
  | s => toString s.bits

/-- The tags of a field: its names in the environment, in YAML and in JSON, and its default. -/
structure Tags where
  env : Option String
  yaml : Option String
  json : Option String
  default : Option String
deriving DecidableEq, Repr

def Tags.none : Tags := ⟨Option.none, Option.none, Option.none, Option.none⟩

/-- A step of a record's own defaults, run after the default tags: set a text field to a text
when it is empty, or always. -/
inductive Hook
  | whenEmpty (field value : String)
  | always (field value : String)
deriving DecidableEq, Repr

mutual

/-- The kind of a field. -/
inductive Kind
  | text
  | flag
  | signed (size : IntSize)
  | unsigned (size : IntSize)
  | real
  | span
  | list (elem : Kind)
  | table (key elem : Kind)
  | optional (elem : Kind)
  | record (schema : Schema)

/-- A record schema: a type name (qualified by its package), fields and hooks. -/
inductive Schema
  | mk (typeName : String) (fields : List Field) (hooks : List Hook)

/-- A field: its name, whether it can be set from outside, its kind and its tags. -/
inductive Field
  | mk (name : String) (exported : Bool) (kind : Kind) (tags : Tags)

end

namespace Schema

def typeName : Schema → String
  | .mk n _ _ => n

def fields : Schema → List Field
  | .mk _ fs _ => fs

def hooks : Schema → List Hook
  | .mk _ _ hs => hs

def shortName (s : Schema) : String :=
  ((s.typeName.splitOn ".").getLast?).getD s.typeName

end Schema

namespace Field

/-- The name of a field. -/
def name : Field → String
  | .mk n _ _ _ => n

def exported : Field → Bool
  | .mk _ e _ _ => e

def kind : Field → Kind
  | .mk _ _ k _ => k

def tags : Field → Tags
  | .mk _ _ _ t => t

end Field

mutual

/-- The type of a kind, as messages name it: `string`, `int8`, `[]string`,
`map[string]int`, `*string`, `time.Duration`, or a record's type name. -/
def Kind.typeText : Kind → String
  | .text => "string"
  | .flag => "bool"
  | .signed size => "int" ++ size.suffix
  | .unsigned size => "uint" ++ size.suffix
  | .real => "float64"
  | .span => "time.Duration"
  | .list elem => "[]" ++ elem.typeText
  | .table key elem => "map[" ++ key.typeText ++ "]" ++ elem.typeText
  | .optional elem => "*" ++ elem.typeText
  | .record schema => Schema.typeName schema

end

/-- The class of a kind, as messages name it: `string`, `bool`, `int8`, `float64`, `int64`
for a duration, `slice`, `map`, `ptr`, `struct`. -/
def Kind.className : Kind → String
  | .text => "string"
  | .flag => "bool"
  | .signed size => "int" ++ size.suffix
  | .unsigned size => "uint" ++ size.suffix
  | .real => "float64"
  | .span => "int64"
  | .list _ => "slice"
  | .table _ _ => "map"
  | .optional _ => "ptr"
  | .record _ => "struct"

/-- A settings value. A list keeps, besides its items, the elements that stood after them
when a shorter JSON array last shrank it: a later JSON array reads its elements over them. -/
inductive Value
  | text (s : String)
  | flag (b : Bool)
  | signed (i : Int)
  | unsigned (n : Nat)
  | real (f : Float)
  | span (nanos : Int)
  | list (items : Option (List Value)) (spare : List Value)
  | table (entries : Option (List (Value × Value)))
  | optional (target : Option Value)
  | record (fields : List Value)
deriving Inhabited

mutual

/-- The value a field of a kind starts with: empty, false, zero, absent, or a record of
starting values. -/
def Kind.zero : Kind → Value
  | .text => .text ""
  | .flag => .flag false
  | .signed _ => .signed 0
  | .unsigned _ => .unsigned 0
  | .real => .real 0.0
  | .span => .span 0
  | .list _ => .list none []
  | .table _ _ => .table none
  | .optional _ => .optional none
  | .record (.mk _ fields _) => .record (Kind.zeros fields)

def Kind.zeros : List Field → List Value
  | [] => []
  | .mk _ _ kind _ :: rest => Kind.zero kind :: Kind.zeros rest

end

/-- Whether a value is a starting value: empty, false, zero (a real zero only with a positive
sign), absent, or a record of such values. -/
def Value.isZero : Value → Bool
  | .text s => s.isEmpty
  | .flag b => !b
  | .signed i => i == 0
  | .unsigned n => n == 0
  | .real f => f.toBits == 0
  | .span n => n == 0
  | .list items _ => items.isNone
  | .table entries => entries.isNone
  | .optional target => target.isNone
  | .record fields => fields.attach.all fun ⟨v, _⟩ => v.isZero

def Value.fields : Value → List Value
  | .record fs => fs
  | _ => []

def Value.setField (v : Value) (i : Nat) (x : Value) : Value :=
  match v with
  | .record fs => .record (fs.set i x)
  | other => other

def isUpperAscii (c : Char) : Bool := 'A' ≤ c && c ≤ 'Z'

def isLowerAscii (c : Char) : Bool := 'a' ≤ c && c ≤ 'z'

def lowerChar (c : Char) : Char := if isUpperAscii c then Char.ofNat (c.toNat + 32) else c

def upper (s : String) : String := Text.upperText s

def lower (s : String) : String := String.ofList (s.toList.map lowerChar)

def snakeChars : Option Char → List Char → List Char
  | _, [] => []
  | prev, c :: rest =>
    let boundary := match prev with
      | some p => isUpperAscii c && (!isUpperAscii p || (rest.head?.map isLowerAscii).getD false)
      | none => false
    (if boundary then ['_', lowerChar c] else [lowerChar c]) ++ snakeChars (some c) rest

/-- A field name (an ASCII identifier) in snake case: `HTTPServerAddr` is
`http_server_addr`, `UserID` is `user_id`. -/
def snakeCase (name : String) : String := String.ofList (snakeChars none name.toList)

def tagName (tag : String) : String := ((tag.splitOn ",").head?).getD ""

def Field.envName (f : Field) : Option String :=
  let rec go : List (Option String) → Option String
    | [] => some (snakeCase f.name)
    | t :: rest =>
      match t with
      | some "-" => none
      | some tag => if (tagName tag).isEmpty then go rest else some (tagName tag)
      | none => go rest
  go [f.tags.env, f.tags.yaml, f.tags.json]

def Field.yamlKey (f : Field) : Option String :=
  if !f.exported then none
  else
    match f.tags.yaml with
    | some "-" => none
    | some tag => if (tagName tag).isEmpty then some (lower f.name) else some (tagName tag)
    | none => some (lower f.name)

def Field.jsonKey (f : Field) : Option String :=
  if !f.exported then none
  else
    match f.tags.json with
    | some "-" => none
    | some tag => if (tagName tag).isEmpty then some f.name else some (tagName tag)
    | none => some f.name

example : snakeCase "HTTPServerAddr" = "http_server_addr" ∧ snakeCase "UserID" = "user_id" ∧
    snakeCase "MaxPasses" = "max_passes" := by
  decide

end Settings
end Circuitry
