import Circuitry.Settings.Yaml.Parse
import Circuitry.Settings.Scalar
import Circuitry.Number.Binary64

/-!
# Settings from a YAML document

A YAML node sets a settings value of a kind:

* a mapping sets the fields of a record whose YAML key is one of its keys (other keys are
  skipped, or are a fault when unknown fields are refused), or adds entries to a table, each
  entry read afresh; a mapping that repeats a key sets nothing and is a fault, and a record
  field named twice is a fault the second time;
* a merge key `<<` brings in the pairs of a mapping, or of each mapping of a sequence in turn,
  for keys not given otherwise: after the mapping's own pairs, a key counts as given when the
  mapping has it (compared as a loosely typed value) or an earlier merged mapping brought it;
* a sequence replaces a list, keeping the elements that could be read;
* a scalar sets a scalar field by what it resolves to: any scalar sets text (its text as
  written, or for `!!binary` the bytes its base64 text stands for), truth values also take
  `yes`/`no`/`on`/`off` words, integers take integers (and reals, truncated) that fit, unsigned
  integers take those that are not negative, reals take any number, and durations take only
  text that reads as a duration;
* null empties a list, a table or an optional value and leaves anything else as it is; any
  other node sets an optional value's target, creating it first;
* an alias reads the node its anchor names, in the place of the alias; an alias met again
  while it is being read is a fault.

A node of the wrong type is a fault naming its line, tag and value, and reading goes on; all
faults are reported together. Some faults stop reading at once: a scalar whose explicit tag
does not fit its text, bad base64 text, a merge of something that is not a mapping, an alias
inside the node it names, and a document where more than a set share of the reading is done
through aliases (more than 99% once a thousand nodes have been read, the share falling for
very large documents).
-/

namespace Circuitry
namespace Settings
namespace Yaml

def Node.tag : Node → String
  | .scalar tag _ _ _ => tag
  | .sequence tag _ _ => tag
  | .mapping tag _ _ => tag
  | .alias _ _ _ => ""

def Node.line : Node → Nat
  | .scalar _ _ _ line => line
  | .sequence _ _ line => line
  | .mapping _ _ line => line
  | .alias _ _ line => line

def Node.identity : Node → Nat × String
  | .scalar _ value _ _ => (0, value)
  | .sequence _ _ _ => (1, "")
  | .mapping _ _ _ => (2, "")
  | .alias name _ _ => (3, name)

def Node.isMerge : Node → Bool
  | .scalar tag value _ _ => value == "<<" && tag == "!!merge"
  | _ => false

def Node.isMapping : Node → Bool
  | .mapping _ _ _ => true
  | _ => false

def Document.tagOf (d : Document) : Nat → Nat → String
  | 0, _ => ""
  | fuel + 1, i =>
    match d.node i with
    | .alias _ target _ => d.tagOf fuel target
    | n => n.tag

def firstBytes (n : Nat) (s : String) : String :=
  let rec go : Nat → List Char → List Char
    | _, [] => []
    | room, c :: rest =>
      if Text.Utf8.width c ≤ room then c :: go (room - Text.Utf8.width c) rest
      else List.replicate room (Char.ofNat 0xFFFD)
  String.ofList (go n s.toList)

def typeFault (line : Nat) (tag value : String) (kind : Kind) : String :=
  let shown :=
    if tag = "!!seq" || tag = "!!map" then value
    else if value.utf8ByteSize > 10 then " `" ++ firstBytes 7 value ++ "...`"
    else " `" ++ value ++ "`"
  "line " ++ toString line ++ ": cannot unmarshal " ++ tag ++ shown ++ " into " ++ kind.typeText

def truncToSigned (f : Float) : Int :=
  match Binary64.shape f with
  | .finite negative m e =>
    let magnitude : Nat := if e ≥ 0 then m * Nat.pow 2 e.toNat else m / Nat.pow 2 (-e).toNat
    let i : Int := if negative then -(magnitude : Int) else magnitude
    if -(Int.pow 2 63) ≤ i && i < Int.pow 2 63 then i else -(Int.pow 2 63)
  | _ => -(Int.pow 2 63)

def truncToUnsigned (f : Float) : Nat :=
  if f < 9223372036854775808.0 then (truncToSigned f % Int.pow 2 64).toNat
  else if f < 18446744073709551616.0 then (truncToSigned (f - 9223372036854775808.0)).toNat + Nat.pow 2 63
  else Nat.pow 2 63

def truthWord : String → Option Bool
  | "y" | "Y" | "yes" | "Yes" | "YES" | "on" | "On" | "ON" => some true
  | "n" | "N" | "no" | "No" | "NO" | "off" | "Off" | "OFF" => some false
  | _ => none

def fitsSignedBits (bits : Nat) (i : Int) : Bool := -(Int.pow 2 (bits - 1)) ≤ i && i < Int.pow 2 (bits - 1)

/-- The value a resolved scalar gives a scalar kind, written as `text`; none when it does not
fit. -/
def scalarInto (kind : Kind) (r : Resolved) (text : String) : Option Value :=
  match kind, r with
  | .text, _ => some (.text text)
  | .flag, .bool b => some (.flag b)
  | .flag, .str s => (truthWord s).map Value.flag
  | .span, .str s => (Number.readDuration s).map Value.span
  | .signed size, .int i => if fitsSignedBits size.bits i then some (.signed i) else none
  | .signed size, .uint n => if fitsSignedBits size.bits n then some (.signed n) else none
  | .signed size, .float f =>
    if f ≤ 9223372036854775808.0 then
      let i := truncToSigned f
      if fitsSignedBits size.bits i then some (.signed i) else none
    else none
  | .unsigned size, .int i => if 0 ≤ i && i < Int.pow 2 size.bits then some (.unsigned i.toNat) else none
  | .unsigned size, .uint n => if n < Nat.pow 2 size.bits then some (.unsigned n) else none
  | .unsigned size, .float f =>
    if f ≤ 18446744073709551616.0 then
      let n := truncToUnsigned f
      if n < Nat.pow 2 size.bits then some (.unsigned n) else none
    else none
  | .real, .int i => some (.real (Float.ofInt i))
  | .real, .uint n => some (.real (Float.ofNat n))
  | .real, .float f => some (.real f)
  | _, _ => none

def base64Value (c : Char) : Option Nat :=
  if 'A' ≤ c && c ≤ 'Z' then some (c.toNat - 65)
  else if 'a' ≤ c && c ≤ 'z' then some (c.toNat - 71)
  else if '0' ≤ c && c ≤ '9' then some (c.toNat + 4)
  else if c = '+' then some 62
  else if c = '/' then some 63
  else none

def base64Bytes (q : List Nat) : List UInt8 :=
  let v := q.foldl (fun acc d => acc * 64 + d) 0 * Nat.pow 64 (4 - q.length)
  let bytes := [v / 65536 % 256, v / 256 % 256, v % 256].map Nat.toUInt8
  bytes.take (q.length - 1)

def isBase64Break (c : Char) : Bool := c = '\n' || c = '\r'

/-- The bytes of a base64 text in the padded standard alphabet, line breaks ignored: groups of
four digits, the last one possibly two digits and `==` or three digits and `=`, with only line
breaks after the padding. -/
def decodeBase64 : List Char → List Nat → List UInt8 → Option (List UInt8)
  | [], [], out => some out
  | [], _ :: _, _ => none
  | c :: rest, q, out =>
    if isBase64Break c then decodeBase64 rest q out
    else
      match base64Value c with
      | some d =>
        if q.length = 3 then decodeBase64 rest [] (out ++ base64Bytes (q ++ [d]))
        else decodeBase64 rest (q ++ [d]) out
      | none =>
        if c ≠ '=' then none
        else if q.length = 2 then
          match rest.dropWhile isBase64Break with
          | '=' :: more => if (more.dropWhile isBase64Break).isEmpty then some (out ++ base64Bytes q) else none
          | _ => none
        else if q.length = 3 then
          if (rest.dropWhile isBase64Break).isEmpty then some (out ++ base64Bytes q) else none
        else none

/-- A key as merging compares keys: a loosely typed value (null, truth value, integer, large
unsigned integer, real, text), or a key of another type, such as a time, that equals none of
them. -/
inductive KeyId
  | null
  | bool (b : Bool)
  | int (i : Int)
  | uint (n : Nat)
  | real (f : Float)
  | text (s : String)
  | other

def KeyId.same : KeyId → KeyId → Bool
  | .null, .null => true
  | .bool a, .bool b => a == b
  | .int a, .int b => a == b
  | .uint a, .uint b => a == b
  | .real a, .real b => a == b
  | .text a, .text b => a == b
  | _, _ => false

def KeyId.among (k : KeyId) (ks : List KeyId) : Bool := ks.any k.same

def keyIdOf (kind : Kind) (v : Value) : KeyId :=
  match kind, v with
  | .text, .text s => .text s
  | .signed .word, .signed i => .int i
  | _, _ => .other

/-- Why reading a document stopped early: a fault with its message, or a list or mapping (named
by its loose type) met among the keys that a merge sets aside, which no set of keys can hold
and which aborts the whole load. -/
inductive Stop
  | fault (message : String)
  | unhashable (type : String)
deriving Repr

/-- A node read as a loosely typed value: a key, or a list or mapping named by its type. -/
inductive Loose
  | key (k : KeyId)
  | collection (type : String)

def allowedAliasRatio (count : Nat) : Float :=
  if count ≤ 400000 then 0.99
  else if count ≥ 4000000 then 0.10
  else 0.99 - 0.89 * (Float.ofNat (count - 400000) / 3600000.0)

/-- The bookkeeping of a decoding: the decoding steps so far, those inside an alias, the alias
depth, the alias nodes being read, the type faults found (latest first), and the keys a merge
must not override (when a merge is under way). -/
structure Tally where
  count : Nat
  aliasCount : Nat
  aliasDepth : Nat
  active : List Nat
  faults : List String
  merged : Option (List KeyId)

def Tally.empty : Tally := ⟨0, 0, 0, [], [], none⟩

def Tally.visit (t : Tally) : Except Stop Tally :=
  let t := { t with count := t.count + 1,
                    aliasCount := if t.aliasDepth > 0 then t.aliasCount + 1 else t.aliasCount }
  if t.aliasCount > 100 && t.count > 1000 &&
      Float.ofNat t.aliasCount / Float.ofNat t.count > allowedAliasRatio t.count then
    .error (.fault "document contains excessive aliasing")
  else .ok t

def Tally.fault (t : Tally) (msg : String) : Tally := { t with faults := msg :: t.faults }

def repeatedKeys : List Node → List String
  | [] => []
  | k :: rest =>
    (rest.filter fun other => other.identity == k.identity).map (fun other =>
      "line " ++ toString other.line ++ ": mapping key " ++ Text.quote other.identity.2 ++
        " already defined at line " ++ toString k.line) ++ repeatedKeys rest

def hasKey (entries : List (Value × Value)) (key : Value) : Bool := entries.any fun e => e.1.sameKey key

/-- The tag and value a scalar resolves to: a `!!str` scalar is its text, a `!!binary` one the
bytes its base64 text stands for. -/
def resolveScalar (tag value : String) : Except Stop (String × Resolved × String) :=
  if tag = "!!str" then .ok ("!!str", .str value, value)
  else
    match resolve tag value with
    | .error e => .error (.fault e)
    | .ok (rtag, r) =>
      if rtag = "!!binary" then
        match decodeBase64 value.toList [] [] with
        | some bytes =>
          let text := String.ofList (Text.Utf8.decodeLossy bytes.length bytes)
          .ok (rtag, .str text, text)
        | none => .error (.fault "!!binary value contains invalid base64 data")
      else .ok (rtag, r, value)

/-- The reading of a scalar as a loosely typed key. -/
def looseKey (tag value : String) : Except Stop KeyId :=
  match resolveScalar tag value with
  | .error e => .error e
  | .ok (_, r, text) =>
    .ok (match r with
      | .null => .null
      | .bool b => .bool b
      | .int i => .int i
      | .uint n => .uint n
      | .float f => .real f
      | .str _ => .text text
      | .timestamp => .other)

def mergeFault : String := "map merge requires map or sequence of maps as the value"

abbrev Step := Except Stop (Value × Bool × Tally)

mutual

/-- Decodes node `i` over `current` as a value of `kind`; `known` refuses unknown record keys.
Every call is one decoding step; an alias reads its target in its place. -/
def unmarshal : Nat → Document → Bool → Kind → Nat → Value → Tally → Step
  | 0, _, _, _, _, _, _ => .error (.fault "document nested too deeply")
  | fuel + 1, doc, known, kind, i, current, t =>
    match t.visit with
    | .error e => .error e
    | .ok t =>
      match doc.node i with
      | .alias name target _ =>
        if t.active.contains i then .error (.fault ("anchor '" ++ name ++ "' value contains itself"))
        else
          let inner := { t with active := i :: t.active, aliasDepth := t.aliasDepth + 1 }
          match unmarshal fuel doc known kind target current inner with
          | .ok (v, good, t2) => .ok (v, good, { t2 with active := t.active, aliasDepth := t.aliasDepth })
          | .error e => .error e
      | node => prepared fuel doc known kind node current t

/-- Decodes a node that is not an alias: an optional value's target is created first, unless
the node is tagged null. -/
def prepared : Nat → Document → Bool → Kind → Node → Value → Tally → Step
  | 0, _, _, _, _, _, _ => .error (.fault "document nested too deeply")
  | fuel + 1, doc, known, kind, node, current, t =>
    match kind with
    | .optional elem =>
      if node.tag ≠ "!!null" then
        let target := match current with
          | .optional (some v) => v
          | _ => elem.zero
        match prepared fuel doc known elem node target t with
        | .ok (v, good, t) => .ok (.optional (some v), good, t)
        | .error e => .error e
      else shaped fuel doc known kind node current t
    | _ => shaped fuel doc known kind node current t

/-- Decodes a scalar, sequence or mapping node by its shape. -/
def shaped : Nat → Document → Bool → Kind → Node → Value → Tally → Step
  | 0, _, _, _, _, _, _ => .error (.fault "document nested too deeply")
  | fuel + 1, doc, known, kind, node, current, t =>
    match node with
    | .scalar tag value _ line =>
      match resolveScalar tag value with
      | .error e => .error e
      | .ok (_, .null, _) =>
        match kind with
        | .list _ => .ok (.list none [], true, t)
        | .table _ _ => .ok (.table none, true, t)
        | .optional _ => .ok (.optional none, true, t)
        | _ => .ok (current, false, t)
      | .ok (_, r, text) =>
        match scalarInto kind r text with
        | some v => .ok (v, true, t)
        | none => .ok (current, false, t.fault (typeFault line tag value kind))
    | .sequence tag items line =>
      match kind with
      | .list elem =>
        match elements fuel doc known elem items [] t with
        | .ok (vs, t) => .ok (.list (some vs) [], true, t)
        | .error e => .error e
      | _ => .ok (current, false, t.fault (typeFault line tag "" kind))
    | .mapping tag pairs line =>
      let repeated := repeatedKeys (pairs.map fun p => doc.node p.1)
      if !repeated.isEmpty then .ok (current, false, { t with faults := repeated.reverse ++ t.faults })
      else
        match kind with
        | .record schema =>
          let saved := t.merged
          match fields fuel doc known schema pairs saved (current.fields, [], none)
              { t with merged := none } with
          | .error e => .error e
          | .ok ((values, _, mergeNode), saved, t) =>
            let t := { t with merged := saved }
            match mergeNode with
            | some m => merge fuel doc known kind pairs m (.record values) t
            | none => .ok (.record values, true, t)
        | .table key elem =>
          let isNew := match current with
            | .table (some _) => false
            | _ => true
          let start := match current with
            | .table (some entries) => entries
            | _ => []
          let saved := t.merged
          match entries fuel doc known key elem isNew pairs saved (start, none) { t with merged := none } with
          | .error e => .error e
          | .ok ((found, mergeNode), saved, t) =>
            let t := { t with merged := saved }
            match mergeNode with
            | some m => merge fuel doc known kind pairs m (.table (some found)) t
            | none => .ok (.table (some found), true, t)
        | _ => .ok (current, false, t.fault (typeFault line tag "" kind))
    | .alias _ _ _ => .ok (current, false, t)

/-- The elements of a sequence, each read afresh; those that could not be read are left out. -/
def elements : Nat → Document → Bool → Kind → List Nat → List Value → Tally →
    Except Stop (List Value × Tally)
  | 0, _, _, _, _, _, _ => .error (.fault "document nested too deeply")
  | _ + 1, _, _, _, [], acc, t => .ok (acc.reverse, t)
  | fuel + 1, doc, known, elem, item :: rest, acc, t =>
    match unmarshal fuel doc known elem item elem.zero t with
    | .ok (v, good, t) => elements fuel doc known elem rest (if good then v :: acc else acc) t
    | .error e => .error e

/-- The pairs of a mapping read into a record: the field values, the fields set so far and
the merge value met, with the keys a merge must not override. -/
def fields : Nat → Document → Bool → Schema → List (Nat × Nat) → Option (List KeyId) →
    List Value × List Nat × Option Nat → Tally →
    Except Stop ((List Value × List Nat × Option Nat) × Option (List KeyId) × Tally)
  | 0, _, _, _, _, _, _, _ => .error (.fault "document nested too deeply")
  | _ + 1, _, _, _, [], saved, acc, t => .ok (acc, saved, t)
  | fuel + 1, doc, known, schema, (k, v) :: rest, saved, (values, done, mergeNode), t =>
    let keyNode := doc.node k
    if keyNode.isMerge then fields fuel doc known schema rest saved (values, done, some v) t
    else
      match unmarshal fuel doc known .text k (.text "") t with
      | .error e => .error e
      | .ok (named, good, t) =>
        let name := match named with
          | .text s => s
          | _ => ""
        if !good then fields fuel doc known schema rest saved (values, done, mergeNode) t
        else if (saved.map (KeyId.text name).among).getD false then
          fields fuel doc known schema rest saved (values, done, mergeNode) t
        else
          let saved := saved.map (KeyId.text name :: ·)
          match (schema.fields.zipIdx).find? (fun (f, _) => f.yamlKey == some name) with
          | some (f, idx) =>
            if done.contains idx then
              let t := t.fault ("line " ++ toString keyNode.line ++ ": field " ++ name ++
                " already set in type " ++ schema.typeName)
              fields fuel doc known schema rest saved (values, done, mergeNode) t
            else
              match unmarshal fuel doc known f.kind v (values.getD idx f.kind.zero) t with
              | .ok (r, _, t) => fields fuel doc known schema rest saved (values.set idx r, idx :: done, mergeNode) t
              | .error e => .error e
          | none =>
            let t := if known then
                t.fault ("line " ++ toString keyNode.line ++ ": field " ++ name ++ " not found in type " ++
                  schema.typeName)
              else t
            fields fuel doc known schema rest saved (values, done, mergeNode) t

/-- The pairs of a mapping read into a table: the entries and the merge value met, with the
keys a merge must not override. An entry whose value could not be read is still added when
the value is null and the table is new or lacks the key. -/
def entries : Nat → Document → Bool → Kind → Kind → Bool → List (Nat × Nat) → Option (List KeyId) →
    List (Value × Value) × Option Nat → Tally →
    Except Stop ((List (Value × Value) × Option Nat) × Option (List KeyId) × Tally)
  | 0, _, _, _, _, _, _, _, _, _ => .error (.fault "document nested too deeply")
  | _ + 1, _, _, _, _, _, [], saved, acc, t => .ok (acc, saved, t)
  | fuel + 1, doc, known, key, elem, isNew, (k, v) :: rest, saved, (found, mergeNode), t =>
    if (doc.node k).isMerge then entries fuel doc known key elem isNew rest saved (found, some v) t
    else
      match unmarshal fuel doc known key k key.zero t with
      | .error e => .error e
      | .ok (kv, good, t) =>
        if !good then entries fuel doc known key elem isNew rest saved (found, mergeNode) t
        else
          let ki := keyIdOf key kv
          if (saved.map ki.among).getD false then entries fuel doc known key elem isNew rest saved (found, mergeNode) t
          else
            let saved := saved.map (ki :: ·)
            match unmarshal fuel doc known elem v elem.zero t with
            | .error e => .error e
            | .ok (ev, egood, t) =>
              let isNull := doc.tagOf (doc.nodes.size + 1) v == "!!null"
              let found := if egood || (isNull && (isNew || !hasKey found kv)) then putEntry found kv ev else found
              entries fuel doc known key elem isNew rest saved (found, mergeNode) t

/-- Merges the mapping (or mappings) a merge key names into a value, after the keys of the
mapping that holds the merge key are set aside (unless a merge is already under way). -/
def merge : Nat → Document → Bool → Kind → List (Nat × Nat) → Nat → Value → Tally → Step
  | 0, _, _, _, _, _, _, _ => .error (.fault "document nested too deeply")
  | fuel + 1, doc, known, kind, pairs, m, current, t =>
    let outer := t.merged
    let start : Except Stop Tally :=
      match outer with
      | some _ => .ok t
      | none =>
        match looseKeys fuel doc (pairs.map Prod.fst) [] t with
        | .ok (ks, t) => .ok { t with merged := some ks }
        | .error e => .error e
    match start with
    | .error e => .error e
    | .ok t =>
      let finish := fun (r : Step) =>
        match r with
        | .ok (v, _, t) => .ok (v, true, { t with merged := outer })
        | .error e => .error e
      match doc.node m with
      | .mapping _ _ _ => finish (unmarshal fuel doc known kind m current t)
      | .alias _ target _ =>
        if !(doc.node target).isMapping then .error (.fault mergeFault)
        else finish (unmarshal fuel doc known kind m current t)
      | .sequence _ items _ => finish (mergeEach fuel doc known kind items current t)
      | .scalar _ _ _ _ => .error (.fault mergeFault)

/-- Merges each mapping of a sequence in turn; an item that is not a mapping is a fault. -/
def mergeEach : Nat → Document → Bool → Kind → List Nat → Value → Tally → Step
  | 0, _, _, _, _, _, _ => .error (.fault "document nested too deeply")
  | _ + 1, _, _, _, [], current, t => .ok (current, true, t)
  | fuel + 1, doc, known, kind, item :: rest, current, t =>
    let fits := match doc.node item with
      | .alias _ target _ => (doc.node target).isMapping
      | n => n.isMapping
    if !fits then .error (.fault mergeFault)
    else
      match unmarshal fuel doc known kind item current t with
      | .ok (v, _, t) => mergeEach fuel doc known kind rest v t
      | .error e => .error e

def looseKeys : Nat → Document → List Nat → List KeyId → Tally → Except Stop (List KeyId × Tally)
  | 0, _, _, _, _ => .error (.fault "document nested too deeply")
  | _ + 1, _, [], acc, t => .ok (acc.reverse, t)
  | fuel + 1, doc, k :: rest, acc, t =>
    match looseKey1 fuel doc k t with
    | .ok (some (.key key), t) => looseKeys fuel doc rest (key :: acc) t
    | .ok (some (.collection type), _) => .error (.unhashable type)
    | .ok (none, t) => looseKeys fuel doc rest acc t
    | .error e => .error e

/-- One node read as a loosely typed value, through aliases: a scalar gives a key, a sequence a
list and a mapping a map (keyed by text when every key is text or a merge key), after their
nodes are read in turn; a mapping that repeats a key does not read. -/
def looseKey1 : Nat → Document → Nat → Tally → Except Stop (Option Loose × Tally)
  | 0, _, _, _ => .error (.fault "document nested too deeply")
  | fuel + 1, doc, k, t =>
    match t.visit with
    | .error e => .error e
    | .ok t =>
      match doc.node k with
      | .alias name target _ =>
        if t.active.contains k then .error (.fault ("anchor '" ++ name ++ "' value contains itself"))
        else
          let inner := { t with active := k :: t.active, aliasDepth := t.aliasDepth + 1 }
          match looseKey1 fuel doc target inner with
          | .ok (key, t2) => .ok (key, { t2 with active := t.active, aliasDepth := t.aliasDepth })
          | .error e => .error e
      | .scalar tag value _ _ =>
        match looseKey tag value with
        | .ok key => .ok (some (.key key), t)
        | .error e => .error e
      | .sequence _ items _ =>
        match looseAll fuel doc items t with
        | .ok t => .ok (some (.collection "[]interface {}"), t)
        | .error e => .error e
      | .mapping _ pairs _ =>
        let repeated := repeatedKeys (pairs.map fun p => doc.node p.1)
        if !repeated.isEmpty then .ok (none, { t with faults := repeated.reverse ++ t.faults })
        else
          let nodes := pairs.flatMap fun (a, b) => if (doc.node a).isMerge then [b] else [a, b]
          let textKeys := pairs.all fun (a, _) =>
            let tag := doc.tagOf (doc.nodes.size + 1) a
            tag == "!!str" || tag == "!!merge"
          match looseAll fuel doc nodes t with
          | .ok t =>
            .ok (some (.collection
              (if textKeys then "map[string]interface {}" else "map[interface {}]interface {}")), t)
          | .error e => .error e

def looseAll : Nat → Document → List Nat → Tally → Except Stop Tally
  | 0, _, _, _ => .error (.fault "document nested too deeply")
  | _ + 1, _, [], t => .ok t
  | fuel + 1, doc, k :: rest, t =>
    match looseKey1 fuel doc k t with
    | .ok (_, t) => looseAll fuel doc rest t
    | .error e => .error e

end

/-- A record value with the first document of a YAML text read over it, or why reading
stopped. A stream without a document reads as the end of input. -/
def readRecord (s : Schema) (known : Bool) (text : String) (current : Value) :
    Except Stop Value :=
  match readDocument text with
  | .error e => .error (.fault e.message)
  | .ok none => .error (.fault "EOF")
  | .ok (some doc) =>
    let fuel := 4 * doc.nodes.size + 16
    match Tally.empty.visit with
    | .error e => .error e
    | .ok t =>
      match unmarshal fuel doc known (.record s) doc.root current t with
      | .error (.fault msg) => .error (.fault ("yaml: " ++ msg))
      | .error e => .error e
      | .ok (v, _, t) =>
        if t.faults.isEmpty then .ok v
        else .error (.fault ("yaml: unmarshal errors:\n  " ++ "\n  ".intercalate t.faults.reverse))

end Yaml
end Settings
end Circuitry
