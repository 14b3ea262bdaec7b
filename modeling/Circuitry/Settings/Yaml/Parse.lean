import Circuitry.Settings.Yaml.Scan
import Circuitry.Settings.Yaml.Resolve

/-!
# Parsing YAML tokens into a document

The first document of a YAML stream as a table of nodes. A node is a scalar, a sequence, a
mapping, or an alias; children and alias targets are positions in the table, so an alias may
name the collection it stands in (an anchor names its node from the moment the node starts).
Each node records its line (from one; the line of its anchor or tag when it has one) and its
tag: an explicit tag in short form, `!!seq` or `!!map` for collections, `!!str` for a quoted or
block scalar, `!!merge` for a plain `<<`, and for another plain scalar the tag its text
resolves to.

The grammar is that of block and flow collections:

* a block sequence is `-` entries up to the end of its indentation; a block mapping is
  key-value pairs; inside a block mapping a sequence may stand at the indentation of its keys;
* a flow sequence is `[` entries separated by commas `]`, where an entry may be a single
  `key: value` pair; a flow mapping is the same between braces;
* a missing key, value or entry is an empty (null) scalar.

A document may start with directives: `%YAML 1.1` at most once, and `%TAG` handles, each at
most once; then `---` must follow. The handles `!` and `!!` stand for `!` and
`tag:yaml.org,2002:` unless a directive says otherwise; any other handle must be declared.

A token that cannot continue the collection is a fault naming what was expected and where
the collection started. The stream may hold no document at all. After the first document the
next token is still looked at, so a fault right after the document is reported too.
-/

namespace Circuitry
namespace Settings
namespace Yaml

/-- A node of a YAML document; children and alias targets are positions in the node table. -/
inductive Node
  | scalar (tag : String) (value : String) (style : ScalarStyle) (line : Nat)
  | sequence (tag : String) (items : List Nat) (line : Nat)
  | mapping (tag : String) (pairs : List (Nat × Nat)) (line : Nat)
  | alias (name : String) (target : Nat) (line : Nat)
deriving Inhabited, Repr

/-- A document: its node table and the position of its root. -/
structure Document where
  nodes : Array Node
  root : Nat

def Document.node (d : Document) (i : Nat) : Node := d.nodes.getD i default

/-- What the parser builds besides reading tokens: the node table, the anchors defined so far
(the latest first) and the tag handles of the document. -/
structure Builder where
  nodes : Array Node
  anchors : List (String × Nat)
  handles : List (String × String)

def Builder.add (b : Builder) (n : Node) : Builder × Nat :=
  ({ b with nodes := b.nodes.push n }, b.nodes.size)

def Builder.put (b : Builder) (i : Nat) (n : Node) : Builder :=
  { b with nodes := b.nodes.setIfInBounds i n }

/-- The builder with an anchor naming a position. -/
def Builder.name (b : Builder) (anchor : Option String) (i : Nat) : Builder :=
  match anchor with
  | some a => { b with anchors := (a, i) :: b.anchors }
  | none => b

def defaultHandles : List (String × String) := [("!", "!"), ("!!", "tag:yaml.org,2002:")]

def scalarTag (explicit value : String) (style : ScalarStyle) : String :=
  if explicit ≠ "" && explicit ≠ "!" then shortTag explicit
  else if style ≠ .plain then "!!str"
  else if value = "<<" then "!!merge"
  else (resolveLoose "" value).1

def collectionTag (explicit default : String) : String :=
  if explicit ≠ "" && explicit ≠ "!" then shortTag explicit else default

def parseFault (context : String) (contextMark : Mark) (problem : String) (at_ : Mark) : ReadIssue :=
  .located .parser context contextMark problem at_

def parseProblem (problem : String) (at_ : Mark) : ReadIssue :=
  .located .parser "" ⟨0, 0, 0⟩ problem at_

def emptyAt (b : Builder) (explicit : String) (anchor : Option String) (m : Mark) : Builder × Nat :=
  let (b, i) := b.add (.scalar (scalarTag explicit "" .plain) "" .plain (m.line + 1))
  (b.name anchor i, i)

def fullTag (handles : List (String × String)) (handle suffix : String) (start at_ : Mark) :
    Except ReadIssue String :=
  if handle = "" then .ok suffix
  else
    match handles.lookup handle with
    | some pre => .ok (pre ++ suffix)
    | none => .error (parseFault "while parsing a node" start "found undefined tag handle" at_)

/-- The anchor and tag in front of a node, in either order, and the token after them. -/
def properties (t : Token) (sc : Scanner) :
    Except ReadIssue (Option String × Option (String × String × Mark) × Token × Scanner) :=
  match t.kind with
  | .anchor a =>
    match sc.next.peek with
    | .ok (t2, sc) =>
      match t2.kind with
      | .tag h s =>
        match sc.next.peek with
        | .ok (t3, sc) => .ok (some a, some (h, s, t2.start), t3, sc)
        | .error e => .error e
      | _ => .ok (some a, none, t2, sc)
    | .error e => .error e
  | .tag h s =>
    match sc.next.peek with
    | .ok (t2, sc) =>
      match t2.kind with
      | .anchor a =>
        match sc.next.peek with
        | .ok (t3, sc) => .ok (some a, some (h, s, t.start), t3, sc)
        | .error e => .error e
      | _ => .ok (none, some (h, s, t.start), t2, sc)
    | .error e => .error e
  | _ => .ok (none, none, t, sc)

def TokenKind.isOneOf (k : TokenKind) (ks : List TokenKind) : Bool := ks.contains k

abbrev Parsed := Except ReadIssue (Nat × Scanner × Builder)

abbrev Entries (α : Type) := Except ReadIssue (List α × Scanner × Builder)

mutual

/-- A node. `block` allows block collections; `indentless` allows a sequence at the
indentation of the enclosing mapping's keys. -/
def parseNode : Nat → Bool → Bool → Scanner → Builder → Parsed
  | 0, _, _, _, _ => .error (.plain "document nested too deeply")
  | fuel + 1, block, indentless, sc, b =>
    match sc.peek with
    | .error e => .error e
    | .ok (t, sc) =>
      match t.kind with
      | .alias name =>
        match b.anchors.lookup name with
        | some target =>
          let (b, i) := b.add (.alias name target (t.start.line + 1))
          .ok (i, sc.next, b)
        | none => .error (.plain ("unknown anchor '" ++ name ++ "' referenced"))
      | _ =>
        let start := t.start
        match properties t sc with
        | .error e => .error e
        | .ok (anchor, tagged, t, sc) =>
          let tagText : Except ReadIssue String := match tagged with
            | some (h, s, m) => fullTag b.handles h s start m
            | none => .ok ""
          match tagText with
          | .error e => .error e
          | .ok tag =>
            let line := start.line + 1
            let open_ := fun (n : Node) => let (b, i) := b.add n; (b.name anchor i, i)
            if indentless && t.kind = .blockEntry then
              let (b, i) := open_ (.sequence (collectionTag tag "!!seq") [] line)
              match indentlessSequence fuel [] sc b with
              | .ok (items, sc, b) => .ok (i, sc, b.put i (.sequence (collectionTag tag "!!seq") items line))
              | .error e => .error e
            else
              match t.kind with
              | .scalar value style =>
                let (b, i) := open_ (.scalar (scalarTag tag value style) value style line)
                .ok (i, sc.next, b)
              | .flowSequenceStart =>
                let (b, i) := open_ (.sequence (collectionTag tag "!!seq") [] line)
                match flowSequence fuel t.start true [] sc.next b with
                | .ok (items, sc, b) => .ok (i, sc, b.put i (.sequence (collectionTag tag "!!seq") items line))
                | .error e => .error e
              | .flowMappingStart =>
                let (b, i) := open_ (.mapping (collectionTag tag "!!map") [] line)
                match flowMapping fuel t.start true [] sc.next b with
                | .ok (pairs, sc, b) => .ok (i, sc, b.put i (.mapping (collectionTag tag "!!map") pairs line))
                | .error e => .error e
              | .blockSequenceStart =>
                if block then
                  let (b, i) := open_ (.sequence (collectionTag tag "!!seq") [] line)
                  match blockSequence fuel t.start [] sc.next b with
                  | .ok (items, sc, b) => .ok (i, sc, b.put i (.sequence (collectionTag tag "!!seq") items line))
                  | .error e => .error e
                else .error (parseFault "while parsing a flow node" start "did not find expected node content" t.start)
              | .blockMappingStart =>
                if block then
                  let (b, i) := open_ (.mapping (collectionTag tag "!!map") [] line)
                  match blockMapping fuel t.start [] sc.next b with
                  | .ok (pairs, sc, b) => .ok (i, sc, b.put i (.mapping (collectionTag tag "!!map") pairs line))
                  | .error e => .error e
                else .error (parseFault "while parsing a flow node" start "did not find expected node content" t.start)
              | _ =>
                if anchor.isSome || tagged.isSome then
                  let (b, i) := emptyAt b tag anchor start
                  .ok (i, sc, b)
                else
                  .error (parseFault (if block then "while parsing a block node" else "while parsing a flow node")
                    start "did not find expected node content" t.start)

/-- The entries of a block sequence after its start, reversed in `acc`. -/
def blockSequence : Nat → Mark → List Nat → Scanner → Builder → Entries Nat
  | 0, _, _, _, _ => .error (.plain "document nested too deeply")
  | fuel + 1, startMark, acc, sc, b =>
    match sc.peek with
    | .error e => .error e
    | .ok (t, sc) =>
      match t.kind with
      | .blockEntry =>
        match sc.next.peek with
        | .error e => .error e
        | .ok (t2, sc) =>
          if !t2.kind.isOneOf [.blockEntry, .blockEnd] then
            match parseNode fuel true false sc b with
            | .ok (item, sc, b) => blockSequence fuel startMark (item :: acc) sc b
            | .error e => .error e
          else
            let (b, item) := emptyAt b "" none t.stop
            blockSequence fuel startMark (item :: acc) sc b
      | .blockEnd => .ok (acc.reverse, sc.next, b)
      | _ => .error (parseFault "while parsing a block collection" startMark "did not find expected '-' indicator" t.start)

/-- The entries of a sequence at the indentation of mapping keys, reversed in `acc`. -/
def indentlessSequence : Nat → List Nat → Scanner → Builder → Entries Nat
  | 0, _, _, _ => .error (.plain "document nested too deeply")
  | fuel + 1, acc, sc, b =>
    match sc.peek with
    | .error e => .error e
    | .ok (t, sc) =>
      match t.kind with
      | .blockEntry =>
        match sc.next.peek with
        | .error e => .error e
        | .ok (t2, sc) =>
          if !t2.kind.isOneOf [.blockEntry, .key, .value, .blockEnd] then
            match parseNode fuel true false sc b with
            | .ok (item, sc, b) => indentlessSequence fuel (item :: acc) sc b
            | .error e => .error e
          else
            let (b, item) := emptyAt b "" none t.stop
            indentlessSequence fuel (item :: acc) sc b
      | _ => .ok (acc.reverse, sc, b)

/-- The pairs of a block mapping after its start, reversed in `acc`. -/
def blockMapping : Nat → Mark → List (Nat × Nat) → Scanner → Builder → Entries (Nat × Nat)
  | 0, _, _, _, _ => .error (.plain "document nested too deeply")
  | fuel + 1, startMark, acc, sc, b =>
    match sc.peek with
    | .error e => .error e
    | .ok (t, sc) =>
      match t.kind with
      | .key =>
        match sc.next.peek with
        | .error e => .error e
        | .ok (t2, sc) =>
          let key : Parsed :=
            if !t2.kind.isOneOf [.key, .value, .blockEnd] then parseNode fuel true true sc b
            else let (b, i) := emptyAt b "" none t.stop; .ok (i, sc, b)
          match key with
          | .error e => .error e
          | .ok (k, sc, b) =>
            match sc.peek with
            | .error e => .error e
            | .ok (t3, sc) =>
              let value : Parsed :=
                if t3.kind = .value then
                  match sc.next.peek with
                  | .error e => .error e
                  | .ok (t4, sc) =>
                    if !t4.kind.isOneOf [.key, .value, .blockEnd] then parseNode fuel true true sc b
                    else let (b, i) := emptyAt b "" none t3.stop; .ok (i, sc, b)
                else let (b, i) := emptyAt b "" none t3.start; .ok (i, sc, b)
              match value with
              | .error e => .error e
              | .ok (v, sc, b) => blockMapping fuel startMark ((k, v) :: acc) sc b
      | .blockEnd => .ok (acc.reverse, sc.next, b)
      | _ => .error (parseFault "while parsing a block mapping" startMark "did not find expected key" t.start)

/-- The entries of a flow sequence after `[`, reversed in `acc`; `first` when no entry has
been read yet. An entry `? key` whose key is missing takes the indicator after it as read. -/
def flowSequence : Nat → Mark → Bool → List Nat → Scanner → Builder → Entries Nat
  | 0, _, _, _, _, _ => .error (.plain "document nested too deeply")
  | fuel + 1, startMark, first, acc, sc, b =>
    match sc.peek with
    | .error e => .error e
    | .ok (t, sc) =>
      if t.kind = .flowSequenceEnd then .ok (acc.reverse, sc.next, b)
      else
        let entry : Except ReadIssue (Token × Scanner) :=
          if first then .ok (t, sc)
          else if t.kind = .flowEntry then sc.next.peek
          else .error (parseFault "while parsing a flow sequence" startMark "did not find expected ',' or ']'" t.start)
        match entry with
        | .error e => .error e
        | .ok (t, sc) =>
          match t.kind with
          | .flowSequenceEnd => .ok (acc.reverse, sc.next, b)
          | .key =>
            match sc.next.peek with
            | .error e => .error e
            | .ok (t2, sc) =>
              let key : Parsed :=
                if !t2.kind.isOneOf [.value, .flowEntry, .flowSequenceEnd] then parseNode fuel false false sc b
                else let (b, i) := emptyAt b "" none t2.stop; .ok (i, sc.next, b)
              match key with
              | .error e => .error e
              | .ok (k, sc, b) =>
                match sc.peek with
                | .error e => .error e
                | .ok (t3, sc) =>
                  let value : Parsed :=
                    if t3.kind = .value then
                      match sc.next.peek with
                      | .error e => .error e
                      | .ok (t4, sc) =>
                        if !t4.kind.isOneOf [.flowEntry, .flowSequenceEnd] then parseNode fuel false false sc b
                        else let (b, i) := emptyAt b "" none t4.start; .ok (i, sc, b)
                    else let (b, i) := emptyAt b "" none t3.start; .ok (i, sc, b)
                  match value with
                  | .error e => .error e
                  | .ok (v, sc, b) =>
                    let (b, pair) := b.add (.mapping "!!map" [(k, v)] (t.start.line + 1))
                    flowSequence fuel startMark false (pair :: acc) sc b
          | _ =>
            match parseNode fuel false false sc b with
            | .ok (item, sc, b) => flowSequence fuel startMark false (item :: acc) sc b
            | .error e => .error e

/-- The pairs of a flow mapping after its opening brace, reversed in `acc`. -/
def flowMapping : Nat → Mark → Bool → List (Nat × Nat) → Scanner → Builder → Entries (Nat × Nat)
  | 0, _, _, _, _, _ => .error (.plain "document nested too deeply")
  | fuel + 1, startMark, first, acc, sc, b =>
    match sc.peek with
    | .error e => .error e
    | .ok (t, sc) =>
      if t.kind = .flowMappingEnd then .ok (acc.reverse, sc.next, b)
      else
        let entry : Except ReadIssue (Token × Scanner) :=
          if first then .ok (t, sc)
          else if t.kind = .flowEntry then sc.next.peek
          else .error (parseFault "while parsing a flow mapping" startMark "did not find expected ',' or '\x7d'" t.start)
        match entry with
        | .error e => .error e
        | .ok (t, sc) =>
          match t.kind with
          | .flowMappingEnd => .ok (acc.reverse, sc.next, b)
          | .key =>
            match sc.next.peek with
            | .error e => .error e
            | .ok (t2, sc) =>
              let key : Parsed :=
                if !t2.kind.isOneOf [.value, .flowEntry, .flowMappingEnd] then parseNode fuel false false sc b
                else let (b, i) := emptyAt b "" none t2.start; .ok (i, sc, b)
              match key with
              | .error e => .error e
              | .ok (k, sc, b) =>
                match sc.peek with
                | .error e => .error e
                | .ok (t3, sc) =>
                  let value : Parsed :=
                    if t3.kind = .value then
                      match sc.next.peek with
                      | .error e => .error e
                      | .ok (t4, sc) =>
                        if !t4.kind.isOneOf [.flowEntry, .flowMappingEnd] then parseNode fuel false false sc b
                        else let (b, i) := emptyAt b "" none t4.start; .ok (i, sc, b)
                    else let (b, i) := emptyAt b "" none t3.start; .ok (i, sc, b)
                  match value with
                  | .error e => .error e
                  | .ok (v, sc, b) => flowMapping fuel startMark false ((k, v) :: acc) sc b
          | _ =>
            match parseNode fuel false false sc b with
            | .error e => .error e
            | .ok (k, sc, b) =>
              match sc.peek with
              | .error e => .error e
              | .ok (t3, sc) =>
                let (b, v) := emptyAt b "" none t3.start
                flowMapping fuel startMark false ((k, v) :: acc) sc b

end

/-- The directives before a document: at most one `%YAML` directive, which must name version
1.1, and `%TAG` handles, each declared once. Returns the handles of the document, the declared
ones first. -/
def directives : Nat → Scanner → Bool → List (String × String) →
    Except ReadIssue (List (String × String) × Scanner)
  | 0, sc, _, handles => .ok (handles, sc)
  | fuel + 1, sc, versioned, handles =>
    match sc.peek with
    | .error e => .error e
    | .ok (t, sc) =>
      match t.kind with
      | .versionDirective major minor =>
        if versioned then .error (parseProblem "found duplicate %YAML directive" t.start)
        else if major ≠ 1 || minor ≠ 1 then .error (parseProblem "found incompatible YAML document" t.start)
        else directives fuel sc.next true handles
      | .tagDirective handle pre =>
        if (handles.lookup handle).isSome then .error (parseProblem "found duplicate %TAG directive" t.start)
        else directives fuel sc.next versioned (handles ++ [(handle, pre)])
      | _ =>
        .ok (handles ++ defaultHandles.filter (fun d => (handles.lookup d.1).isNone), sc)

def readerInput (text : String) : List Char × List Nat × Bool :=
  let cs := text.toList
  let (cs, offset) := match cs with
    | c :: rest => if c = byteOrderMark then (rest, 3) else (cs, 0)
    | [] => ([], 0)
  let (chunks, blocked, visible) := chunkText cs offset 512 0 [] [] []
  (visible, chunks, blocked)

/-- The first document of a YAML text, or nothing when the stream holds no document. -/
def readDocument (text : String) : Except ReadIssue (Option Document) :=
  let (cs, chunks, blocked) := readerInput text
  let fuel := 4 * cs.length + 64
  let empty : Builder := ⟨#[], [], defaultHandles⟩
  match (Scanner.init cs chunks blocked).peek with
  | .error e => .error e
  | .ok (_, sc) =>
    match sc.next.peek with
    | .error e => .error e
    | .ok (t, sc) =>
      let content := fun (sc : Scanner) (b : Builder) =>
        match sc.peek with
        | .error e => .error e
        | .ok (t2, sc) =>
          if t2.kind.isOneOf [.documentStart, .documentEnd, .streamEnd] ||
              (match t2.kind with
                | .versionDirective _ _ | .tagDirective _ _ => true
                | _ => false) then
            let (b, i) := emptyAt b "" none t2.start
            .ok (some (i, sc, b))
          else
            match parseNode fuel true false sc b with
            | .ok (i, sc, b) => .ok (some (i, sc, b))
            | .error e => .error e
      let root : Except ReadIssue (Option (Nat × Scanner × Builder)) :=
        match t.kind with
        | .streamEnd => .ok none
        | .documentStart => content sc.next empty
        | .versionDirective _ _ | .tagDirective _ _ =>
          match directives fuel sc false [] with
          | .error e => .error e
          | .ok (handles, sc) =>
            match sc.peek with
            | .error e => .error e
            | .ok (t2, sc) =>
              if t2.kind = .documentStart then content sc.next { empty with handles }
              else .error (parseProblem "did not find expected <document start>" t2.start)
        | _ =>
          match parseNode fuel true false sc empty with
          | .ok (i, sc, b) => .ok (some (i, sc, b))
          | .error e => .error e
      match root with
      | .error e => .error e
      | .ok none => .ok none
      | .ok (some (i, sc, b)) =>
        match sc.peek with
        | .ok _ => .ok (some ⟨b.nodes, i⟩)
        | .error e => .error e

end Yaml
end Settings
end Circuitry
