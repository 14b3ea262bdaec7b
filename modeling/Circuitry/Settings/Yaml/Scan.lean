import Circuitry.Text.Utf8

/-!
# Scanning YAML into tokens

A YAML text is read as a stream of tokens: stream and document markers, directives, the starts
and ends of block and flow collections, entry, key and value indicators, anchors, aliases, tags
and scalars. The scanner works one token at a time and keeps what the layout of the text implies:

* the indentation stack: a key or a `-` entry further right than the current indentation
  opens a block collection, and a line further left closes the open ones;
* the simple-key candidate of each flow level: a scalar, quoted scalar or collection start
  that may turn out to be a key. When `:` follows it on the same line, a `KEY` token (and,
  at a new indentation, a block mapping start) is put back in front of it. A candidate at the
  indentation column of a block mapping must be a key: if its line ends first, reading fails
  with "could not find expected ':'".

Tokens are taken from the front as the reader asks for them; before answering, the scanner
keeps at least three tokens ready and never hands out a token that may still become a key.
A fault records the mark (line and column, from zero) of where it was found and of the
construct around it, as the messages report them.

The characters come from a reader that decodes the text in chunks of 512 bytes, each decoded
when the scanner asks for more characters than are decoded ahead of it; a chunk that holds a
character outside the allowed set is a fault at the moment it is decoded, so such a character
far after the first document goes unseen. A byte order mark at the very start is dropped. At
the start of a line a character is skipped as a byte order mark when the reader's window, the
text from where the reader last refilled, starts with one: the skipped character is whatever
stands at the start of the line.
-/

namespace Circuitry
namespace Settings
namespace Yaml

/-- A place in the text: the character index, the line and the column, all from zero. -/
structure Mark where
  index : Nat
  line : Nat
  column : Nat
deriving DecidableEq, Repr, Inhabited

/-- How a scalar was written. -/
inductive ScalarStyle
  | plain
  | single
  | double
  | literal
  | folded
deriving DecidableEq, Repr, Inhabited

/-- The kinds of tokens. -/
inductive TokenKind
  | streamStart
  | streamEnd
  | versionDirective (major minor : Nat)
  | tagDirective (handle pre : String)
  | documentStart
  | documentEnd
  | blockSequenceStart
  | blockMappingStart
  | blockEnd
  | flowSequenceStart
  | flowSequenceEnd
  | flowMappingStart
  | flowMappingEnd
  | blockEntry
  | flowEntry
  | key
  | value
  | alias (name : String)
  | anchor (name : String)
  | tag (handle suffix : String)
  | scalar (text : String) (style : ScalarStyle)
deriving DecidableEq, Repr, Inhabited

/-- A token with the marks where it starts and stops. -/
structure Token where
  kind : TokenKind
  start : Mark
  stop : Mark
deriving Repr, Inhabited

/-- Which stage found a fault: the character check, the scanner or the parser. -/
inductive Stage
  | reader
  | scanner
  | parser
deriving DecidableEq, Repr

/-- Why a YAML text could not be read: a fault at a mark, inside a construct that started at
another mark, or a fault with a message of its own. -/
inductive ReadIssue
  | located (stage : Stage) (context : String) (contextMark : Mark) (problem : String)
      (problemMark : Mark)
  | plain (message : String)
deriving Repr

def ReadIssue.line : ReadIssue → Nat
  | .located stage _ contextMark _ problemMark =>
    let bump := if stage = .scanner then 1 else 0
    if contextMark.line ≠ 0 then contextMark.line + bump
    else if problemMark.line ≠ 0 then problemMark.line + bump
    else 0
  | .plain _ => 0

/-- The message of a fault. -/
def ReadIssue.message : ReadIssue → String
  | .located stage context contextMark problem problemMark =>
    let n := (ReadIssue.located stage context contextMark problem problemMark).line
    "yaml: " ++ (if n ≠ 0 then "line " ++ toString n ++ ": " else "") ++ problem
  | .plain message => "yaml: " ++ message

def controlFault : ReadIssue :=
  .located .reader "" ⟨0, 0, 0⟩ "control characters are not allowed" ⟨0, 0, 0⟩

def byteOrderMark : Char := Char.ofNat 0xFEFF

def isBreak (c : Char) : Bool :=
  c = '\r' || c = '\n' || c.toNat = 0x85 || c.toNat = 0x2028 || c.toNat = 0x2029

def isBlank (c : Char) : Bool := c = ' ' || c = '\t'

def blankzAt : List Char → Bool
  | [] => true
  | c :: _ => isBlank c || isBreak c

def breakzAt : List Char → Bool
  | [] => true
  | c :: _ => isBreak c

def isNameChar (c : Char) : Bool := c.isAlphanum || c = '_' || c = '-'

def isYamlPrintable (c : Char) : Bool :=
  let v := c.toNat
  v = 9 || v = 10 || v = 13 || (0x20 ≤ v && v ≤ 0x7E) || v = 0x85 || (0xA0 ≤ v && v ≤ 0xD7FF) ||
    (0xE000 ≤ v && v ≤ 0xFFFD) || (0x10000 ≤ v && v ≤ 0x10FFFF)

def documentMarker : List Char → Bool
  | '-' :: '-' :: '-' :: rest => blankzAt rest
  | '.' :: '.' :: '.' :: rest => blankzAt rest
  | _ => false

/-- How the reader splits the characters of a text into chunks, each the characters completed
by one read of at most 512 bytes (a character cut by the end of a read is completed by the
next read, which then reads fewer new bytes). Returns the character counts of the chunks that
decode, whether the chunk after them holds a character outside the allowed set, and the
characters of those chunks. A leading byte order mark takes its three bytes of the first read
but is not a character of it. -/
def chunkText : List Char → (offset readEnd count : Nat) → List Nat → List Char → List Char →
    List Nat × Bool × List Char
  | [], _, _, count, done, current, seen => ((count :: done).reverse, false, (current ++ seen).reverse)
  | c :: rest, offset, readEnd, count, done, current, seen =>
    let w := Text.Utf8.width c
    if offset + w ≤ readEnd then
      if isYamlPrintable c then chunkText rest (offset + w) readEnd (count + 1) done (c :: current) seen
      else (done.reverse, true, seen.reverse)
    else
      let readEnd := readEnd + 512 - (readEnd - offset)
      if isYamlPrintable c then
        chunkText rest (offset + w) readEnd 1 (count :: done) [c] (current ++ seen)
      else ((count :: done).reverse, true, (current ++ seen).reverse)

/-- A candidate simple key: whether it is still possible, whether it must be a key, the number
of its token in the whole stream, and where it starts. -/
structure SimpleKey where
  possible : Bool
  required : Bool
  tokenNumber : Nat
  mark : Mark
deriving Repr, Inhabited

/-- The scanner state: the characters not yet read and the mark of the first of them, the
tokens waiting and the number already handed out, the layout state, and the reader state (the
characters decoded ahead, the sizes of the chunks still to decode, whether a forbidden
character follows them, whether the reader's window starts with a byte order mark, and the
number of line breaks since the last character that is not blank). -/
structure Scanner where
  rest : List Char
  mark : Mark
  queue : List Token
  parsed : Nat
  started : Bool
  indent : Int
  indents : List Int
  flowLevel : Nat
  keyAllowed : Bool
  keys : List SimpleKey
  ahead : Nat
  chunks : List Nat
  blocked : Bool
  windowBom : Bool
  newlines : Nat

def Scanner.init (cs : List Char) (chunks : List Nat) (blocked : Bool) : Scanner :=
  ⟨cs, ⟨0, 0, 0⟩, [], 0, false, -1, [], 0, false, [], 0, chunks, blocked, false, 0⟩

def Scanner.fault (s : Scanner) (context : String) (contextMark : Mark) (problem : String) :
    ReadIssue :=
  .located .scanner context contextMark problem s.mark

def Scanner.fill (k : Nat) : List Nat → Scanner → Except ReadIssue Scanner
  | c :: cs, s =>
    let s := { s with ahead := s.ahead + c, chunks := cs }
    if k ≤ s.ahead then .ok s else Scanner.fill k cs s
  | [], s => if s.blocked then .error controlFault else .ok { s with ahead := s.ahead + 1 }

def Scanner.need (s : Scanner) (k : Nat) : Except ReadIssue Scanner :=
  if k ≤ s.ahead then .ok s
  else Scanner.fill k s.chunks { s with windowBom := s.rest.head? == some byteOrderMark }

def Scanner.skip (s : Scanner) : Scanner :=
  match s.rest with
  | [] => s
  | c :: rest =>
    { s with rest, mark := { s.mark with index := s.mark.index + 1, column := s.mark.column + 1 },
             ahead := s.ahead - 1, newlines := if isBlank c then s.newlines else 0 }

def Scanner.advance : Scanner → Nat → Scanner
  | s, 0 => s
  | s, n + 1 => Scanner.advance s.skip n

/-- Reads a line break: CR LF, CR, LF and NEL read as LF, a line or paragraph separator as
itself. Returns the text read (empty when there is no break) and the scanner after it. -/
def Scanner.readBreak (s : Scanner) : String × Scanner :=
  let next (n : Nat) (rest : List Char) : Scanner :=
    { s with rest, mark := ⟨s.mark.index + n, s.mark.line + 1, 0⟩, ahead := s.ahead - n,
             newlines := s.newlines + 1 }
  match s.rest with
  | '\r' :: '\n' :: rest => ("\n", next 2 rest)
  | c :: rest =>
    if c = '\r' || c = '\n' || c.toNat = 0x85 then ("\n", next 1 rest)
    else if c.toNat = 0x2028 || c.toNat = 0x2029 then (String.singleton c, next 1 rest)
    else ("", s)
  | [] => ("", s)

def Scanner.skipLine (s : Scanner) : Scanner := s.readBreak.2

/-- Skips characters while they satisfy `p`, asking for one more character after each. -/
def Scanner.skipWhile (p : Char → Bool) : Nat → Scanner → Except ReadIssue Scanner
  | 0, s => .ok s
  | fuel + 1, s =>
    match s.rest with
    | c :: _ =>
      if p c then
        match s.skip.need 1 with
        | .ok s => Scanner.skipWhile p fuel s
        | .error e => .error e
      else .ok s
    | [] => .ok s

/-- Reads characters while they satisfy `p`, asking for one more character after each;
returns them with the scanner after them. -/
def Scanner.readWhile (p : Char → Bool) : Nat → Scanner → List Char →
    Except ReadIssue (List Char × Scanner)
  | 0, s, acc => .ok (acc.reverse, s)
  | fuel + 1, s, acc =>
    match s.rest with
    | c :: _ =>
      if p c then
        match s.skip.need 1 with
        | .ok s => Scanner.readWhile p fuel s (c :: acc)
        | .error e => .error e
      else .ok (acc.reverse, s)
    | [] => .ok (acc.reverse, s)

/-- Consumes up to the comment that starts at index `seen` (blanks and line breaks before it)
and then the comment itself, up to the end of its line. -/
def Scanner.consumeComment (seen : Nat) : Nat → Scanner → Except ReadIssue Scanner
  | 0, s => .ok s
  | fuel + 1, s => do
    let s ← s.need 1
    match s.rest with
    | [] => .ok s
    | c :: _ =>
      if isBreak c then
        if s.mark.index ≥ seen then .ok s
        else
          let s ← s.need 2
          Scanner.consumeComment seen fuel s.skipLine
      else Scanner.consumeComment seen fuel s.skip

/-- Looks ahead after a comment, through blanks, line breaks and further comment lines (each
consumed when found), up to 512 characters from where it stands. -/
def Scanner.commentPeek (i : Nat) : Nat → Scanner → Except ReadIssue Scanner
  | 0, s => .ok s
  | fuel + 1, s =>
    if i ≥ 512 then .ok s
    else do
      let s ← s.need (i + 1)
      match s.rest[i]? with
      | none => .ok s
      | some c =>
        if isBlank c || isBreak c then Scanner.commentPeek (i + 1) fuel s
        else if s.flowLevel > 0 && (c = ']' || c = '\x7d') then .ok s
        else if c = '#' then
          let s ← Scanner.consumeComment (s.mark.index + i) (s.rest.length + 1) s
          Scanner.commentPeek 1 fuel s
        else .ok s

def Scanner.scanComments (s : Scanner) : Except ReadIssue Scanner := do
  let s ← Scanner.consumeComment s.mark.index (s.rest.length + 1) s
  Scanner.commentPeek 1 ((s.rest.length + 1) * 600) s

/-- Looks through the blanks after a token, on its line, for a comment, and consumes the
comment when there is one; nothing is looked at after a line break. -/
def Scanner.linePeek (i : Nat) : Nat → Scanner → Except ReadIssue Scanner
  | 0, s => .ok s
  | fuel + 1, s =>
    if i ≥ 512 then .ok s
    else do
      let s ← s.need (i + 1)
      match s.rest[i]? with
      | some c =>
        if isBlank c then Scanner.linePeek (i + 1) fuel s
        else if c = '#' then Scanner.consumeComment (s.mark.index + i) (s.rest.length + 1) s
        else .ok s
      | none => .ok s

def Scanner.lineComment (s : Scanner) : Except ReadIssue Scanner :=
  if s.newlines > 0 then .ok s else Scanner.linePeek 0 513 s

/-- The scanner with a token added at the end of its queue. -/
def Scanner.push (s : Scanner) (kind : TokenKind) (start stop : Mark) : Scanner :=
  { s with queue := s.queue ++ [⟨kind, start, stop⟩] }

def insertAt {α : Type} (i : Nat) (x : α) (xs : List α) : List α := xs.take i ++ x :: xs.drop i

def Scanner.removeKey (s : Scanner) : Except ReadIssue Scanner :=
  match s.keys with
  | k :: ks =>
    if k.possible then
      if k.required then .error (s.fault "while scanning a simple key" k.mark "could not find expected ':'")
      else .ok { s with keys := { k with possible := false } :: ks }
    else .ok s
  | [] => .ok s

def Scanner.saveKey (s : Scanner) : Except ReadIssue Scanner :=
  if s.keyAllowed then
    let key : SimpleKey :=
      ⟨true, s.flowLevel == 0 && s.indent == (s.mark.column : Int), s.parsed + s.queue.length, s.mark⟩
    match s.removeKey with
    | .ok s => .ok { s with keys := key :: s.keys.drop 1 }
    | .error e => .error e
  else .ok s

def Scanner.checkKey (s : Scanner) (k : SimpleKey) : Except ReadIssue (Bool × SimpleKey) :=
  if !k.possible then .ok (false, k)
  else if k.mark.line < s.mark.line || k.mark.index + 1024 < s.mark.index then
    if k.required then .error (s.fault "while scanning a simple key" k.mark "could not find expected ':'")
    else .ok (false, { k with possible := false })
  else .ok (true, k)

def maxDepth : Nat := 10000

/-- Opens a block collection at `column` when it is right of the current indentation: the
start token goes at the end of the queue, or in front of token `number`. -/
def Scanner.rollIndent (s : Scanner) (column : Int) (number : Option Nat) (kind : TokenKind)
    (mark : Mark) : Except ReadIssue Scanner :=
  if s.flowLevel > 0 then .ok s
  else if s.indent < column then
    let t : Token := ⟨kind, mark, mark⟩
    let s := { s with indents := s.indent :: s.indents, indent := column,
                      queue := match number with
                        | some n => insertAt (n - s.parsed) t s.queue
                        | none => s.queue ++ [t] }
    if s.indents.length > maxDepth then
      .error (s.fault "while increasing indent level" (s.keys.headD default).mark
        ("exceeded max depth of " ++ toString maxDepth))
    else .ok s
  else .ok s

def unrollLevels (column : Int) (mark : Mark) :
    Int → List Int → List Token → Int × List Int × List Token
  | indent, i :: rest, acc =>
    if indent > column then unrollLevels column mark i rest (acc ++ [⟨.blockEnd, mark, mark⟩])
    else (indent, i :: rest, acc)
  | indent, [], acc => (indent, [], acc)

def Scanner.unrollIndent (s : Scanner) (column : Int) (mark : Mark) : Scanner :=
  if s.flowLevel > 0 then s
  else
    let (indent, indents, queue) := unrollLevels column mark s.indent s.indents s.queue
    { s with indent, indents, queue }

/-- Skips white space, comments and line breaks up to the next token. Tabs are skipped only
in flow context or where no simple key may start; a line break in block context allows a
simple key again. At the start of a line one character is skipped when the reader's window
starts with a byte order mark. -/
def Scanner.toNextToken : Nat → Scanner → Except ReadIssue Scanner
  | 0, s => .ok s
  | fuel + 1, s => do
    let s ← s.need 1
    let s := if s.mark.column = 0 && s.windowBom then s.skip else s
    let s ← s.need 1
    let tabs := s.flowLevel > 0 || !s.keyAllowed
    let s ← s.skipWhile (fun c => c = ' ' || (tabs && c = '\t')) (s.rest.length + 1)
    let s ← if s.rest.head? = some '#' then s.scanComments else pure s
    match s.rest with
    | c :: _ =>
      if isBreak c then
        let s ← s.need 2
        let s := s.skipLine
        Scanner.toNextToken fuel (if s.flowLevel = 0 then { s with keyAllowed := true } else s)
      else .ok s
    | [] => .ok s

def Scanner.fetchStreamStart (s : Scanner) : Scanner :=
  { s with started := true, indent := -1, keyAllowed := true, keys := [⟨false, false, 0, s.mark⟩],
           queue := s.queue ++ [⟨.streamStart, s.mark, s.mark⟩] }

def Scanner.fetchStreamEnd (s : Scanner) : Except ReadIssue Scanner :=
  let s := if s.mark.column ≠ 0 then { s with mark := { s.mark with column := 0, line := s.mark.line + 1 } } else s
  let s := s.unrollIndent (-1) s.mark
  match s.removeKey with
  | .ok s => .ok ({ s with keyAllowed := false }.push .streamEnd s.mark s.mark)
  | .error e => .error e

def Scanner.fetchDocumentMarker (s : Scanner) (kind : TokenKind) : Except ReadIssue Scanner :=
  let s := s.unrollIndent (-1) s.mark
  match s.removeKey with
  | .ok s =>
    let start := s.mark
    let s := { s with keyAllowed := false }.advance 3
    .ok (s.push kind start s.mark)
  | .error e => .error e

/-- The blanks after a directive's value, an optional comment, and the line break that must
end the directive's line. -/
def Scanner.directiveEnd (s : Scanner) (start : Mark) : Except ReadIssue Scanner := do
  let s ← s.need 1
  let s ← s.skipWhile isBlank (s.rest.length + 1)
  let s ← if s.rest.head? = some '#' then s.skipWhile (fun c => !isBreak c) (s.rest.length + 1) else pure s
  if !breakzAt s.rest then
    .error (s.fault "while scanning a directive" start "did not find expected comment or line break")
  else
    match s.rest with
    | c :: _ => if isBreak c then do let s ← s.need 2; pure s.skipLine else pure s
    | [] => pure s

def Scanner.versionNumber (s : Scanner) (start : Mark) : Except ReadIssue (Nat × Scanner) := do
  let s ← s.need 1
  let (digits, s) ← s.readWhile Char.isDigit 3 []
  if digits.length > 2 then
    .error (s.fault "while scanning a %YAML directive" start "found extremely long version number")
  else if digits.isEmpty then
    .error (s.fault "while scanning a %YAML directive" start "did not find expected version number")
  else pure (digits.foldl (fun v c => v * 10 + (c.toNat - 48)) 0, s)

def Scanner.tagFault (s : Scanner) (directive : Bool) (start : Mark) (problem : String) : ReadIssue :=
  s.fault (if directive then "while parsing a %TAG directive" else "while parsing a tag") start problem

/-- A tag handle: `!`, then name characters, then a closing `!` when there is one. In a
directive the handle must be `!` or end with `!`. -/
def Scanner.tagHandle (s : Scanner) (directive : Bool) (start : Mark) :
    Except ReadIssue (String × Scanner) := do
  let s ← s.need 1
  if s.rest.head? ≠ some '!' then .error (s.tagFault directive start "did not find expected '!'")
  else
    let s ← s.skip.need 1
    let (word, s) ← s.readWhile isNameChar (s.rest.length + 1) []
    if s.rest.head? = some '!' then pure ("!" ++ String.ofList word ++ "!", s.skip)
    else if directive && !word.isEmpty then .error (s.tagFault directive start "did not find expected '!'")
    else pure ("!" ++ String.ofList word, s)

def isUriChar (c : Char) : Bool :=
  isNameChar c || ";/?:@&=+$,.!~*'()[]%".contains c

def hexValue (c : Char) : Option Nat :=
  if c.isDigit then some (c.toNat - 48)
  else if 'a' ≤ c && c ≤ 'f' then some (c.toNat - 87)
  else if 'A' ≤ c && c ≤ 'F' then some (c.toNat - 55)
  else none

def leadWidth (b : Nat) : Nat :=
  if b < 0x80 then 1 else if b / 32 = 6 then 2 else if b / 16 = 14 then 3 else if b / 8 = 30 then 4 else 0

/-- The bytes of one character written as `%XX` escapes in a tag: a lead byte and the
continuation bytes it calls for. -/
def Scanner.uriEscapes (directive : Bool) (start : Mark) : Nat → Nat → Scanner → List UInt8 →
    Except ReadIssue (List UInt8 × Scanner)
  | 0, _, s, acc => .ok (acc, s)
  | fuel + 1, left, s, acc => do
    let s ← s.need 3
    let octet : Option Nat := match s.rest with
      | '%' :: a :: b :: _ => (hexValue a).bind fun x => (hexValue b).map fun y => x * 16 + y
      | _ => none
    match octet with
    | none => .error (s.tagFault directive start "did not find URI escaped octet")
    | some v =>
      let first := left = 0
      if first && leadWidth v = 0 then
        .error (s.tagFault directive start "found an incorrect leading UTF-8 octet")
      else if !first && v / 64 ≠ 2 then
        .error (s.tagFault directive start "found an incorrect trailing UTF-8 octet")
      else
        let left := (if first then leadWidth v else left) - 1
        let acc := acc ++ [v.toUInt8]
        let s := s.advance 3
        if left = 0 then pure (acc, s) else Scanner.uriEscapes directive start fuel left s acc

/-- The characters of a tag URI, with `%XX` escapes decoded. `head` is a handle that turned out
to be the start of the tag (its `!` is not part of the text). -/
def Scanner.tagUri (directive : Bool) (head : String) (start : Mark) : Nat → Scanner →
    List UInt8 → Bool → Except ReadIssue (String × Scanner)
  | 0, s, acc, _ => .ok (String.ofList (Text.Utf8.decodeLossy acc.length acc), s)
  | fuel + 1, s, acc, found =>
    match s.rest with
    | c :: _ =>
      if isUriChar c then
        let step : Except ReadIssue (List UInt8 × Scanner) :=
          if c = '%' then Scanner.uriEscapes directive start 4 0 s acc
          else .ok (acc ++ Text.Utf8.encode c, s.skip)
        match step with
        | .ok (acc, s) =>
          match s.need 1 with
          | .ok s => Scanner.tagUri directive head start fuel s acc true
          | .error e => .error e
        | .error e => .error e
      else if found then .ok (String.ofList (Text.Utf8.decodeLossy acc.length acc), s)
      else .error (s.tagFault directive start "did not find expected tag URI")
    | [] =>
      if found then .ok (String.ofList (Text.Utf8.decodeLossy acc.length acc), s)
      else .error (s.tagFault directive start "did not find expected tag URI")

def Scanner.readTagUri (s : Scanner) (directive : Bool) (head : String) (start : Mark) :
    Except ReadIssue (String × Scanner) := do
  let s ← s.need 1
  let headBytes := (head.toList.drop 1).flatMap Text.Utf8.encode
  Scanner.tagUri directive head start (s.rest.length + 1) s headBytes (!head.isEmpty)

/-- A directive after `%` at the start of a line: `%YAML major.minor` or `%TAG handle prefix`;
any other name is a fault. The rest of the line may hold only blanks and a comment. -/
def Scanner.fetchDirective (s : Scanner) : Except ReadIssue Scanner := do
  let s := s.unrollIndent (-1) s.mark
  let s ← s.removeKey
  let s := { s with keyAllowed := false }
  let start := s.mark
  let s ← s.skip.need 1
  let (name, s) ← s.readWhile isNameChar (s.rest.length + 1) []
  if name.isEmpty then
    .error (s.fault "while scanning a directive" start "could not find expected directive name")
  else if !blankzAt s.rest then
    .error (s.fault "while scanning a directive" start "found unexpected non-alphabetical character")
  else if name = "YAML".toList then
    let s ← s.need 1
    let s ← s.skipWhile isBlank (s.rest.length + 1)
    let (major, s) ← s.versionNumber start
    if s.rest.head? ≠ some '.' then
      .error (s.fault "while scanning a %YAML directive" start "did not find expected digit or '.' character")
    else
      let (minor, s) ← s.skip.versionNumber start
      let stop := s.mark
      let s ← s.directiveEnd start
      pure (s.push (.versionDirective major minor) start stop)
  else if name = "TAG".toList then
    let s ← s.need 1
    let s ← s.skipWhile isBlank (s.rest.length + 1)
    let (handle, s) ← s.tagHandle true start
    let s ← s.need 1
    if !((s.rest.head?.map isBlank).getD false) then
      .error (s.fault "while scanning a %TAG directive" start "did not find expected whitespace")
    else
      let s ← s.skipWhile isBlank (s.rest.length + 1)
      let (pre, s) ← s.readTagUri true "" start
      let s ← s.need 1
      if !blankzAt s.rest then
        .error (s.fault "while scanning a %TAG directive" start "did not find expected whitespace or line break")
      else
        let stop := s.mark
        let s ← s.directiveEnd start
        pure (s.push (.tagDirective handle pre) start stop)
  else .error (s.fault "while scanning a directive" start "found unknown directive name")

/-- `[` or an opening brace: it may start a simple key, and opens a flow level. -/
def Scanner.fetchFlowStart (s : Scanner) (kind : TokenKind) : Except ReadIssue Scanner :=
  match s.saveKey with
  | .ok s =>
    let s := { s with keys := ⟨false, false, 0, s.mark⟩ :: s.keys, flowLevel := s.flowLevel + 1,
                      keyAllowed := true }
    if s.flowLevel > maxDepth then
      .error (s.fault "while increasing flow level" s.mark ("exceeded max depth of " ++ toString maxDepth))
    else
      let start := s.mark
      let s := s.skip
      .ok (s.push kind start s.mark)
  | .error e => .error e

def Scanner.fetchFlowEnd (s : Scanner) (kind : TokenKind) : Except ReadIssue Scanner :=
  match s.removeKey with
  | .ok s =>
    let s := if s.flowLevel > 0 then { s with flowLevel := s.flowLevel - 1, keys := s.keys.drop 1 } else s
    let s := { s with keyAllowed := false }
    let start := s.mark
    let s := s.skip
    .ok (s.push kind start s.mark)
  | .error e => .error e

def Scanner.fetchFlowEntry (s : Scanner) : Except ReadIssue Scanner :=
  match s.removeKey with
  | .ok s =>
    let s := { s with keyAllowed := true }
    let start := s.mark
    let s := s.skip
    .ok (s.push .flowEntry start s.mark)
  | .error e => .error e

/-- `-` before a block sequence entry. -/
def Scanner.fetchBlockEntry (s : Scanner) : Except ReadIssue Scanner := do
  let s ←
    if s.flowLevel = 0 then
      if !s.keyAllowed then
        .error (s.fault "" s.mark "block sequence entries are not allowed in this context")
      else s.rollIndent s.mark.column none .blockSequenceStart s.mark
    else pure s
  let s ← s.removeKey
  let s := { s with keyAllowed := true }
  let start := s.mark
  let s := s.skip
  pure (s.push .blockEntry start s.mark)

/-- `?` before a complex key. -/
def Scanner.fetchKey (s : Scanner) : Except ReadIssue Scanner := do
  let s ←
    if s.flowLevel = 0 then
      if !s.keyAllowed then .error (s.fault "" s.mark "mapping keys are not allowed in this context")
      else s.rollIndent s.mark.column none .blockMappingStart s.mark
    else pure s
  let s ← s.removeKey
  let s := { s with keyAllowed := s.flowLevel == 0 }
  let start := s.mark
  let s := s.skip
  pure (s.push .key start s.mark)

/-- `:` before a value. When the candidate of this flow level can still be a key, a `KEY`
token is put in front of it (and a block mapping start at a new indentation); otherwise the
value follows a complex key, which in block context needs a place where a key may start. -/
def Scanner.fetchValue (s : Scanner) : Except ReadIssue Scanner := do
  let top := s.keys.headD default
  let s ←
    match s.checkKey top with
    | .error e => .error e
    | .ok (true, k) => do
      let s := { s with queue := insertAt (k.tokenNumber - s.parsed) ⟨.key, k.mark, k.mark⟩ s.queue }
      let s ← s.rollIndent k.mark.column (some k.tokenNumber) .blockMappingStart k.mark
      pure { s with keys := { k with possible := false } :: s.keys.drop 1, keyAllowed := false }
    | .ok (false, k) => do
      let s := { s with keys := k :: s.keys.drop 1 }
      if s.flowLevel = 0 then
        if !s.keyAllowed then .error (s.fault "" s.mark "mapping values are not allowed in this context")
        else
          let s ← s.rollIndent s.mark.column none .blockMappingStart s.mark
          pure { s with keyAllowed := true }
      else pure { s with keyAllowed := false }
  let start := s.mark
  let s := s.skip
  pure (s.push .value start s.mark)

def afterName (c : Char) : Bool := "?:,]%@`".contains c || c = '\x7d'

/-- An anchor `&name` or an alias `*name`. -/
def Scanner.fetchAnchor (isAlias : Bool) (s : Scanner) : Except ReadIssue Scanner := do
  let s ← s.saveKey
  let s := { s with keyAllowed := false }
  let start := s.mark
  let s ← s.skip.need 1
  let (name, s) ← s.readWhile isNameChar (s.rest.length + 1) []
  let fits := !name.isEmpty && (blankzAt s.rest || (s.rest.head?.map afterName).getD false)
  if !fits then
    .error (s.fault (if isAlias then "while scanning an alias" else "while scanning an anchor") start
      "did not find expected alphabetic or numeric character")
  else
    let kind := if isAlias then TokenKind.alias (String.ofList name) else .anchor (String.ofList name)
    pure (s.push kind start s.mark)

/-- A tag: `!<uri>`, `!!suffix`, `!handle!suffix`, `!suffix` or `!` alone. It must be followed
by a blank, a line break, or in flow context a comma. -/
def Scanner.fetchTag (s : Scanner) : Except ReadIssue Scanner := do
  let s ← s.saveKey
  let s := { s with keyAllowed := false }
  let start := s.mark
  let s ← s.need 2
  let (handle, suffix, s) ←
    match s.rest with
    | '!' :: '<' :: _ => do
      let (uri, s) ← (s.advance 2).readTagUri false "" start
      if s.rest.head? ≠ some '>' then
        .error (s.fault "while scanning a tag" start "did not find the expected '>'")
      else pure ("", uri, s.skip)
    | _ => do
      let (handle, s) ← s.tagHandle false start
      if handle.length > 1 && handle.endsWith "!" then
        let (suffix, s) ← s.readTagUri false "" start
        pure (handle, suffix, s)
      else
        let (suffix, s) ← s.readTagUri false handle start
        if suffix.isEmpty then pure ("", "!", s) else pure ("!", suffix, s)
  let s ← s.need 1
  if blankzAt s.rest || (s.flowLevel > 0 && s.rest.head? = some ',') then
    pure (s.push (.tag handle suffix) start s.mark)
  else .error (s.fault "while scanning a tag" start "did not find expected whitespace or line break")

/-- Text gathered while scanning a multi-line scalar: the text so far, the first line break
of a run of breaks, the later breaks, pending white space, and whether the run of blanks
started with a line break. -/
structure Folding where
  text : String
  leadingBreak : String
  trailingBreaks : String
  whitespaces : String
  leadingBlanks : Bool

def Folding.empty : Folding := ⟨"", "", "", "", false⟩

def Folding.join (f : Folding) : Folding :=
  if f.leadingBlanks then
    let text :=
      if f.leadingBreak.startsWith "\n" then
        (if f.trailingBreaks.isEmpty then f.text.push ' ' else f.text ++ f.trailingBreaks)
      else f.text ++ f.leadingBreak ++ f.trailingBreaks
    { f with text, leadingBreak := "", trailingBreaks := "", leadingBlanks := false }
  else { f with text := f.text ++ f.whitespaces, whitespaces := "" }

def plainStops (flow : Bool) : List Char → Bool
  | ':' :: rest => blankzAt rest
  | c :: _ => flow && (c = ',' || c = '?' || c = '[' || c = ']' || c = '\x7b' || c = '\x7d')
  | [] => true

/-- The non-blank characters of a plain scalar line, up to a stop; returns the mark after
the last character read. -/
def plainWord : Nat → Bool → Scanner → Folding → Mark → Except ReadIssue (Scanner × Folding × Mark)
  | 0, _, s, f, e => .ok (s, f, e)
  | fuel + 1, flow, s, f, e =>
    match s.rest with
    | c :: _ =>
      if blankzAt s.rest || plainStops flow s.rest then .ok (s, f, e)
      else
        let f := if f.leadingBlanks || !f.whitespaces.isEmpty then f.join else f
        let s := s.skip
        match s.need 2 with
        | .ok s2 => plainWord fuel flow s2 { f with text := f.text.push c } s.mark
        | .error err => .error err
    | [] => .ok (s, f, e)

/-- The blanks and line breaks after a plain scalar line. A tab in the indentation of a
continuation line is a fault. -/
def plainBlanks : Nat → Int → Mark → Scanner → Folding → Except ReadIssue (Scanner × Folding)
  | 0, _, _, s, f => .ok (s, f)
  | fuel + 1, indent, start, s, f =>
    match s.rest with
    | c :: _ =>
      if isBlank c then
        if f.leadingBlanks && (s.mark.column : Int) < indent && c = '\t' then
          .error (s.fault "while scanning a plain scalar" start "found a tab character that violates indentation")
        else
          let f := if !f.leadingBlanks then { f with whitespaces := f.whitespaces.push c } else f
          match s.skip.need 1 with
          | .ok s => plainBlanks fuel indent start s f
          | .error e => .error e
      else if isBreak c then
        match s.need 2 with
        | .error e => .error e
        | .ok s =>
          let (b, s) := s.readBreak
          let f := if !f.leadingBlanks then { f with whitespaces := "", leadingBreak := b, leadingBlanks := true }
            else { f with trailingBreaks := f.trailingBreaks ++ b }
          match s.need 1 with
          | .ok s => plainBlanks fuel indent start s f
          | .error e => .error e
      else .ok (s, f)
    | [] => .ok (s, f)

/-- The lines of a plain scalar: it ends before a document marker, a comment, a stop, or (in
block context) a line indented no further than the current collection. -/
def plainLines : Nat → Int → Mark → Scanner → Folding → Mark →
    Except ReadIssue (Scanner × Folding × Mark)
  | 0, _, _, s, f, e => .ok (s, f, e)
  | fuel + 1, indent, start, s, f, e => do
    let s ← s.need 4
    if s.mark.column = 0 && documentMarker s.rest then .ok (s, f, e)
    else if s.rest.head? = some '#' then .ok (s, f, e)
    else
      let (s, f, e) ← plainWord (s.rest.length + 1) (s.flowLevel > 0) s f e
      match s.rest with
      | c :: _ =>
        if isBlank c || isBreak c then
          let s ← s.need 1
          let (s, f) ← plainBlanks (s.rest.length + 1) indent start s f
          if s.flowLevel = 0 && (s.mark.column : Int) < indent then .ok (s, f, e)
          else plainLines fuel indent start s f e
        else .ok (s, f, e)
      | [] => .ok (s, f, e)

def Scanner.fetchPlain (s : Scanner) : Except ReadIssue Scanner := do
  let s ← s.saveKey
  let s := { s with keyAllowed := false }
  let start := s.mark
  let (s, f, e) ← plainLines (s.rest.length + 2) (s.indent + 1) start s Folding.empty start
  let s := s.push (.scalar f.text .plain) start e
  pure (if f.leadingBlanks then { s with keyAllowed := true } else s)

/-- The character of a one-letter escape in a double-quoted scalar. -/
def simpleEscape : Char → Option Char
  | '0' => some (Char.ofNat 0)
  | 'a' => some (Char.ofNat 7)
  | 'b' => some (Char.ofNat 8)
  | 't' => some '\t'
  | '\t' => some '\t'
  | 'n' => some '\n'
  | 'v' => some (Char.ofNat 11)
  | 'f' => some (Char.ofNat 12)
  | 'r' => some '\r'
  | 'e' => some (Char.ofNat 27)
  | ' ' => some ' '
  | '"' => some '"'
  | '\'' => some '\''
  | '\\' => some '\\'
  | 'N' => some (Char.ofNat 0x85)
  | '_' => some (Char.ofNat 0xA0)
  | 'L' => some (Char.ofNat 0x2028)
  | 'P' => some (Char.ofNat 0x2029)
  | _ => none

def hexDigitsValue (cs : List Char) : Option Nat :=
  cs.foldl (fun acc c => acc.bind fun v => (hexValue c).map fun d => v * 16 + d) (some 0)

/-- The non-blank characters of a quoted scalar line, up to the closing quote or a blank. A
backslash before a line break joins the next line. -/
def quotedWord : Nat → Bool → Mark → Scanner → Folding → Except ReadIssue (Scanner × Folding)
  | 0, _, _, s, f => .ok (s, f)
  | fuel + 1, single, start, s, f =>
    if blankzAt s.rest then .ok (s, f)
    else
      match s.rest with
      | [] => .ok (s, f)
      | c :: rest =>
        if single && c = '\'' && rest.head? = some '\'' then
          match (s.advance 2).need 2 with
          | .ok s => quotedWord fuel single start s { f with text := f.text.push '\'' }
          | .error e => .error e
        else if single && c = '\'' then .ok (s, f)
        else if !single && c = '"' then .ok (s, f)
        else if !single && c = '\\' && (rest.head?.map isBreak).getD false then
          match s.need 3 with
          | .ok s => .ok (s.skip.skipLine, { f with leadingBlanks := true })
          | .error e => .error e
        else if !single && c = '\\' then
          let b := rest.headD (Char.ofNat 0)
          match simpleEscape b with
          | some e =>
            match (s.advance 2).need 2 with
            | .ok s => quotedWord fuel single start s { f with text := f.text.push e }
            | .error err => .error err
          | none =>
            let width := if b = 'x' then 2 else if b = 'u' then 4 else if b = 'U' then 8 else 0
            if width = 0 then
              .error (s.fault "while parsing a quoted scalar" start "found unknown escape character")
            else
              match (s.advance 2).need width with
              | .error e => .error e
              | .ok s =>
                let digits := s.rest.take width
                match (if digits.length = width then hexDigitsValue digits else none) with
                | none =>
                  .error (s.fault "while parsing a quoted scalar" start "did not find expected hexdecimal number")
                | some v =>
                  if (0xD800 ≤ v && v ≤ 0xDFFF) || v > 0x10FFFF then
                    .error (s.fault "while parsing a quoted scalar" start "found invalid Unicode character escape code")
                  else
                    match (s.advance width).need 2 with
                    | .ok s => quotedWord fuel single start s { f with text := f.text.push (Char.ofNat v) }
                    | .error e => .error e
        else
          match s.skip.need 2 with
          | .ok s => quotedWord fuel single start s { f with text := f.text.push c }
          | .error e => .error e

/-- The blanks and line breaks inside a quoted scalar. -/
def quotedBlanks : Nat → Scanner → Folding → Except ReadIssue (Scanner × Folding)
  | 0, s, f => .ok (s, f)
  | fuel + 1, s, f =>
    match s.rest with
    | c :: _ =>
      if isBlank c then
        let f := if !f.leadingBlanks then { f with whitespaces := f.whitespaces.push c } else f
        match s.skip.need 1 with
        | .ok s => quotedBlanks fuel s f
        | .error e => .error e
      else if isBreak c then
        match s.need 2 with
        | .error e => .error e
        | .ok s =>
          let (b, s) := s.readBreak
          let f := if !f.leadingBlanks then { f with whitespaces := "", leadingBreak := b, leadingBlanks := true }
            else { f with trailingBreaks := f.trailingBreaks ++ b }
          match s.need 1 with
          | .ok s => quotedBlanks fuel s f
          | .error e => .error e
      else .ok (s, f)
    | [] => .ok (s, f)

/-- The lines of a quoted scalar, up to its closing quote. A document marker or the end of
the text inside it is a fault. -/
def quotedLines : Nat → Bool → Mark → Scanner → Folding → Except ReadIssue (Scanner × Folding)
  | 0, _, _, s, f => .ok (s, f)
  | fuel + 1, single, start, s, f => do
    let s ← s.need 4
    if s.mark.column = 0 && documentMarker s.rest then
      .error (s.fault "while scanning a quoted scalar" start "found unexpected document indicator")
    else if s.rest.isEmpty then
      .error (s.fault "while scanning a quoted scalar" start "found unexpected end of stream")
    else
      let (s, f) ← quotedWord (s.rest.length + 1) single start s { f with leadingBlanks := false }
      let s ← s.need 1
      if s.rest.head? = some (if single then '\'' else '"') then .ok (s, f)
      else
        let (s, f) ← quotedBlanks (s.rest.length + 1) s f
        quotedLines fuel single start s f.join

def Scanner.fetchQuoted (single : Bool) (s : Scanner) : Except ReadIssue Scanner := do
  let s ← s.saveKey
  let s := { s with keyAllowed := false }
  let start := s.mark
  let (s, f) ← quotedLines (s.rest.length + 2) single start s.skip Folding.empty
  let s := s.skip
  pure (s.push (.scalar f.text (if single then .single else .double)) start s.mark)

/-- The indentation and empty lines before a line of a block scalar: spaces up to the
indentation (all of them while it is not yet known), the line breaks of empty lines, and the
largest indentation seen. A tab in the indentation is a fault. -/
def blockBreaks : Nat → Nat → Mark → Scanner → String → Nat → Mark →
    Except ReadIssue (Scanner × String × Nat × Mark)
  | 0, _, _, s, breaks, most, e => .ok (s, breaks, most, e)
  | fuel + 1, indent, start, s, breaks, most, e => do
    let s ← s.need 1
    let s ← s.skipWhile (fun c => c = ' ') (if indent = 0 then s.rest.length + 1 else indent - s.mark.column)
    let most := max most s.mark.column
    let room := indent = 0 || s.mark.column < indent
    if room && s.rest.head? = some '\t' then
      .error (s.fault "while scanning a block scalar" start "found a tab character where an indentation space is expected")
    else
      match s.rest with
      | c :: _ =>
        if isBreak c then
          let s ← s.need 2
          let (b, s) := s.readBreak
          blockBreaks fuel indent start s (breaks ++ b) most s.mark
        else .ok (s, breaks, most, e)
      | [] => .ok (s, breaks, most, e)

def blockIndent (s : Scanner) (most : Nat) : Nat :=
  max (max most (s.indent + 1).toNat) 1

/-- The lines of a block scalar at its indentation: literal lines keep their breaks; folded
lines are joined by a space where neither line starts with a blank. -/
def blockLines : Nat → Bool → Nat → Mark → Scanner → String → String → String → Bool → Mark →
    Except ReadIssue (Scanner × String × String × String × Mark)
  | 0, _, _, _, s, text, leading, trailing, _, e => .ok (s, text, leading, trailing, e)
  | fuel + 1, literal, indent, start, s, text, leading, trailing, leadingBlank, e => do
    if s.mark.column ≠ indent || s.rest.isEmpty then .ok (s, text, leading, trailing, e)
    else
      let trailingBlank := (s.rest.head?.map isBlank).getD false
      let text :=
        if !literal && !leadingBlank && !trailingBlank && leading.startsWith "\n" then
          (if trailing.isEmpty then text.push ' ' else text)
        else text ++ leading
      let text := text ++ trailing
      let leadingBlank := (s.rest.head?.map isBlank).getD false
      let (line, s) ← s.readWhile (fun c => !isBreak c) (s.rest.length + 1) []
      let text := text ++ String.ofList line
      let s ← s.need 2
      let (leading, s) := s.readBreak
      let (s, trailing, _, e) ← blockBreaks (s.rest.length + 1) indent start s "" 0 s.mark
      blockLines fuel literal indent start s text leading trailing leadingBlank e

/-- The chomping indicator of a block scalar: `-` strips the final breaks, `+` keeps them all,
and by default one is kept. -/
inductive Chomping
  | strip
  | clip
  | keep
deriving DecidableEq

def chompOf : Char → Option Chomping
  | '+' => some .keep
  | '-' => some .strip
  | _ => none

/-- The header of a block scalar after `|` or `>`: a chomping indicator and an indentation
digit (1 to 9) in either order. -/
def blockHeader (start : Mark) (s : Scanner) : Except ReadIssue (Chomping × Nat × Scanner) := do
  let s ← s.need 1
  let zero := fun (s : Scanner) => s.fault "while scanning a block scalar" start "found an indentation indicator equal to 0"
  match s.rest.head?.bind chompOf with
  | some ch =>
    let s ← s.skip.need 1
    match s.rest.head? with
    | some d =>
      if d.isDigit then
        if d = '0' then .error (zero s) else pure (ch, d.toNat - 48, s.skip)
      else pure (ch, 0, s)
    | none => pure (ch, 0, s)
  | none =>
    match s.rest.head? with
    | some c =>
      if c.isDigit then
        if c = '0' then .error (zero s)
        else
          let s ← s.skip.need 1
          match s.rest.head?.bind chompOf with
          | some ch => pure (ch, c.toNat - 48, s.skip)
          | none => pure (.clip, c.toNat - 48, s)
      else pure (.clip, 0, s)
    | none => pure (.clip, 0, s)

/-- A literal (`|`) or folded (`>`) block scalar. -/
def Scanner.fetchBlockScalar (literal : Bool) (s : Scanner) : Except ReadIssue Scanner := do
  let s ← s.removeKey
  let s := { s with keyAllowed := true }
  let start := s.mark
  let (chomping, increment, s) ← blockHeader start s.skip
  let s ← s.need 1
  let s ← s.skipWhile isBlank (s.rest.length + 1)
  let s ←
    if s.rest.head? = some '#' then do
      let s ← s.lineComment
      s.skipWhile (fun c => !isBreak c) (s.rest.length + 1)
    else pure s
  if !breakzAt s.rest then
    .error (s.fault "while scanning a block scalar" start "did not find expected comment or line break")
  else
    let s ←
      match s.rest with
      | c :: _ => if isBreak c then do let s ← s.need 2; pure s.skipLine else pure s
      | [] => pure s
    let fixed : Nat :=
      if increment > 0 then (if s.indent ≥ 0 then s.indent.toNat + increment else increment) else 0
    let (s, trailing, most, e) ← blockBreaks (s.rest.length + 1) fixed start s "" 0 s.mark
    let indent := if fixed = 0 then blockIndent s most else fixed
    let s ← s.need 1
    let (s, text, leading, trailing, e) ← blockLines (s.rest.length + 1) literal indent start s "" "" trailing false e
    let text := if chomping ≠ .strip then text ++ leading else text
    let text := if chomping = .keep then text ++ trailing else text
    pure (s.push (.scalar text (if literal then .literal else .folded)) start e)

def plainStart (flow : Bool) (c : Char) (next : List Char) : Bool :=
  let indicator := "-?:,[]#&*!|>\"%@`".contains c || c = '\'' || c = '\x7b' || c = '\x7d'
  !(blankzAt (c :: next) || indicator) ||
    (c = '-' && !((next.head?.map isBlank).getD false)) ||
    (!flow && (c = '?' || c = ':') && !blankzAt next)

/-- The token that starts with a character, after the markers and directives are ruled out. -/
def Scanner.fetchToken (s : Scanner) (c : Char) (next : List Char) : Except ReadIssue Scanner :=
  let flow := s.flowLevel > 0
  if c = '[' then s.fetchFlowStart .flowSequenceStart
  else if c = '\x7b' then s.fetchFlowStart .flowMappingStart
  else if c = ']' then s.fetchFlowEnd .flowSequenceEnd
  else if c = '\x7d' then s.fetchFlowEnd .flowMappingEnd
  else if c = ',' then s.fetchFlowEntry
  else if c = '-' && blankzAt next then s.fetchBlockEntry
  else if c = '?' && (flow || blankzAt next) then s.fetchKey
  else if c = ':' && (flow || blankzAt next) then s.fetchValue
  else if c = '*' then s.fetchAnchor true
  else if c = '&' then s.fetchAnchor false
  else if c = '!' then s.fetchTag
  else if c = '|' && !flow then s.fetchBlockScalar true
  else if c = '>' && !flow then s.fetchBlockScalar false
  else if c = '\'' then s.fetchQuoted true
  else if c = '"' then s.fetchQuoted false
  else if plainStart flow c next then s.fetchPlain
  else .error (s.fault "while scanning for the next token" s.mark "found character that cannot start any token")

/-- Scans the next token onto the queue. After a token other than a block entry, a comment on
its line is read with it. -/
def Scanner.fetchNext (s : Scanner) : Except ReadIssue Scanner := do
  let s ← s.need 1
  if !s.started then pure s.fetchStreamStart
  else
    let scanMark := s.mark
    let s ← s.toNextToken (s.rest.length + 1)
    let s := s.unrollIndent s.mark.column scanMark
    let s ← s.need 4
    match s.rest with
    | [] => s.fetchStreamEnd
    | c :: next =>
      if s.mark.column = 0 && c = '%' then s.fetchDirective
      else if s.mark.column = 0 && documentMarker s.rest then
        s.fetchDocumentMarker (if c = '-' then .documentStart else .documentEnd)
      else
        let s ← s.fetchToken c next
        if (s.queue.getLast?.map (·.kind)) = some .blockEntry then pure s else s.lineComment

/-- Scans until at least three tokens wait in the queue and the first of them can no longer
become a key. -/
def Scanner.fetchMore : Nat → Scanner → Except ReadIssue Scanner
  | 0, s => .ok s
  | fuel + 1, s =>
    let next := fun (s : Scanner) =>
      match s.fetchNext with
      | .ok s => fetchMore fuel s
      | .error e => .error e
    if s.queue.length ≥ 3 then
      match s.keys.findIdx? (fun k => k.possible && k.tokenNumber == s.parsed) with
      | none => .ok s
      | some i =>
        match s.checkKey (s.keys.getD i default) with
        | .error e => .error e
        | .ok (false, k) => .ok { s with keys := s.keys.set i k }
        | .ok (true, _) => next s
    else next s

def Scanner.peek (s : Scanner) : Except ReadIssue (Token × Scanner) :=
  match Scanner.fetchMore (2 * s.rest.length + 16) s with
  | .ok s =>
    match s.queue with
    | t :: _ => .ok (t, s)
    | [] => .ok (⟨.streamEnd, s.mark, s.mark⟩, s)
  | .error e => .error e

def Scanner.next (s : Scanner) : Scanner :=
  { s with queue := s.queue.drop 1, parsed := s.parsed + 1 }

end Yaml
end Settings
end Circuitry
