import Circuitry.Syntax.Fault
import Circuitry.Text.Utf8

/-!
# Scanning bytes into tokens

The source is a sequence of bytes. Blanks separate tokens, `;` starts a comment that runs
through the next line feed, a maximal run of letters (`A`-`Z`, `a`-`z`, `_`) or of digits is
one token, and each brace is one token. A maximal run of punctuation bytes (`[ ] = > : ,`)
splits into `=>`, `[`, `]`, `:` and `,` read from the left when the whole run is made of
them, and stays one token otherwise. Any other byte is a lexical fault.

The scan recurses on the bytes left over, which every step shortens.
-/

namespace Circuitry

/-- What a byte can start. -/
inductive ByteClass
  | blank
  | comment
  | letter
  | digit
  | brace
  | punctuation
  | stray
deriving DecidableEq, Repr

namespace ByteClass

def isLetter (b : UInt8) : Bool := (65 ≤ b && b ≤ 90) || (97 ≤ b && b ≤ 122) || b = 95

def isDigit (b : UInt8) : Bool := 48 ≤ b && b ≤ 57

def isBlank (b : UInt8) : Bool := b = 32 || (9 ≤ b && b ≤ 13)

def isBrace (b : UInt8) : Bool := b = 123 || b = 125

def isPunctuation (b : UInt8) : Bool :=
  b = 91 || b = 93 || b = 61 || b = 62 || b = 58 || b = 44

def isMark (b : UInt8) : Bool := b = 91 || b = 93 || b = 58 || b = 44

/-- The class of a byte. -/
def ofByte (b : UInt8) : ByteClass :=
  if b = 59 then .comment
  else if isBlank b then .blank
  else if isLetter b then .letter
  else if isDigit b then .digit
  else if isBrace b then .brace
  else if isPunctuation b then .punctuation
  else .stray

end ByteClass

/-- Where the scanner stands: the offset of the next byte, its line, and the offset of the
line feed that ended the previous line (`none` on the first line). -/
structure Cursor where
  offset : Nat
  line : Nat
  lineFeed : Option Nat
deriving DecidableEq, Repr

namespace Cursor

def start : Cursor := ⟨0, 1, none⟩

def column (c : Cursor) : Nat :=
  match c.lineFeed with
  | none => c.offset
  | some feed => c.offset - feed

def position (c : Cursor) : Position := ⟨c.offset, c.line, c.column⟩

def step (c : Cursor) (b : UInt8) : Cursor :=
  if b = 10 then ⟨c.offset + 1, c.line + 1, some c.offset⟩ else { c with offset := c.offset + 1 }

def advance (c : Cursor) (bytes : List UInt8) : Cursor := bytes.foldl step c

@[simp] theorem advance_nil (c : Cursor) : c.advance [] = c := rfl

@[simp] theorem advance_cons (c : Cursor) (b : UInt8) (bytes : List UInt8) :
    c.advance (b :: bytes) = (c.step b).advance bytes := rfl

end Cursor

def asciiText (bytes : List UInt8) : String :=
  String.ofList (bytes.map fun b => Char.ofNat b.toNat)

def punctuationPieces : List UInt8 → Option (List (List UInt8))
  | [] => some []
  | 61 :: 62 :: rest => (punctuationPieces rest).map ([61, 62] :: ·)
  | b :: rest =>
    if ByteClass.isMark b then (punctuationPieces rest).map ([b] :: ·) else none

def pieceTokens (c : Cursor) : List (List UInt8) → List Token
  | [] => []
  | piece :: more => ⟨.text, asciiText piece, c.position⟩ :: pieceTokens (c.advance piece) more

def punctuationTokens (c : Cursor) (run : List UInt8) : List Token :=
  match punctuationPieces run with
  | some pieces => pieceTokens c pieces
  | none => [⟨.text, asciiText run, c.position⟩]

theorem length_dropWhile_lt {p : UInt8 → Bool} {b : UInt8} {rest : List UInt8} :
    (rest.dropWhile p).length < (b :: rest).length := by
  have h : (rest.dropWhile p).length ≤ rest.length := (List.dropWhile_suffix p).length_le
  simp only [List.length_cons]
  omega

theorem length_drop_dropWhile_lt {p : UInt8 → Bool} {b : UInt8} {rest : List UInt8} :
    ((rest.dropWhile p).drop 1).length < (b :: rest).length := by
  have h : (rest.dropWhile p).length ≤ rest.length := (List.dropWhile_suffix p).length_le
  simp only [List.length_drop, List.length_cons]
  omega

/-- The tokens of `bytes`, scanned from cursor `c`, or the lexical fault at the first stray
byte. -/
def scanFrom (c : Cursor) (bytes : List UInt8) : Except LexicalFault (List Token) :=
  match bytes with
  | [] => .ok []
  | b :: rest =>
    match ByteClass.ofByte b with
    | .blank => scanFrom (c.step b) rest
    | .comment =>
      let body := rest.takeWhile (· != 10)
      let after := rest.dropWhile (· != 10)
      scanFrom (c.advance (b :: body ++ after.take 1)) (after.drop 1)
    | .letter =>
      let run := b :: rest.takeWhile ByteClass.isLetter
      (scanFrom (c.advance run) (rest.dropWhile ByteClass.isLetter)).map
        (⟨.text, asciiText run, c.position⟩ :: ·)
    | .digit =>
      let run := b :: rest.takeWhile ByteClass.isDigit
      (scanFrom (c.advance run) (rest.dropWhile ByteClass.isDigit)).map
        (⟨.text, asciiText run, c.position⟩ :: ·)
    | .brace =>
      (scanFrom (c.step b) rest).map (⟨.brace, asciiText [b], c.position⟩ :: ·)
    | .punctuation =>
      let run := b :: rest.takeWhile ByteClass.isPunctuation
      (scanFrom (c.advance run) (rest.dropWhile ByteClass.isPunctuation)).map
        (punctuationTokens c run ++ ·)
    | .stray => .error ⟨c.position, Text.Utf8.firstCode bytes⟩
termination_by bytes.length
decreasing_by
  · simp
  · exact length_drop_dropWhile_lt
  · exact length_dropWhile_lt
  · exact length_dropWhile_lt
  · simp
  · exact length_dropWhile_lt

/-- The tokens of a source, or the lexical fault at its first stray byte. Operator words are
not yet marked. -/
def scan (bytes : List UInt8) : Except LexicalFault (List Token) := scanFrom Cursor.start bytes

/-- The tokens of a source with every operator word marked as an operator. -/
def tokenize (bytes : List UInt8) : Except LexicalFault (List Token) :=
  (scan bytes).map Token.classifyAll

end Circuitry
