import Circuitry.Proofs.Token.Scanning

/-!
# The lexical structure of a source

What scanning a source is specified to do, stated over the whole byte string rather than one
step at a time.

A comment runs from a `;` met outside a comment through the next line feed, or to the end of
the source. A byte outside every comment is allowed when it is a blank (space, tab, line
feed, carriage return, vertical tab, form feed), a letter (`A`-`Z`, `a`-`z`, `_`), a digit, a
brace or a punctuation byte (`[ = > : , ]`); the first byte outside comments that is not
allowed is where scanning fails. The place of a byte is its index, its line (one more than the
line feeds before it) and its column (its index on the first line, its distance from the
preceding line feed on a later one).

A source splits into lexemes (`Segments`): blanks, comments, maximal runs of letters, of
digits and of punctuation bytes, and braces. Its tokens (`Lexed`) are, in order, one text token
for each run of letters or of digits, one brace token for each brace, and for each punctuation
run the pieces of its factorization over `=>`, `[`, `]`, `:` and `,`, or the whole run when it
has none; every token stands at the place of its first byte.
-/

namespace Circuitry

namespace Lexing

/-- For each byte, whether it lies in a comment; the flag says whether a comment is open
before the first byte. -/
def commentMask : Bool → List UInt8 → List Bool
  | _, [] => []
  | false, b :: rest => (b == 59) :: commentMask (b == 59) rest
  | true, b :: rest => true :: commentMask (b != 10) rest

/-- Byte `i` of `src` lies outside every comment and is not allowed there. -/
def StrayAt (src : List UInt8) (i : Nat) : Prop :=
  (commentMask false src)[i]? = some false ∧ ∃ b, src[i]? = some b ∧ ByteClass.isAllowed b = false

/-- Every byte outside comments is allowed. -/
def NoStray (src : List UInt8) : Prop := ∀ i, ¬StrayAt src i

/-- Byte `i` is the first byte outside comments that is not allowed. -/
def FirstStray (src : List UInt8) (i : Nat) : Prop := StrayAt src i ∧ ∀ j < i, ¬StrayAt src j

def lineAt (src : List UInt8) (i : Nat) : Nat := 1 + (src.take i).count 10

def columnAt (src : List UInt8) (i : Nat) : Nat :=
  if lineAt src i = 1 then i else ((src.take i).reverse.takeWhile (· != 10)).length + 1

def positionAt (src : List UInt8) (i : Nat) : Position := ⟨i, lineAt src i, columnAt src i⟩

example : positionAt [97, 10, 32, 98] 3 = ⟨3, 2, 2⟩ := by decide

/-! ### Lexemes -/

/-- The classes of bytes that run together into one lexeme. -/
inductive RunClass
  | letters
  | digits
  | punctuation
deriving DecidableEq, Repr

/-- Whether a byte belongs to a run of the class. -/
def RunClass.accepts : RunClass → UInt8 → Bool
  | .letters => ByteClass.isLetter
  | .digits => ByteClass.isDigit
  | .punctuation => ByteClass.isPunctuation

/-- A piece of a source as it is read: a blank, a comment (closed by a line feed or not), a
run of one class, or a brace. -/
inductive Lexeme
  | blank (b : UInt8)
  | comment (body : List UInt8) (closed : Bool)
  | run (cls : RunClass) (bytes : List UInt8)
  | brace (b : UInt8)
deriving DecidableEq, Repr

/-- The bytes of a lexeme. -/
def Lexeme.bytes : Lexeme → List UInt8
  | .blank b => [b]
  | .comment body closed => 59 :: body ++ if closed then [10] else []
  | .run _ bytes => bytes
  | .brace b => [b]

/-- The shape of each kind of lexeme: a comment's body holds no line feed, a run is one or
more bytes of its class. -/
def Lexeme.Shaped : Lexeme → Prop
  | .blank b => ByteClass.isBlank b = true
  | .comment body _ => 10 ∉ body
  | .run cls bytes => bytes ≠ [] ∧ ∀ b ∈ bytes, cls.accepts b = true
  | .brace b => ByteClass.isBrace b = true

/-- What may come after a lexeme: no byte of a run's class after the run, so that runs are
maximal, and nothing after a comment that no line feed closes. -/
def Lexeme.EndsBefore : Lexeme → List UInt8 → Prop
  | .run cls _, after => ∀ b ∈ after.head?, cls.accepts b = false
  | .comment _ false, after => after = []
  | _, _ => True

/-- `bytes` splits into the lexemes `ls`, and `after` comes after them. -/
inductive Segments : List UInt8 → List Lexeme → List UInt8 → Prop
  | nil (after : List UInt8) : Segments [] [] after
  | cons {l : Lexeme} {rest : List UInt8} {ls : List Lexeme} {after : List UInt8} :
      l.Shaped → l.EndsBefore (rest ++ after) → Segments rest ls after →
      Segments (l.bytes ++ rest) (l :: ls) after

/-! ### Tokens -/

/-- The bytes of the punctuation pieces `=>`, `[`, `]`, `:` and `,`. -/
def pieceBytes : List (List UInt8) := [[61, 62], [91], [93], [58], [44]]

/-- `pieces` factor `run` over the punctuation pieces. -/
def Factorization (run : List UInt8) (pieces : List (List UInt8)) : Prop :=
  pieces.flatten = run ∧ ∀ p ∈ pieces, p ∈ pieceBytes

def piecesAt (src : List UInt8) : Nat → List (List UInt8) → List Token
  | _, [] => []
  | o, p :: ps => ⟨.text, asciiText p, positionAt src o⟩ :: piecesAt src (o + p.length) ps

def LexemeTokens (src : List UInt8) (o : Nat) : Lexeme → List Token → Prop
  | .blank _, toks => toks = []
  | .comment _ _, toks => toks = []
  | .run .letters bytes, toks => toks = [⟨.text, asciiText bytes, positionAt src o⟩]
  | .run .digits bytes, toks => toks = [⟨.text, asciiText bytes, positionAt src o⟩]
  | .run .punctuation bytes, toks =>
    (∃ pieces, Factorization bytes pieces ∧ toks = piecesAt src o pieces) ∨
      ((∀ pieces, ¬Factorization bytes pieces) ∧ toks = [⟨.text, asciiText bytes, positionAt src o⟩])
  | .brace b, toks => toks = [⟨.brace, asciiText [b], positionAt src o⟩]

/-- The tokens of consecutive lexemes, the first starting at byte `o` of `src`. -/
inductive TokensFrom (src : List UInt8) : Nat → List Lexeme → List Token → Prop
  | nil (o : Nat) : TokensFrom src o [] []
  | cons {o : Nat} {l : Lexeme} {ls : List Lexeme} {ts more : List Token} :
      LexemeTokens src o l ts → TokensFrom src (o + l.bytes.length) ls more →
      TokensFrom src o (l :: ls) (ts ++ more)

/-- The tokens of a source: those of its lexemes, in order. -/
def Lexed (src : List UInt8) (toks : List Token) : Prop :=
  ∃ ls, Segments src ls [] ∧ TokensFrom src 0 ls toks

/-- The text of a token is the bytes of `src` at its offset. -/
def Slices (src : List UInt8) (t : Token) : Prop := t.value.toUTF8.toList <+: src.drop t.pos.offset.toNat

/-! ### Where stray bytes can be

Every byte of a lexeme other than a comment is allowed, and a lexeme is masked as a whole, so a
source split into lexemes has its strays, if any, only in what comes after them. -/

/-- Whether a lexeme is a comment. -/
def Lexeme.isComment : Lexeme → Bool
  | .comment _ _ => true
  | _ => false

theorem isAllowed_semicolon : ByteClass.isAllowed 59 = false := by decide

theorem Lexeme.allowed {l : Lexeme} (shaped : l.Shaped) (notComment : l.isComment = false) :
    ∀ b ∈ l.bytes, ByteClass.isAllowed b = true := by
  intro b mem
  cases l with
  | blank x =>
    obtain rfl : b = x := List.mem_singleton.1 mem
    simp [ByteClass.isAllowed, show ByteClass.isBlank b = true from shaped]
  | comment => cases notComment
  | run cls bytes =>
    have accepted := shaped.2 b mem
    cases cls <;> simp_all [RunClass.accepts, ByteClass.isAllowed]
  | brace x =>
    obtain rfl : b = x := List.mem_singleton.1 mem
    simp [ByteClass.isAllowed, show ByteClass.isBrace b = true from shaped]

theorem commentMask_outside {bs : List UInt8} (noSemicolon : 59 ∉ bs) (rest : List UInt8) :
    commentMask false (bs ++ rest) = List.replicate bs.length false ++ commentMask false rest := by
  induction bs with
  | nil => rfl
  | cons b bs ih =>
    have closed : (b == 59) = false := beq_eq_false_iff_ne.2 fun h => noSemicolon (h ▸ List.mem_cons_self)
    simp only [List.cons_append, commentMask, closed, List.length_cons, List.replicate_succ,
      ih fun mem => noSemicolon (List.mem_cons_of_mem b mem)]

theorem commentMask_inside {body : List UInt8} (noFeed : 10 ∉ body) (rest : List UInt8) :
    commentMask true (body ++ rest) = List.replicate body.length true ++ commentMask true rest := by
  induction body with
  | nil => rfl
  | cons b body ih =>
    have stillOpen : (b != 10) = true := bne_iff_ne.2 fun h => noFeed (h ▸ List.mem_cons_self)
    simp only [List.cons_append, commentMask, stillOpen, List.length_cons, List.replicate_succ,
      ih fun mem => noFeed (List.mem_cons_of_mem b mem)]

theorem Lexeme.commentMask_append {l : Lexeme} (shaped : l.Shaped) {rest : List UInt8}
    (ends : l.EndsBefore rest) :
    commentMask false (l.bytes ++ rest) =
      List.replicate l.bytes.length l.isComment ++ commentMask false rest := by
  cases comment : l.isComment with
  | false =>
    have noSemicolon : 59 ∉ l.bytes := fun mem =>
      Bool.false_ne_true (isAllowed_semicolon.symm.trans (l.allowed shaped comment 59 mem))
    exact commentMask_outside noSemicolon rest
  | true =>
    cases l with
    | comment body closed =>
      have noFeed : 10 ∉ body := shaped
      cases closed with
      | true =>
        have length : (Lexeme.comment body true).bytes.length = body.length + 1 + 1 := by
          simp [bytes]
        rw [length]
        calc commentMask false ((Lexeme.comment body true).bytes ++ rest)
            = true :: commentMask true (body ++ 10 :: rest) := by simp [bytes, commentMask]
          _ = true :: (List.replicate body.length true ++ true :: commentMask false rest) := by
            rw [commentMask_inside noFeed, commentMask]
            rfl
          _ = List.replicate (body.length + 1 + 1) true ++ commentMask false rest := by
            rw [List.replicate_succ, List.replicate_succ']
            simp
      | false =>
        obtain rfl : rest = [] := ends
        have inner := commentMask_inside noFeed []
        simp only [List.append_nil] at inner
        simp [bytes, commentMask, inner, List.replicate_succ]
    | blank | run | brace => cases comment

theorem strayAt_append_iff {pre rest : List UInt8} {inComment : Bool}
    (mask : commentMask false (pre ++ rest) =
      List.replicate pre.length inComment ++ commentMask false rest)
    (clean : inComment = false → ∀ b ∈ pre, ByteClass.isAllowed b = true) (i : Nat) :
    StrayAt (pre ++ rest) i ↔ pre.length ≤ i ∧ StrayAt rest (i - pre.length) := by
  unfold StrayAt
  rw [mask]
  by_cases inside : i < pre.length
  · have flag : (List.replicate pre.length inComment ++ commentMask false rest)[i]? = some inComment := by
      rw [List.getElem?_append_left (by simpa using inside), List.getElem?_replicate_of_lt inside]
    rw [flag, List.getElem?_append_left inside]
    constructor
    · rintro ⟨outside, b, byte, stray⟩
      cases Option.some.inj outside
      have allowed := clean rfl b (List.mem_of_getElem? byte)
      simp [allowed] at stray
    · intro beyond
      omega
  · have beyond : pre.length ≤ i := Nat.le_of_not_lt inside
    rw [List.getElem?_append_right (by simpa using beyond), List.getElem?_append_right beyond,
      List.length_replicate]
    simp [beyond]

theorem Segments.strayAt_iff {pre : List UInt8} {ls : List Lexeme} {after : List UInt8}
    (segs : Segments pre ls after) (i : Nat) :
    StrayAt (pre ++ after) i ↔ pre.length ≤ i ∧ StrayAt after (i - pre.length) := by
  induction segs generalizing i with
  | nil => simp
  | @cons l rest ls after shaped ends _ ih =>
    rw [List.append_assoc,
      strayAt_append_iff (l.commentMask_append shaped ends) (l.allowed shaped) i,
      ih (i - l.bytes.length), Nat.sub_sub, List.length_append, ← and_assoc]
    have bound : (l.bytes.length ≤ i ∧ rest.length ≤ i - l.bytes.length) ↔
        l.bytes.length + rest.length ≤ i := by
      omega
    rw [bound]

theorem Segments.noStray {src : List UInt8} {ls : List Lexeme} (segs : Segments src ls []) :
    NoStray src := by
  intro i stray
  rw [← List.append_nil src] at stray
  obtain ⟨-, -, b, byte, -⟩ := (segs.strayAt_iff i).1 stray
  simp at byte

theorem Segments.firstStray {pre : List UInt8} {ls : List Lexeme} {b : UInt8} {rest : List UInt8}
    (segs : Segments pre ls (b :: rest)) (stray : ByteClass.ofByte b = .stray) :
    FirstStray (pre ++ b :: rest) pre.length := by
  have holds := ByteClass.ofByte_holds b
  rw [stray] at holds
  obtain ⟨notSemicolon, notAllowed⟩ := holds
  have here : StrayAt (b :: rest) 0 := by
    refine ⟨?_, b, rfl, notAllowed⟩
    simp [commentMask, beq_eq_false_iff_ne.2 notSemicolon]
  refine ⟨(segs.strayAt_iff _).2 ⟨Nat.le_refl _, by simpa using here⟩, fun j before stray => ?_⟩
  have := ((segs.strayAt_iff j).1 stray).1
  omega

theorem FirstStray.unique {src : List UInt8} {i j : Nat} (first : FirstStray src i)
    (second : FirstStray src j) : i = j := by
  rcases Nat.lt_trichotomy i j with before | same | after
  · exact absurd first.1 (second.2 i before)
  · exact same
  · exact absurd second.1 (first.2 j after)

end Lexing

end Circuitry
