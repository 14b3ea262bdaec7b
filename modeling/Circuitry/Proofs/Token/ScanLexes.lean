import Circuitry.Proofs.Token.Lexing

/-!
# Scanning meets the lexical specification

`scan` reads a source one lexeme at a time, and what it reads of a lexeme depends only on the
lexeme and on the next byte. So any split of a source into lexemes is the one the scanner
reads (`scanFrom_segments`), and the scanner's own run gives such a split up to the first
stray byte (`exists_segments`). The cursor it carries is the place the specification gives to
the next byte (`Cursor.after_position`).

Main statement: `scan_lexes`.
-/

namespace Circuitry

open Lexing

/-! ### Where the cursor stands -/

def Cursor.after (pre : List UInt8) : Cursor :=
  ⟨pre.length, 1 + pre.count 10,
    if pre.count 10 = 0 then none
    else some (pre.length - 1 - (pre.reverse.takeWhile (· != 10)).length)⟩

namespace Cursor

theorem after_nil : after [] = start := rfl

theorem advance_append (c : Cursor) (xs ys : List UInt8) :
    c.advance (xs ++ ys) = (c.advance xs).advance ys :=
  List.foldl_append

theorem after_step (pre : List UInt8) (b : UInt8) : (after pre).step b = after (pre ++ [b]) := by
  by_cases feed : b = 10
  · subst feed
    simp [after, step]
    omega
  · -- The line count stays and the last line feed is the same one, one byte further back.
    have kept : (b != 10) = true := bne_iff_ne.2 feed
    have count : (pre ++ [b]).count 10 = pre.count 10 := by simp [List.count_append, feed]
    have back : ((pre ++ [b]).reverse.takeWhile (· != 10)).length =
        (pre.reverse.takeWhile (· != 10)).length + 1 := by
      simp [kept]
    simp only [after, step, if_neg feed, count, back, List.length_append, List.length_singleton]
    by_cases none : pre.count 10 = 0
    · simp [none]
    · simp only [none, if_false, Cursor.mk.injEq, Option.some.injEq, true_and]
      omega

theorem after_advance (pre bs : List UInt8) : (after pre).advance bs = after (pre ++ bs) := by
  induction bs generalizing pre with
  | nil => rw [advance_nil, List.append_nil]
  | cons b bs ih => rw [advance_cons, after_step, ih, List.append_assoc, List.singleton_append]

theorem length_takeWhile_reverse_lt {pre : List UInt8} (feed : pre.count 10 ≠ 0) :
    (pre.reverse.takeWhile (· != 10)).length < pre.length := by
  have mem : 10 ∈ pre.reverse := List.mem_reverse.2 (List.count_pos_iff.1 (Nat.pos_of_ne_zero feed))
  have prefixed := List.takeWhile_prefix (fun x : UInt8 => x != 10) (l := pre.reverse)
  rcases Nat.lt_or_ge (pre.reverse.takeWhile (· != 10)).length pre.length with shorter | full
  · exact shorter
  · -- A take-while as long as the list is the whole list, whose line feed it cannot pass.
    have whole := prefixed.eq_of_length (Nat.le_antisymm prefixed.length_le (by simpa using full))
    have stops := List.all_takeWhile (p := fun x : UInt8 => x != 10) (l := pre.reverse)
    rw [whole, List.all_eq_true] at stops
    have passes := stops 10 mem
    simp at passes

theorem after_position (pre rest : List UInt8) :
    (after pre).position = positionAt (pre ++ rest) pre.length := by
  simp only [position, column, after, positionAt, lineAt, columnAt, List.take_left]
  by_cases feed : pre.count 10 = 0
  · simp [feed]
  · have inside := length_takeWhile_reverse_lt feed
    simp only [feed, if_false, Position.mk.injEq, true_and]
    split <;> omega

end Cursor

/-! ### One lexeme at a time -/

def Lexing.Lexeme.tokensAt (c : Cursor) : Lexeme → List Token
  | .blank _ => []
  | .comment _ _ => []
  | .run .punctuation bytes => punctuationTokens c bytes
  | .run _ bytes => [⟨.text, asciiText bytes, c.position⟩]
  | .brace b => [⟨.brace, asciiText [b], c.position⟩]

def Lexing.tokensFrom (c : Cursor) : List Lexeme → List Token
  | [] => []
  | l :: ls => l.tokensAt c ++ tokensFrom (c.advance l.bytes) ls

theorem map_nil_append (e : Except LexicalFault (List Token)) : e.map ([] ++ ·) = e := by
  cases e <;> rfl

theorem map_append_map (e : Except LexicalFault (List Token)) (xs ys : List Token) :
    (e.map (xs ++ ·)).map (ys ++ ·) = e.map ((ys ++ xs) ++ ·) := by
  cases e <;> simp [Except.map]

theorem ByteClass.holds_of_ofByte {b : UInt8} {cls : ByteClass} (h : ofByte b = cls) : cls.Holds b :=
  h ▸ ofByte_holds b

theorem head?_dropWhile {p : UInt8 → Bool} (l : List UInt8) : ∀ x ∈ (l.dropWhile p).head?, p x = false := by
  intro x mem
  have stops := List.head?_dropWhile_not p l
  rw [Option.mem_def.1 mem] at stops
  exact stops

theorem scanFrom_lexeme {l : Lexeme} (shaped : l.Shaped) {rest : List UInt8} (ends : l.EndsBefore rest)
    (c : Cursor) :
    scanFrom c (l.bytes ++ rest) = (scanFrom (c.advance l.bytes) rest).map (l.tokensAt c ++ ·) := by
  cases l with
  | blank b =>
    show scanFrom c (b :: rest) = (scanFrom (c.step b) rest).map ([] ++ ·)
    rw [map_nil_append]
    exact scanFrom_blank (ByteClass.ofByte_of_isBlank shaped)
  | comment body closed =>
    have inBody : ∀ x ∈ body, (x != 10) = true := fun x mem => bne_iff_ne.2 fun h => shaped (h ▸ mem)
    cases closed with
    | true =>
      have stop : ∀ x ∈ (10 :: rest).head?, (x != 10) = false := by simp
      obtain ⟨taken, dropped⟩ := takeWhile_run inBody stop
      show scanFrom c (59 :: (body ++ [10]) ++ rest) =
        (scanFrom (c.advance (59 :: (body ++ [10]))) rest).map ([] ++ ·)
      rw [map_nil_append, List.cons_append, List.append_assoc, List.singleton_append,
        scanFrom_comment (by decide), taken, dropped]
      rfl
    | false =>
      obtain rfl : rest = [] := ends
      have stop : ∀ x ∈ ([] : List UInt8).head?, (x != 10) = false := by simp
      obtain ⟨taken, dropped⟩ := takeWhile_run inBody stop
      rw [List.append_nil] at taken dropped
      show scanFrom c (59 :: (body ++ []) ++ []) = (scanFrom (c.advance (59 :: (body ++ []))) []).map ([] ++ ·)
      rw [map_nil_append, List.append_nil, List.append_nil, scanFrom_comment (by decide), taken, dropped]
      simp only [List.take_nil, List.drop_nil, List.append_nil]
  | run cls bytes =>
    obtain ⟨nonempty, accepted⟩ := shaped
    obtain ⟨b, bs, rfl⟩ := List.exists_cons_of_ne_nil nonempty
    have first := accepted b List.mem_cons_self
    have run : ∀ x ∈ bs, cls.accepts x = true := fun x mem => accepted x (List.mem_cons_of_mem b mem)
    have stop : ∀ x ∈ rest.head?, cls.accepts x = false := ends
    cases cls with
    | letters =>
      exact scanFrom_textRun (fun _ => scanFrom_letter (ByteClass.ofByte_of_isLetter first)) run stop
    | digits =>
      exact scanFrom_textRun (fun _ => scanFrom_digit (ByteClass.ofByte_of_isDigit first)) run stop
    | punctuation =>
      exact scanFrom_punctuationRun (ByteClass.ofByte_of_isPunctuation first) run stop
  | brace b => exact scanFrom_brace (ByteClass.ofByte_of_isBrace shaped)

theorem scanFrom_segments {pre : List UInt8} {ls : List Lexeme} {after : List UInt8}
    (segs : Segments pre ls after) (c : Cursor) :
    scanFrom c (pre ++ after) = (scanFrom (c.advance pre) after).map (tokensFrom c ls ++ ·) := by
  induction segs generalizing c with
  | nil after => exact (map_nil_append _).symm
  | @cons l rest ls after shaped ends _ ih =>
    rw [List.append_assoc, scanFrom_lexeme shaped ends, ih, map_append_map, Cursor.advance_append]
    rfl

/-! ### The scanner's own split -/

/-- `bytes` splits into lexemes followed by nothing or by a stray byte. -/
def Lexing.Splits (bytes : List UInt8) : Prop :=
  ∃ pre ls after, bytes = pre ++ after ∧ Segments pre ls after ∧
    ∀ b ∈ after.head?, ByteClass.ofByte b = .stray

theorem Lexing.Splits.cons {l : Lexeme} (shaped : l.Shaped) {rest : List UInt8}
    (ends : l.EndsBefore rest) (split : Splits rest) : Splits (l.bytes ++ rest) := by
  obtain ⟨pre, ls, after, rfl, segs, stray⟩ := split
  exact ⟨l.bytes ++ pre, l :: ls, after, (List.append_assoc _ _ _).symm, .cons shaped ends segs, stray⟩

theorem Lexing.Splits.run {cls : RunClass} {b : UInt8} {rest : List UInt8} (first : cls.accepts b = true)
    (split : Splits (rest.dropWhile cls.accepts)) : Splits (b :: rest) := by
  have shaped : (Lexeme.run cls (b :: rest.takeWhile cls.accepts)).Shaped := by
    refine ⟨List.cons_ne_nil _ _, fun x mem => ?_⟩
    rcases List.mem_cons.1 mem with rfl | taken
    · exact first
    · exact List.all_eq_true.1 List.all_takeWhile x taken
  have whole := Splits.cons shaped (head?_dropWhile rest) split
  rwa [Lexeme.bytes, List.cons_append, List.takeWhile_append_dropWhile] at whole

theorem exists_segments (c : Cursor) (bytes : List UInt8) : Splits bytes := by
  fun_induction scanFrom c bytes with
  | case1 c => exact ⟨[], [], [], rfl, .nil [], by simp⟩
  | case2 c b rest blank ih => exact Splits.cons (l := .blank b) (ByteClass.holds_of_ofByte blank) trivial ih
  | case3 c b rest comment body tail ih =>
    change Splits ((rest.dropWhile (· != 10)).drop 1) at ih
    have semicolon : b = 59 := ByteClass.holds_of_ofByte comment
    subst semicolon
    have noFeed : 10 ∉ rest.takeWhile (· != 10) := fun mem => by
      simpa using List.all_eq_true.1 (List.all_takeWhile (p := (· != 10))) 10 mem
    have whole := List.takeWhile_append_dropWhile (p := (· != 10)) (l := rest)
    cases closing : rest.dropWhile (· != 10) with
    | nil =>
      rw [closing] at ih whole
      have split := Splits.cons (l := .comment (rest.takeWhile (· != 10)) false) noFeed rfl ih
      have bytes : (Lexeme.comment (rest.takeWhile (· != 10)) false).bytes ++ List.drop 1 [] = 59 :: rest := by
        conv => rhs; rw [← whole]
        simp [Lexeme.bytes]
      exact bytes ▸ split
    | cons feed more =>
      have isFeed : feed = 10 := by
        have stops := head?_dropWhile (p := (· != 10)) rest feed (by rw [closing]; rfl)
        simpa using stops
      subst isFeed
      rw [closing] at ih whole
      have split := Splits.cons (l := .comment (rest.takeWhile (· != 10)) true) noFeed trivial ih
      have bytes : (Lexeme.comment (rest.takeWhile (· != 10)) true).bytes ++ List.drop 1 (10 :: more) =
          59 :: rest := by
        conv => rhs; rw [← whole]
        simp [Lexeme.bytes]
      exact bytes ▸ split
  | case4 c b rest letter run ih =>
    have first : RunClass.accepts .letters b = true := ByteClass.holds_of_ofByte letter
    exact Splits.run first ih
  | case5 c b rest digit run ih =>
    have first : RunClass.accepts .digits b = true := ByteClass.holds_of_ofByte digit
    exact Splits.run first ih
  | case6 c b rest brace ih => exact Splits.cons (l := .brace b) (ByteClass.holds_of_ofByte brace) trivial ih
  | case7 c b rest punctuation run ih =>
    have first : RunClass.accepts .punctuation b = true := ByteClass.holds_of_ofByte punctuation
    exact Splits.run first ih
  | case8 c b rest stray =>
    refine ⟨[], [], b :: rest, rfl, .nil _, ?_⟩
    intro x mem
    cases Option.mem_def.1 mem
    exact stray

/-! ### Punctuation pieces

The greedy split of a punctuation run is its only factorization over `=>`, `[`, `]`, `:` and
`,`: `=` and `>` stand in no piece but `=>`. -/

theorem ByteClass.mark_mem_pieceBytes {b : UInt8} (mark : isMark b = true) : [b] ∈ pieceBytes := by
  simp only [isMark, Bool.or_eq_true, decide_eq_true_eq, or_assoc] at mark
  rcases mark with rfl | rfl | rfl | rfl <;> simp [pieceBytes]

theorem punctuationPieces_mark {b : UInt8} (mark : ByteClass.isMark b = true) (rest : List UInt8) :
    punctuationPieces (b :: rest) = (punctuationPieces rest).map ([b] :: ·) := by
  have notArrow : ∀ more, b = 61 → rest = 62 :: more → False := fun _ arrow _ => by
    subst arrow
    exact absurd mark (by decide)
  rw [punctuationPieces.eq_3 b rest notArrow, if_pos mark]

theorem factorization_of_punctuationPieces {run : List UInt8} {pieces : List (List UInt8)}
    (split : punctuationPieces run = some pieces) : Factorization run pieces := by
  fun_induction punctuationPieces run generalizing pieces with
  | case1 =>
    cases split
    exact ⟨rfl, by simp⟩
  | case2 rest ih =>
    obtain ⟨ps, restSplit, rfl⟩ := Option.map_eq_some_iff.1 split
    obtain ⟨flat, allPieces⟩ := ih restSplit
    refine ⟨by simp [flat], fun p mem => ?_⟩
    rcases List.mem_cons.1 mem with rfl | later
    · simp [pieceBytes]
    · exact allPieces p later
  | case3 b rest _ mark ih =>
    obtain ⟨ps, restSplit, rfl⟩ := Option.map_eq_some_iff.1 split
    obtain ⟨flat, allPieces⟩ := ih restSplit
    refine ⟨by simp [flat], fun p mem => ?_⟩
    rcases List.mem_cons.1 mem with rfl | later
    · exact ByteClass.mark_mem_pieceBytes mark
    · exact allPieces p later
  | case4 => cases split

theorem punctuationPieces_of_factorization {run : List UInt8} {pieces : List (List UInt8)}
    (fact : Factorization run pieces) : punctuationPieces run = some pieces := by
  obtain ⟨rfl, allPieces⟩ := fact
  induction pieces with
  | nil => rw [List.flatten_nil, punctuationPieces]
  | cons p ps ih =>
    have rest := ih fun q mem => allPieces q (List.mem_cons_of_mem p mem)
    have piece := allPieces p List.mem_cons_self
    simp only [pieceBytes, List.mem_cons, List.not_mem_nil, or_false] at piece
    rw [List.flatten_cons]
    rcases piece with rfl | rfl | rfl | rfl | rfl
    · rw [List.cons_append, List.cons_append, List.nil_append, punctuationPieces, rest]
      rfl
    all_goals
      rw [List.singleton_append, punctuationPieces_mark (by decide), rest]
      rfl

theorem punctuationTokens_of_some {c : Cursor} {run : List UInt8} {pieces : List (List UInt8)}
    (split : punctuationPieces run = some pieces) : punctuationTokens c run = pieceTokens c pieces := by
  rw [punctuationTokens, split]

theorem punctuationTokens_of_none {c : Cursor} {run : List UInt8} (unsplit : punctuationPieces run = none) :
    punctuationTokens c run = [⟨.text, asciiText run, c.position⟩] := by
  rw [punctuationTokens, unsplit]

theorem punctuationPieces_eq_some_iff {run : List UInt8} {pieces : List (List UInt8)} :
    punctuationPieces run = some pieces ↔ Factorization run pieces :=
  ⟨factorization_of_punctuationPieces, punctuationPieces_of_factorization⟩

/-! ### The tokens of each lexeme -/

theorem pieceTokens_after (pre : List UInt8) (pieces : List (List UInt8)) (more : List UInt8) :
    pieceTokens (Cursor.after pre) pieces = piecesAt (pre ++ pieces.flatten ++ more) pre.length pieces := by
  induction pieces generalizing pre with
  | nil => rfl
  | cons p ps ih =>
    have position : (Cursor.after pre).position = positionAt (pre ++ (p :: ps).flatten ++ more) pre.length := by
      rw [Cursor.after_position pre ((p :: ps).flatten ++ more), List.append_assoc]
    have src : pre ++ (p :: ps).flatten ++ more = pre ++ p ++ ps.flatten ++ more := by simp
    rw [pieceTokens, piecesAt, Cursor.after_advance, ih (pre ++ p), position, src, List.length_append]

theorem lexemeTokens_iff (l : Lexeme) (pre more : List UInt8) (ts : List Token) :
    LexemeTokens (pre ++ l.bytes ++ more) pre.length l ts ↔ ts = l.tokensAt (Cursor.after pre) := by
  have position : (Cursor.after pre).position = positionAt (pre ++ l.bytes ++ more) pre.length := by
    rw [Cursor.after_position pre (l.bytes ++ more), List.append_assoc]
  cases l with
  | blank | comment => exact Iff.rfl
  | run cls bytes =>
    cases cls with
    | letters | digits => simp only [LexemeTokens, Lexeme.tokensAt, position]
    | punctuation =>
      show LexemeTokens (pre ++ bytes ++ more) pre.length (.run .punctuation bytes) ts ↔
        ts = punctuationTokens (Cursor.after pre) bytes
      cases split : punctuationPieces bytes with
      | none =>
        have unsplit : ∀ ps, ¬Factorization bytes ps := fun ps fact => by
          rw [punctuationPieces_eq_some_iff.2 fact] at split
          cases split
        simp only [LexemeTokens, unsplit, punctuationTokens_of_none split, position, Lexeme.bytes, false_and,
          exists_false, false_or, true_and, not_false_eq_true, implies_true]
      | some ps =>
        have fact := punctuationPieces_eq_some_iff.1 split
        have pieces : piecesAt (pre ++ bytes ++ more) pre.length ps = pieceTokens (Cursor.after pre) ps := by
          rw [← fact.1, pieceTokens_after pre ps more]
        rw [punctuationTokens_of_some split]
        constructor
        · rintro (⟨ps', fact', rfl⟩ | ⟨unsplit, _⟩)
          · have same : ps' = ps := Option.some.inj ((punctuationPieces_eq_some_iff.2 fact').symm.trans split)
            rw [same, pieces]
          · exact absurd fact (unsplit ps)
        · rintro rfl
          exact .inl ⟨ps, fact, pieces.symm⟩
  | brace b => simp only [LexemeTokens, Lexeme.tokensAt, position]

theorem tokensFrom_iff {seg : List UInt8} {ls : List Lexeme} {after : List UInt8}
    (segs : Segments seg ls after) (pre : List UInt8) (toks : List Token) :
    TokensFrom (pre ++ seg ++ after) pre.length ls toks ↔ toks = tokensFrom (Cursor.after pre) ls := by
  induction segs generalizing pre toks with
  | nil after =>
    constructor
    · rintro ⟨⟩
      rfl
    · rintro rfl
      exact .nil _
  | @cons l rest ls after _ _ _ ih =>
    have atLexeme : pre ++ (l.bytes ++ rest) ++ after = pre ++ l.bytes ++ (rest ++ after) := by simp
    have atRest : pre ++ (l.bytes ++ rest) ++ after = pre ++ l.bytes ++ rest ++ after := by simp
    rw [tokensFrom, Cursor.after_advance]
    constructor
    · rintro (_ | ⟨lexeme, others⟩)
      rw [atLexeme, lexemeTokens_iff] at lexeme
      rw [atRest, ← List.length_append, ih] at others
      rw [lexeme, others]
    · rintro rfl
      refine .cons ?_ ?_
      · rw [atLexeme, lexemeTokens_iff]
      · rw [atRest, ← List.length_append, ih]

/-! ### Tokens are slices of the source -/

theorem ByteClass.toNat_lt_of_isAllowed {b : UInt8} (allowed : isAllowed b = true) : b.toNat < 128 := by
  simp only [isAllowed, isBlank, isLetter, isDigit, isBrace, isPunctuation, Bool.or_eq_true,
    Bool.and_eq_true, decide_eq_true_eq, ← UInt8.toNat_inj, UInt8.le_iff_toNat_le, UInt8.toNat_ofNat,
    Nat.reducePow, Nat.reduceMod] at allowed
  omega

theorem toNat_charOfNat {n : Nat} (small : n < 128) : (Char.ofNat n).toNat = n := by
  have valid : n.isValidChar := Or.inl (by omega)
  rw [Char.ofNat, dif_pos valid]
  rfl

theorem toUTF8_asciiText {bs : List UInt8} (ascii : ∀ b ∈ bs, b.toNat < 128) :
    (asciiText bs).toUTF8.toList = bs := by
  have charAscii : IsAscii (asciiText bs) := by
    intro ch mem
    simp only [asciiText, String.toList_ofList, List.mem_map] at mem
    obtain ⟨b, byte, rfl⟩ := mem
    rw [toNat_charOfNat (ascii b byte)]
    exact ascii b byte
  rw [toUTF8_eq_wordBytes charAscii, wordBytes, asciiText, String.toList_ofList, List.map_map]
  conv => rhs; rw [← List.map_id bs]
  apply List.map_congr_left
  intro b byte
  simp [toNat_charOfNat (ascii b byte)]

theorem slices_at (pre bs more : List UInt8) (ascii : ∀ b ∈ bs, b.toNat < 128) (kind : TokenKind) :
    Slices (pre ++ bs ++ more) ⟨kind, asciiText bs, (Cursor.after pre).position⟩ := by
  show (asciiText bs).toUTF8.toList <+: (pre ++ bs ++ more).drop (pre.length : Int).toNat
  rw [toUTF8_asciiText ascii, Int.toNat_natCast, List.append_assoc, List.drop_left]
  exact List.prefix_append bs more

theorem slices_pieceTokens (pre : List UInt8) (pieces : List (List UInt8)) (more : List UInt8)
    (ascii : ∀ p ∈ pieces, ∀ b ∈ p, b.toNat < 128) :
    ∀ t ∈ pieceTokens (Cursor.after pre) pieces, Slices (pre ++ pieces.flatten ++ more) t := by
  induction pieces generalizing pre with
  | nil => exact fun _ mem => nomatch mem
  | cons p ps ih =>
    intro t mem
    rw [pieceTokens, Cursor.after_advance, List.mem_cons] at mem
    rcases mem with rfl | later
    · have here := slices_at pre p (ps.flatten ++ more) (ascii p List.mem_cons_self) .text
      simpa using here
    · have there := ih (pre ++ p) (fun q mem => ascii q (List.mem_cons_of_mem p mem)) t later
      simpa using there

theorem Lexing.Lexeme.slices {l : Lexeme} (shaped : l.Shaped) (pre more : List UInt8) :
    ∀ t ∈ l.tokensAt (Cursor.after pre), Slices (pre ++ l.bytes ++ more) t := by
  cases comment : l.isComment with
  | true =>
    cases l with
    | comment => exact fun _ mem => nomatch mem
    | blank | run | brace => cases comment
  | false =>
    have ascii : ∀ b ∈ l.bytes, b.toNat < 128 := fun b mem =>
      ByteClass.toNat_lt_of_isAllowed (l.allowed shaped comment b mem)
    intro t mem
    cases l with
    | blank => cases mem
    | comment => cases comment
    | run cls bytes =>
      cases cls with
      | letters | digits =>
        rw [List.mem_singleton.1 mem]
        exact slices_at pre bytes more ascii .text
      | punctuation =>
        change t ∈ punctuationTokens (Cursor.after pre) bytes at mem
        cases split : punctuationPieces bytes with
        | none =>
          rw [punctuationTokens_of_none split, List.mem_singleton] at mem
          rw [mem]
          exact slices_at pre bytes more ascii .text
        | some ps =>
          rw [punctuationTokens_of_some split] at mem
          have flat := (factorization_of_punctuationPieces split).1
          subst flat
          exact slices_pieceTokens pre ps more
            (fun p piece b byte => ascii b (List.mem_flatten.2 ⟨p, piece, byte⟩)) t mem
    | brace b =>
      rw [List.mem_singleton.1 mem]
      exact slices_at pre [b] more ascii .brace

theorem Lexing.Segments.slices {seg : List UInt8} {ls : List Lexeme} {after : List UInt8}
    (segs : Segments seg ls after) (pre : List UInt8) :
    ∀ t ∈ tokensFrom (Cursor.after pre) ls, Slices (pre ++ seg ++ after) t := by
  induction segs generalizing pre with
  | nil => exact fun _ mem => nomatch mem
  | @cons l rest ls after shaped _ _ ih =>
    intro t mem
    rw [tokensFrom, List.mem_append, Cursor.after_advance] at mem
    rcases mem with here | later
    · have sliced := l.slices shaped pre (rest ++ after) t here
      simpa using sliced
    · have sliced := ih (pre ++ l.bytes) t later
      simpa using sliced

/-! ### The specification -/

theorem scan_of_segments {src : List UInt8} {ls : List Lexeme} (segs : Segments src ls []) :
    scan src = .ok (tokensFrom Cursor.start ls) := by
  unfold scan
  rw [← List.append_nil src, scanFrom_segments segs, scanFrom_nil]
  simp [Except.map]

theorem scan_of_stray {pre : List UInt8} {ls : List Lexeme} {b : UInt8} {rest : List UInt8}
    (segs : Segments pre ls (b :: rest)) (stray : ByteClass.ofByte b = .stray) :
    scan (pre ++ b :: rest) =
      .error ⟨positionAt (pre ++ b :: rest) pre.length, Text.Utf8.firstCode (b :: rest)⟩ := by
  unfold scan
  rw [scanFrom_segments segs, ← Cursor.after_nil, Cursor.after_advance, List.nil_append,
    scanFrom_stray stray, Cursor.after_position pre (b :: rest)]
  rfl

theorem scan_eq_ok_iff (src : List UInt8) (toks : List Token) : scan src = .ok toks ↔ Lexed src toks := by
  constructor
  · intro scanned
    obtain ⟨pre, ls, after, rfl, segs, stray⟩ := exists_segments Cursor.start src
    cases after with
    | nil =>
      rw [List.append_nil, scan_of_segments segs] at scanned
      cases scanned
      have lexed := (tokensFrom_iff segs [] (tokensFrom Cursor.start ls)).2 rfl
      exact ⟨ls, by simpa using segs, by simpa [Cursor.after_nil] using lexed⟩
    | cons b rest =>
      rw [scan_of_stray segs (stray b rfl)] at scanned
      cases scanned
  · rintro ⟨ls, segs, lexed⟩
    have toks_eq := (tokensFrom_iff segs [] toks).1 (by simpa using lexed)
    rw [scan_of_segments segs, toks_eq, Cursor.after_nil]

theorem scan_ok_iff_noStray (src : List UInt8) : (∃ toks, scan src = .ok toks) ↔ NoStray src := by
  constructor
  · rintro ⟨toks, scanned⟩
    obtain ⟨ls, segs, -⟩ := (scan_eq_ok_iff src toks).1 scanned
    exact segs.noStray
  · intro clean
    obtain ⟨pre, ls, after, rfl, segs, stray⟩ := exists_segments Cursor.start src
    cases after with
    | nil =>
      rw [List.append_nil]
      exact ⟨_, scan_of_segments segs⟩
    | cons b rest => exact absurd (segs.firstStray (stray b rfl)).1 (clean _)

theorem scan_eq_error_of_firstStray {src : List UInt8} {i : Nat} (first : FirstStray src i) :
    scan src = .error ⟨positionAt src i, Text.Utf8.firstCode (src.drop i)⟩ := by
  obtain ⟨pre, ls, after, rfl, segs, stray⟩ := exists_segments Cursor.start src
  cases after with
  | nil =>
    rw [List.append_nil] at first
    exact absurd first.1 (segs.noStray i)
  | cons b rest =>
    obtain rfl := first.unique (segs.firstStray (stray b rfl))
    rw [scan_of_stray segs (stray b rfl), List.drop_left]

theorem scan_slices {src : List UInt8} {toks : List Token} (scanned : scan src = .ok toks) :
    ∀ t ∈ toks, Slices src t := by
  obtain ⟨ls, segs, -⟩ := (scan_eq_ok_iff src toks).1 scanned
  rw [scan_of_segments segs] at scanned
  cases scanned
  have sliced := segs.slices []
  simpa [Cursor.after_nil] using sliced

theorem pieceTokens_kind (c : Cursor) (pieces : List (List UInt8)) :
    ∀ t ∈ pieceTokens c pieces, t.kind = .text := by
  induction pieces generalizing c with
  | nil => exact fun _ mem => absurd mem List.not_mem_nil
  | cons p ps ih =>
    intro t mem
    rw [pieceTokens, List.mem_cons] at mem
    rcases mem with rfl | later
    · rfl
    · exact ih _ t later

theorem Lexing.Lexeme.tokensAt_kind (c : Cursor) (l : Lexeme) : ∀ t ∈ l.tokensAt c, t.kind ≠ .operator := by
  intro t mem
  cases l with
  | blank | comment => cases mem
  | run cls bytes =>
    cases cls with
    | letters | digits =>
      rw [List.mem_singleton.1 mem]
      simp
    | punctuation =>
      change t ∈ punctuationTokens c bytes at mem
      cases split : punctuationPieces bytes with
      | none =>
        rw [punctuationTokens_of_none split, List.mem_singleton] at mem
        rw [mem]
        simp
      | some ps =>
        rw [punctuationTokens_of_some split] at mem
        simp [pieceTokens_kind c ps t mem]
  | brace b =>
    rw [List.mem_singleton.1 mem]
    simp

theorem Lexing.tokensFrom_kind (c : Cursor) (ls : List Lexeme) :
    ∀ t ∈ tokensFrom c ls, t.kind ≠ .operator := by
  induction ls generalizing c with
  | nil => exact fun _ mem => absurd mem List.not_mem_nil
  | cons l ls ih =>
    intro t mem
    rw [tokensFrom, List.mem_append] at mem
    rcases mem with here | later
    · exact l.tokensAt_kind c t here
    · exact ih _ t later

theorem scan_kind {src : List UInt8} {toks : List Token} (scanned : scan src = .ok toks) :
    ∀ t ∈ toks, t.kind ≠ .operator := by
  obtain ⟨ls, segs, -⟩ := (scan_eq_ok_iff src toks).1 scanned
  rw [scan_of_segments segs] at scanned
  cases scanned
  exact tokensFrom_kind Cursor.start ls

/-- What scanning a source does: it succeeds exactly when no byte outside comments is stray,
and then returns the tokens of the source's lexemes, each the slice of the source at its
offset; otherwise it fails at the first stray byte, with that byte's place and code point. -/
theorem scan_lexes (src : List UInt8) :
    ((∃ toks, scan src = .ok toks) ↔ NoStray src) ∧
    (∀ toks, scan src = .ok toks ↔ Lexed src toks) ∧
    (∀ i, FirstStray src i →
      scan src = .error ⟨positionAt src i, Text.Utf8.firstCode (src.drop i)⟩) ∧
    (∀ toks, scan src = .ok toks → ∀ t ∈ toks, Slices src t) :=
  ⟨scan_ok_iff_noStray src, scan_eq_ok_iff src, fun _ first => scan_eq_error_of_firstStray first,
    fun _ scanned => scan_slices scanned⟩

/-- A `$` on the line after a comment is the first stray byte, at line 2 and column 1. -/
theorem stray_after_comment :
    FirstStray [59, 10, 36] 2 ∧ scan [59, 10, 36] = .error ⟨⟨2, 2, 1⟩, 36⟩ := by
  have first : FirstStray [59, 10, 36] 2 := by
    refine ⟨⟨by decide, 36, rfl, by decide⟩, fun j before stray => ?_⟩
    have masked := stray.1
    have early : j = 0 ∨ j = 1 := by omega
    rcases early with rfl | rfl <;> exact absurd masked (by decide)
  refine ⟨first, ?_⟩
  rw [(scan_lexes _).2.2.1 2 first]
  rfl

end Circuitry
