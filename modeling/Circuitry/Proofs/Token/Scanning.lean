import Circuitry.Syntax.Token.Scan

/-!
# Scanning, one step at a time

The scanner looks at the class of the next byte and either skips it (a blank), skips a
comment, reads a run of one class, reads a brace, or stops at a stray byte. This module
restates `scanFrom` as one equation per class, so that no later proof unfolds its
well-founded recursion, and gives the byte and character facts that the classes rest on.

It then scans what the printer writes: words with one space between two of them, each word
a run of letters, a run of digits, a brace or one punctuation piece. Such a word, followed by
a space or by the end, is one token with the word as its text (`scanFrom_word`), and the
whole line of words comes back one token a word (`scanFrom_spaced`).
-/

namespace Circuitry

namespace ByteClass

theorem ofByte_of_isLetter {b : UInt8} (letter : isLetter b = true) : ofByte b = .letter := by
  simp only [isLetter, Bool.or_eq_true, Bool.and_eq_true, decide_eq_true_eq, ← UInt8.toNat_inj,
    UInt8.le_iff_toNat_le, UInt8.toNat_ofNat, Nat.reducePow, Nat.reduceMod] at letter
  unfold ofByte isBlank isLetter
  simp only [Bool.or_eq_true, Bool.and_eq_true, decide_eq_true_eq, ← UInt8.toNat_inj,
    UInt8.le_iff_toNat_le, UInt8.toNat_ofNat, Nat.reducePow, Nat.reduceMod]
  rw [if_neg (by omega), if_neg (by omega), if_pos (by omega)]

theorem ofByte_of_isDigit {b : UInt8} (digit : isDigit b = true) : ofByte b = .digit := by
  simp only [isDigit, Bool.and_eq_true, decide_eq_true_eq, UInt8.le_iff_toNat_le,
    UInt8.toNat_ofNat, Nat.reducePow, Nat.reduceMod] at digit
  unfold ofByte isBlank isLetter isDigit
  simp only [Bool.or_eq_true, Bool.and_eq_true, decide_eq_true_eq, ← UInt8.toNat_inj,
    UInt8.le_iff_toNat_le, UInt8.toNat_ofNat, Nat.reducePow, Nat.reduceMod]
  rw [if_neg (by omega), if_neg (by omega), if_neg (by omega), if_pos (by omega)]

theorem ofByte_of_isBlank {b : UInt8} (blank : isBlank b = true) : ofByte b = .blank := by
  simp only [isBlank, Bool.or_eq_true, Bool.and_eq_true, decide_eq_true_eq, ← UInt8.toNat_inj,
    UInt8.le_iff_toNat_le, UInt8.toNat_ofNat, Nat.reducePow, Nat.reduceMod] at blank
  unfold ofByte isBlank
  simp only [Bool.or_eq_true, Bool.and_eq_true, decide_eq_true_eq, ← UInt8.toNat_inj,
    UInt8.le_iff_toNat_le, UInt8.toNat_ofNat, Nat.reducePow, Nat.reduceMod]
  rw [if_neg (by omega), if_pos (by omega)]

theorem ofByte_of_isBrace {b : UInt8} (brace : isBrace b = true) : ofByte b = .brace := by
  simp only [isBrace, Bool.or_eq_true, decide_eq_true_eq, ← UInt8.toNat_inj, UInt8.toNat_ofNat,
    Nat.reducePow, Nat.reduceMod] at brace
  unfold ofByte isBlank isLetter isDigit isBrace
  simp only [Bool.or_eq_true, Bool.and_eq_true, decide_eq_true_eq, ← UInt8.toNat_inj,
    UInt8.le_iff_toNat_le, UInt8.toNat_ofNat, Nat.reducePow, Nat.reduceMod]
  rw [if_neg (by omega), if_neg (by omega), if_neg (by omega), if_neg (by omega), if_pos (by omega)]

theorem ofByte_of_isPunctuation {b : UInt8} (punctuation : isPunctuation b = true) :
    ofByte b = .punctuation := by
  simp only [isPunctuation, Bool.or_eq_true, decide_eq_true_eq, ← UInt8.toNat_inj, UInt8.toNat_ofNat,
    Nat.reducePow, Nat.reduceMod] at punctuation
  unfold ofByte isBlank isLetter isDigit isBrace isPunctuation
  simp only [Bool.or_eq_true, Bool.and_eq_true, decide_eq_true_eq, ← UInt8.toNat_inj,
    UInt8.le_iff_toNat_le, UInt8.toNat_ofNat, Nat.reducePow, Nat.reduceMod]
  rw [if_neg (by omega), if_neg (by omega), if_neg (by omega), if_neg (by omega), if_neg (by omega),
    if_pos (by omega)]

def isAllowed (b : UInt8) : Bool :=
  isBlank b || isLetter b || isDigit b || isBrace b || isPunctuation b

/-- What a byte of each class is: a stray byte is neither `;` nor allowed. -/
def Holds : ByteClass → UInt8 → Prop
  | .comment, b => b = 59
  | .blank, b => isBlank b = true
  | .letter, b => isLetter b = true
  | .digit, b => isDigit b = true
  | .brace, b => isBrace b = true
  | .punctuation, b => isPunctuation b = true
  | .stray, b => b ≠ 59 ∧ isAllowed b = false

theorem ofByte_holds (b : UInt8) : (ofByte b).Holds b := by
  unfold ofByte
  split
  · assumption
  · split
    · assumption
    · split
      · assumption
      · split
        · assumption
        · split
          · assumption
          · split
            · assumption
            · simp_all [Holds, isAllowed]

theorem isLetter_ofNat {n : Nat} (small : n < 256) :
    isLetter (UInt8.ofNat n) = true ↔ (65 ≤ n ∧ n ≤ 90) ∨ (97 ≤ n ∧ n ≤ 122) ∨ n = 95 := by
  simp only [isLetter, Bool.or_eq_true, Bool.and_eq_true, decide_eq_true_eq, ← UInt8.toNat_inj,
    UInt8.le_iff_toNat_le, UInt8.toNat_ofNat, UInt8.toNat_ofNat_of_lt' small, Nat.reducePow,
    Nat.reduceMod, or_assoc]

theorem isDigit_ofNat {n : Nat} (small : n < 256) :
    isDigit (UInt8.ofNat n) = true ↔ 48 ≤ n ∧ n ≤ 57 := by
  simp only [isDigit, Bool.and_eq_true, decide_eq_true_eq, UInt8.le_iff_toNat_le, UInt8.toNat_ofNat,
    UInt8.toNat_ofNat_of_lt' small, Nat.reducePow, Nat.reduceMod]

end ByteClass

theorem Keyword.isNameChar_iff {c : Char} :
    isNameChar c = true ↔ (65 ≤ c.toNat ∧ c.toNat ≤ 90) ∨ (97 ≤ c.toNat ∧ c.toNat ≤ 122) ∨ c.toNat = 95 := by
  simp only [isNameChar, Bool.or_eq_true, Bool.and_eq_true, decide_eq_true_eq, Char.le_def,
    UInt32.le_iff_toNat_le, ← Char.toNat_inj, or_assoc]
  rfl

/-! ### One equation per byte class -/

section Steps

variable {c : Cursor} {b : UInt8} {rest : List UInt8}

theorem scanFrom_nil (c : Cursor) : scanFrom c [] = .ok [] := by
  rw [scanFrom]

theorem scanFrom_blank (blank : ByteClass.ofByte b = .blank) :
    scanFrom c (b :: rest) = scanFrom (c.step b) rest := by
  rw [scanFrom, blank]

theorem scanFrom_comment (comment : ByteClass.ofByte b = .comment) :
    scanFrom c (b :: rest) =
      scanFrom (c.advance (b :: rest.takeWhile (· != 10) ++ (rest.dropWhile (· != 10)).take 1))
        ((rest.dropWhile (· != 10)).drop 1) := by
  rw [scanFrom, comment]

theorem scanFrom_letter (letter : ByteClass.ofByte b = .letter) :
    scanFrom c (b :: rest) =
      (scanFrom (c.advance (b :: rest.takeWhile ByteClass.isLetter))
        (rest.dropWhile ByteClass.isLetter)).map
        (⟨.text, asciiText (b :: rest.takeWhile ByteClass.isLetter), c.position⟩ :: ·) := by
  rw [scanFrom, letter]

theorem scanFrom_digit (digit : ByteClass.ofByte b = .digit) :
    scanFrom c (b :: rest) =
      (scanFrom (c.advance (b :: rest.takeWhile ByteClass.isDigit))
        (rest.dropWhile ByteClass.isDigit)).map
        (⟨.text, asciiText (b :: rest.takeWhile ByteClass.isDigit), c.position⟩ :: ·) := by
  rw [scanFrom, digit]

theorem scanFrom_brace (brace : ByteClass.ofByte b = .brace) :
    scanFrom c (b :: rest) =
      (scanFrom (c.step b) rest).map (⟨.brace, asciiText [b], c.position⟩ :: ·) := by
  rw [scanFrom, brace]

theorem scanFrom_punctuation (punctuation : ByteClass.ofByte b = .punctuation) :
    scanFrom c (b :: rest) =
      (scanFrom (c.advance (b :: rest.takeWhile ByteClass.isPunctuation))
        (rest.dropWhile ByteClass.isPunctuation)).map
        (punctuationTokens c (b :: rest.takeWhile ByteClass.isPunctuation) ++ ·) := by
  rw [scanFrom, punctuation]

theorem scanFrom_stray (stray : ByteClass.ofByte b = .stray) :
    scanFrom c (b :: rest) = .error ⟨c.position, Text.Utf8.firstCode (b :: rest)⟩ := by
  rw [scanFrom, stray]

end Steps

theorem takeWhile_run {p : UInt8 → Bool} {bs after : List UInt8} (run : ∀ b ∈ bs, p b = true)
    (stop : ∀ b ∈ after.head?, p b = false) :
    (bs ++ after).takeWhile p = bs ∧ (bs ++ after).dropWhile p = after := by
  rw [List.takeWhile_append_of_pos run, List.dropWhile_append_of_pos run]
  cases after with
  | nil => simp
  | cons a more =>
    have stops : p a = false := stop a rfl
    simp [List.takeWhile_cons_of_neg, List.dropWhile_cons_of_neg, stops]

/-! ### Words written in ASCII -/

def wordBytes (w : String) : List UInt8 := w.toList.map fun ch => UInt8.ofNat ch.toNat

def spacedBytes (ws : List String) : List UInt8 := List.intercalate [32] (ws.map wordBytes)

/-- Whether every character of a word is ASCII. -/
def IsAscii (w : String) : Prop := ∀ ch ∈ w.toList, ch.toNat < 128

theorem isAscii_of_all {w : String} (small : w.toList.all (fun ch => decide (ch.toNat < 128)) = true) :
    IsAscii w :=
  fun ch mem => of_decide_eq_true (List.all_eq_true.1 small ch mem)

theorem asciiText_wordBytes {w : String} (ascii : IsAscii w) : asciiText (wordBytes w) = w := by
  unfold asciiText wordBytes
  have same : ∀ ch ∈ w.toList,
      ((fun b : UInt8 => Char.ofNat b.toNat) ∘ fun ch : Char => UInt8.ofNat ch.toNat) ch = ch := by
    intro ch mem
    rw [Function.comp_apply, UInt8.toNat_ofNat_of_lt' (by have := ascii ch mem; simp only [UInt8.size]; omega),
      Char.ofNat_toNat]
  rw [List.map_map, List.map_congr_left same, List.map_id', String.ofList_toList]

/-- A word that scans as a token of its own: a run of letters, a run of digits, a brace, or a
punctuation piece. -/
inductive ScanWord : String → Prop
  | letters {w : String} : Keyword.isNameShaped w = true → ScanWord w
  | digits {w : String} : Keyword.isNumeral w = true → ScanWord w
  | brace {w : String} : w = "\x7b" ∨ w = "\x7d" → ScanWord w
  | piece {w : String} : w ∈ ["[", "]", ":", ",", "=>"] → ScanWord w

theorem ScanWord.ascii {w : String} : ScanWord w → IsAscii w
  | .letters shaped => fun ch mem => by
    unfold Keyword.isNameShaped at shaped
    simp only [Bool.and_eq_true, List.all_eq_true] at shaped
    have letter := Keyword.isNameChar_iff.1 (shaped.2 ch mem)
    omega
  | .digits numeral => fun ch mem => by
    unfold Keyword.isNumeral at numeral
    simp only [Bool.and_eq_true, List.all_eq_true] at numeral
    have digit := Char.isDigit_iff_toNat.1 (numeral.2 ch mem)
    have nine : '9'.toNat = 57 := rfl
    omega
  | .brace braces => by
    rcases braces with rfl | rfl <;> exact isAscii_of_all (by decide)
  | .piece mem => by
    simp only [List.mem_cons, List.not_mem_nil, or_false] at mem
    rcases mem with rfl | rfl | rfl | rfl | rfl <;> exact isAscii_of_all (by decide)

theorem scanFrom_textRun {c : Cursor} {p : UInt8 → Bool} {b : UInt8}
    {bs after : List UInt8}
    (step : ∀ rest, scanFrom c (b :: rest) =
      (scanFrom (c.advance (b :: rest.takeWhile p)) (rest.dropWhile p)).map
        (⟨.text, asciiText (b :: rest.takeWhile p), c.position⟩ :: ·))
    (run : ∀ x ∈ bs, p x = true) (stop : ∀ x ∈ after.head?, p x = false) :
    scanFrom c (b :: bs ++ after) =
      (scanFrom (c.advance (b :: bs)) after).map (⟨.text, asciiText (b :: bs), c.position⟩ :: ·) := by
  obtain ⟨taken, dropped⟩ := takeWhile_run run stop
  rw [List.cons_append, step, taken, dropped]

theorem scanFrom_punctuationRun {c : Cursor} {b : UInt8} {bs after : List UInt8}
    (first : ByteClass.ofByte b = .punctuation) (run : ∀ x ∈ bs, ByteClass.isPunctuation x = true)
    (stop : ∀ x ∈ after.head?, ByteClass.isPunctuation x = false) :
    scanFrom c (b :: bs ++ after) =
      (scanFrom (c.advance (b :: bs)) after).map (punctuationTokens c (b :: bs) ++ ·) := by
  obtain ⟨taken, dropped⟩ := takeWhile_run run stop
  rw [List.cons_append, scanFrom_punctuation first, taken, dropped]

theorem scanFrom_braceWord {c : Cursor} {w : String} {after : List UInt8} (b : UInt8)
    (bytes : wordBytes w = [b]) (brace : ByteClass.ofByte b = .brace) (text : asciiText [b] = w) :
    scanFrom c (wordBytes w ++ after) =
      (scanFrom (c.advance (wordBytes w)) after).map (⟨.brace, w, c.position⟩ :: ·) := by
  rw [bytes, List.singleton_append, scanFrom_brace brace, text]
  rfl

theorem scanFrom_pieceWord {c : Cursor} {w : String} {after : List UInt8} (b : UInt8)
    (bs : List UInt8) (bytes : wordBytes w = b :: bs) (first : ByteClass.ofByte b = .punctuation)
    (run : bs.all ByteClass.isPunctuation = true) (pieces : punctuationPieces (b :: bs) = some [b :: bs])
    (text : asciiText (b :: bs) = w) (separated : ∀ x ∈ after.head?, x = 32) :
    scanFrom c (wordBytes w ++ after) =
      (scanFrom (c.advance (wordBytes w)) after).map (⟨.text, w, c.position⟩ :: ·) := by
  rw [bytes, scanFrom_punctuationRun first (List.all_eq_true.1 run)
    fun x mem => by rw [separated x mem]; decide, punctuationTokens, pieces]
  simp [pieceTokens, text]

theorem scanFrom_word {w : String} (word : ScanWord w) (c : Cursor) {after : List UInt8}
    (separated : ∀ x ∈ after.head?, x = 32) :
    ∃ t : Token, t.value = w ∧ t.kind ≠ .operator ∧
      scanFrom c (wordBytes w ++ after) = (scanFrom (c.advance (wordBytes w)) after).map (t :: ·) := by
  cases word with
  | letters shaped =>
    have ascii := (ScanWord.letters shaped).ascii
    unfold Keyword.isNameShaped at shaped
    simp only [Bool.and_eq_true, List.all_eq_true, Bool.not_eq_true', List.isEmpty_eq_false_iff] at shaped
    obtain ⟨ch, chs, chars⟩ := List.exists_cons_of_ne_nil shaped.1
    have letters : ∀ x ∈ wordBytes w, ByteClass.isLetter x = true := by
      intro x mem
      obtain ⟨ch', mem', rfl⟩ := List.mem_map.1 mem
      have letter := Keyword.isNameChar_iff.1 (shaped.2 ch' mem')
      rw [ByteClass.isLetter_ofNat (by omega)]
      exact letter
    have bytes : wordBytes w = UInt8.ofNat ch.toNat :: chs.map fun ch => UInt8.ofNat ch.toNat := by
      rw [wordBytes, chars, List.map_cons]
    rw [bytes] at letters ⊢
    refine ⟨_, ?_, by simp, scanFrom_textRun (fun rest => scanFrom_letter
      (ByteClass.ofByte_of_isLetter (letters _ List.mem_cons_self)))
      (fun x mem => letters x (List.mem_cons_of_mem _ mem)) fun x mem => by rw [separated x mem]; decide⟩
    rw [← bytes, asciiText_wordBytes ascii]
  | digits numeral =>
    have ascii := (ScanWord.digits numeral).ascii
    unfold Keyword.isNumeral at numeral
    simp only [Bool.and_eq_true, List.all_eq_true, Bool.not_eq_true', List.isEmpty_eq_false_iff] at numeral
    obtain ⟨ch, chs, chars⟩ := List.exists_cons_of_ne_nil numeral.1
    have digits : ∀ x ∈ wordBytes w, ByteClass.isDigit x = true := by
      intro x mem
      obtain ⟨ch', mem', rfl⟩ := List.mem_map.1 mem
      have digit := Char.isDigit_iff_toNat.1 (numeral.2 ch' mem')
      have zero : '0'.toNat = 48 := rfl
      have nine : '9'.toNat = 57 := rfl
      rw [ByteClass.isDigit_ofNat (by omega)]
      omega
    have bytes : wordBytes w = UInt8.ofNat ch.toNat :: chs.map fun ch => UInt8.ofNat ch.toNat := by
      rw [wordBytes, chars, List.map_cons]
    rw [bytes] at digits ⊢
    refine ⟨_, ?_, by simp, scanFrom_textRun (fun rest => scanFrom_digit
      (ByteClass.ofByte_of_isDigit (digits _ List.mem_cons_self)))
      (fun x mem => digits x (List.mem_cons_of_mem _ mem)) fun x mem => by rw [separated x mem]; decide⟩
    rw [← bytes, asciiText_wordBytes ascii]
  | brace braces =>
    refine ⟨⟨.brace, w, c.position⟩, rfl, by simp, ?_⟩
    rcases braces with rfl | rfl
    · exact scanFrom_braceWord 123 rfl (by decide) (by decide)
    · exact scanFrom_braceWord 125 rfl (by decide) (by decide)
  | piece mem =>
    refine ⟨⟨.text, w, c.position⟩, rfl, by simp, ?_⟩
    simp only [List.mem_cons, List.not_mem_nil, or_false] at mem
    rcases mem with rfl | rfl | rfl | rfl | rfl
    · exact scanFrom_pieceWord 91 [] rfl (by decide) rfl (by decide) (by decide) separated
    · exact scanFrom_pieceWord 93 [] rfl (by decide) rfl (by decide) (by decide) separated
    · exact scanFrom_pieceWord 58 [] rfl (by decide) rfl (by decide) (by decide) separated
    · exact scanFrom_pieceWord 44 [] rfl (by decide) rfl (by decide) (by decide) separated
    · exact scanFrom_pieceWord 61 [62] rfl (by decide) rfl (by decide) (by decide) separated

theorem scanFrom_spaced (ws : List String) (words : ∀ w ∈ ws, ScanWord w) (c : Cursor) :
    ∃ ts, scanFrom c (spacedBytes ws) = .ok ts ∧ ts.map Token.value = ws ∧
      ∀ t ∈ ts, t.kind ≠ .operator := by
  induction ws generalizing c with
  | nil => exact ⟨[], scanFrom_nil c, rfl, by simp⟩
  | cons w ws ih =>
    have word := words w List.mem_cons_self
    cases ws with
    | nil =>
      have atEnd : ∀ x ∈ ([] : List UInt8).head?, x = 32 := by simp
      obtain ⟨t, value, kind, scanned⟩ := scanFrom_word word c atEnd
      refine ⟨[t], ?_, by simp [value], by simpa using kind⟩
      rw [spacedBytes, List.map_singleton, List.intercalate_singleton, ← List.append_nil (wordBytes w),
        scanned, scanFrom_nil]
      rfl
    | cons w' ws =>
      have bytes : spacedBytes (w :: w' :: ws) = wordBytes w ++ 32 :: spacedBytes (w' :: ws) := by
        simp [spacedBytes, List.intercalate_cons_cons]
      have spaced : ∀ x ∈ (32 :: spacedBytes (w' :: ws)).head?, x = 32 := by simp
      obtain ⟨t, value, kind, scanned⟩ := scanFrom_word word c spaced
      obtain ⟨ts, restScanned, values, kinds⟩ :=
        ih (fun v mem => words v (List.mem_cons_of_mem _ mem)) ((c.advance (wordBytes w)).step 32)
      refine ⟨t :: ts, ?_, by simp [value, values], ?_⟩
      · rw [bytes, scanned, scanFrom_blank (by decide), restScanned]
        rfl
      · intro u mem
        rcases List.mem_cons.1 mem with rfl | later
        · exact kind
        · exact kinds u later

/-! ### The bytes of a line of ASCII words -/

theorem byteArray_toList_eq_data (bs : ByteArray) : bs.toList = bs.data.toList := by
  unfold ByteArray.toList
  suffices ∀ i r, ByteArray.toList.loop bs i r = r.reverse ++ bs.data.toList.drop i by
    simpa using this 0 []
  intro i r
  -- The loop conses the bytes before `i` onto `r` in reverse; what is left to read is the rest.
  fun_induction ByteArray.toList.loop bs i r with
  | case1 i r inside ih =>
    have bound : i < bs.data.toList.length := by simpa using inside
    rw [ih, List.reverse_cons, List.append_assoc, List.drop_eq_getElem_cons bound]
    simp [ByteArray.get!, getElem!_pos bs.data i (by simpa using inside)]
  | case2 i r outside =>
    have beyond : bs.data.toList.length ≤ i := by simpa using outside
    rw [List.drop_eq_nil_of_le beyond, List.append_nil]

theorem flatMap_utf8EncodeChar {chars : List Char} (ascii : ∀ ch ∈ chars, ch.toNat < 128) :
    chars.flatMap String.utf8EncodeChar = chars.map fun ch => UInt8.ofNat ch.toNat := by
  induction chars with
  | nil => rfl
  | cons ch chs ih =>
    have small : ch.toNat ≤ 127 := by
      have := ascii ch List.mem_cons_self
      omega
    rw [List.flatMap_cons, List.map_cons, ih fun x mem => ascii x (List.mem_cons_of_mem _ mem)]
    simp [String.utf8EncodeChar, small]

theorem flatMap_intercalate {α β : Type} (f : α → List β) (sep : List α) (ls : List (List α)) :
    (sep.intercalate ls).flatMap f = (sep.flatMap f).intercalate (ls.map (List.flatMap f)) := by
  induction ls with
  | nil => rfl
  | cons l ls ih =>
    cases ls with
    | nil => simp
    | cons l' ls =>
      rw [List.intercalate_cons_cons, List.map_cons, List.map_cons, List.intercalate_cons_cons,
        List.flatMap_append, List.flatMap_append, ih, List.map_cons]

theorem toUTF8_eq_wordBytes {w : String} (ascii : IsAscii w) : w.toUTF8.toList = wordBytes w := by
  rw [byteArray_toList_eq_data, String.toUTF8_eq_toByteArray, ← String.utf8Encode_toList,
    List.utf8Encode, List.toList_data_toByteArray, flatMap_utf8EncodeChar ascii]
  rfl

theorem toUTF8_intercalate (ws : List String) (ascii : ∀ w ∈ ws, IsAscii w) :
    (" ".intercalate ws).toUTF8.toList = spacedBytes ws := by
  rw [byteArray_toList_eq_data, String.toUTF8_eq_toByteArray, ← String.utf8Encode_toList,
    List.utf8Encode, List.toList_data_toByteArray, String.toList_intercalate, flatMap_intercalate,
    List.map_map, spacedBytes]
  have words : ∀ w ∈ ws, (List.flatMap String.utf8EncodeChar ∘ String.toList) w = wordBytes w :=
    fun w mem => flatMap_utf8EncodeChar (ascii w mem)
  rw [List.map_congr_left words]
  rfl

end Circuitry
