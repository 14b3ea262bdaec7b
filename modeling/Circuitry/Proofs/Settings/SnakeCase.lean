import Circuitry.Settings.Schema
import Mathlib.Data.List.TakeWhile
import Mathlib.Data.List.Chain

/-!
# Field names in snake case

A field name in camel case is a run of words: a capitalised word (`Server`, `Log2`), an acronym
(`HTTP`, `ID`, `V2`) or, first only, a lower-case word (`level`). Where no acronym follows
another, `snakeCase` finds the words again and writes them in lower case joined by `_`
(`snakeCase_words`).

A capital starts a word after a character that is no capital, and after a capital when a small
letter follows it. So a capitalised word starts a word wherever it stands, an acronym starts one
after a small letter or a digit, and within a word no capital after the first starts one: inside
an acronym the next character is a capital or a digit, and after its last capital comes a digit,
the end, or the capital that starts the next word.

The proof walks the name word by word: a word, followed by characters that do not start with a
small letter, is written in lower case, after a `_` when a character came before it
(`snakeChars_capitalised`, `snakeChars_acronym`, `snakeChars_lowerWord`).
-/

namespace Circuitry
namespace Settings

/-! ### Kinds of characters and words -/

theorem isUpperAscii_iff (c : Char) : isUpperAscii c = true ↔ 65 ≤ c.toNat ∧ c.toNat ≤ 90 := by
  simp only [isUpperAscii, Bool.and_eq_true, decide_eq_true_eq, Char.le_def, UInt32.le_iff_toNat_le]
  rfl

theorem isLowerAscii_iff (c : Char) : isLowerAscii c = true ↔ 97 ≤ c.toNat ∧ c.toNat ≤ 122 := by
  simp only [isLowerAscii, Bool.and_eq_true, decide_eq_true_eq, Char.le_def, UInt32.le_iff_toNat_le]
  rfl

theorem isDigit_iff (c : Char) : c.isDigit = true ↔ 48 ≤ c.toNat ∧ c.toNat ≤ 57 := by
  simp only [Char.isDigit, Bool.and_eq_true, decide_eq_true_eq, UInt32.le_iff_toNat_le]
  rfl

def isWordTail (c : Char) : Bool := isLowerAscii c || c.isDigit

theorem isUpperAscii_of_isWordTail {c : Char} (tail : isWordTail c = true) : isUpperAscii c = false := by
  rw [Bool.eq_false_iff, ne_eq, isUpperAscii_iff]
  rw [isWordTail, Bool.or_eq_true, isLowerAscii_iff, isDigit_iff] at tail
  omega

theorem isLowerAscii_of_isUpperAscii {c : Char} (capital : isUpperAscii c = true) : isLowerAscii c = false := by
  rw [Bool.eq_false_iff, ne_eq, isLowerAscii_iff]
  rw [isUpperAscii_iff] at capital
  omega

theorem isLowerAscii_of_isDigit {c : Char} (digit : c.isDigit = true) : isLowerAscii c = false := by
  rw [Bool.eq_false_iff, ne_eq, isLowerAscii_iff]
  rw [isDigit_iff] at digit
  omega

theorem isUpperAscii_of_isDigit {c : Char} (digit : c.isDigit = true) : isUpperAscii c = false :=
  isUpperAscii_of_isWordTail (by rw [isWordTail, digit, Bool.or_true])

theorem lowerChar_of_not_upper {c : Char} (small : isUpperAscii c = false) : lowerChar c = c := by
  rw [lowerChar, small, if_neg Bool.false_ne_true]

def isCapitalised (w : String) : Bool :=
  match w.toList with
  | c :: d :: rest => isUpperAscii c && isLowerAscii d && rest.all isWordTail
  | _ => false

def isAcronym (w : String) : Bool :=
  !(w.toList.takeWhile isUpperAscii).isEmpty && (w.toList.dropWhile isUpperAscii).all Char.isDigit

def isLowerWord (w : String) : Bool :=
  match w.toList with
  | c :: rest => isLowerAscii c && rest.all isWordTail
  | [] => false

/-- Words that spell a name in camel case: the first of any of the three kinds, every later one
capitalised or an acronym, and no acronym right after another. -/
structure CamelWords (ws : List String) : Prop where
  words : ∀ w ∈ ws, isLowerWord w || isCapitalised w || isAcronym w
  later : ∀ w ∈ ws.tail, isCapitalised w || isAcronym w
  apart : ws.IsChain fun a b => !(isAcronym a && isAcronym b)

theorem isCapitalised_spelled {w : String} (capitalised : isCapitalised w = true) :
    ∃ c d rest, w.toList = c :: d :: rest ∧ isUpperAscii c = true ∧ isLowerAscii d = true ∧
      ∀ x ∈ rest, isWordTail x = true := by
  unfold isCapitalised at capitalised
  split at capitalised
  · rename_i c d rest spelled
    simp only [Bool.and_eq_true, List.all_eq_true] at capitalised
    exact ⟨c, d, rest, spelled, capitalised.1.1, capitalised.1.2, capitalised.2⟩
  · cases capitalised

theorem isAcronym_spelled {w : String} (acronym : isAcronym w = true) :
    ∃ u us ds, w.toList = u :: us ++ ds ∧ isUpperAscii u = true ∧ (∀ x ∈ us, isUpperAscii x = true) ∧
      ∀ x ∈ ds, x.isDigit = true := by
  rw [isAcronym, Bool.and_eq_true, Bool.not_eq_true', List.isEmpty_eq_false_iff, List.all_eq_true] at acronym
  obtain ⟨capitals, digits⟩ := acronym
  obtain ⟨u, us, front⟩ := List.exists_cons_of_ne_nil capitals
  have upper : ∀ x ∈ u :: us, isUpperAscii x = true := fun x member =>
    List.mem_takeWhile_imp (front ▸ member)
  refine ⟨u, us, w.toList.dropWhile isUpperAscii, ?_, upper u List.mem_cons_self,
    fun x member => upper x (List.mem_cons_of_mem u member), digits⟩
  rw [← front, List.takeWhile_append_dropWhile]

theorem isLowerWord_spelled {w : String} (lowerWord : isLowerWord w = true) :
    ∃ c rest, w.toList = c :: rest ∧ isLowerAscii c = true ∧ ∀ x ∈ rest, isWordTail x = true := by
  unfold isLowerWord at lowerWord
  split at lowerWord
  · rename_i c rest spelled
    simp only [Bool.and_eq_true, List.all_eq_true] at lowerWord
    exact ⟨c, rest, spelled, lowerWord.1, lowerWord.2⟩
  · cases lowerWord

/-! ### Writing a word -/

def startsSmall (cs : List Char) : Bool := (cs.head?.map isLowerAscii).getD false

theorem lower_toList (w : String) : (lower w).toList = w.toList.map lowerChar := String.toList_ofList

theorem map_lowerChar_of_quiet {xs : List Char} (quiet : ∀ x ∈ xs, isUpperAscii x = false) :
    xs.map lowerChar = xs :=
  (List.map_congr_left fun x member => lowerChar_of_not_upper (quiet x member)).trans (List.map_id xs)

theorem getLast?_cons_or (a : Char) (l : List Char) : (a :: l).getLast? = l.getLast?.or (some a) := by
  rw [List.getLast?_cons]
  cases l.getLast? <;> rfl

theorem snakeChars_quiet (prev : Option Char) (xs rest : List Char) (quiet : ∀ x ∈ xs, isUpperAscii x = false) :
    snakeChars prev (xs ++ rest) = xs ++ snakeChars (xs.getLast?.or prev) rest := by
  induction xs generalizing prev with
  | nil => rfl
  | cons x xs ih =>
    have small := quiet x List.mem_cons_self
    have written : snakeChars prev (x :: (xs ++ rest)) = x :: snakeChars (some x) (xs ++ rest) := by
      cases prev <;> simp [snakeChars, small, lowerChar_of_not_upper small]
    rw [List.cons_append, written, ih (some x) fun y member => quiet y (List.mem_cons_of_mem x member),
      getLast?_cons_or]
    cases xs.getLast? <;> rfl

theorem snakeChars_capitals (p : Char) (us rest : List Char) (capital : isUpperAscii p = true)
    (capitals : ∀ x ∈ us, isUpperAscii x = true) (next : startsSmall rest = false) :
    snakeChars (some p) (us ++ rest) = us.map lowerChar ++ snakeChars (us.getLast?.or (some p)) rest := by
  induction us generalizing p with
  | nil => rfl
  | cons u us ih =>
    have upper := capitals u List.mem_cons_self
    have others : ∀ x ∈ us, isUpperAscii x = true := fun x member => capitals x (List.mem_cons_of_mem u member)
    have following : startsSmall (us ++ rest) = false := by
      cases us with
      | nil => exact next
      | cons v vs => exact isLowerAscii_of_isUpperAscii (others v List.mem_cons_self)
    have written : snakeChars (some p) (u :: (us ++ rest)) = lowerChar u :: snakeChars (some u) (us ++ rest) := by
      simp only [snakeChars, upper, capital, Bool.not_true, Bool.false_or, Bool.true_and]
      rw [show (((us ++ rest).head?.map isLowerAscii).getD false) = false from following]
      rfl
    rw [List.cons_append, written, ih u upper others, getLast?_cons_or, List.map_cons, List.cons_append]
    cases us.getLast? <;> rfl

def separator (prev : Option Char) : List Char := if prev.isSome then ['_'] else []

@[simp] theorem separator_none : separator none = [] := rfl

theorem snakeChars_capitalised {prev : Option Char} {w : String} (rest : List Char)
    (capitalised : isCapitalised w = true) :
    snakeChars prev (w.toList ++ rest) = separator prev ++ (lower w).toList ++ snakeChars w.toList.getLast? rest := by
  obtain ⟨c, d, t, spelled, upper, small, tail⟩ := isCapitalised_spelled capitalised
  have quiet : ∀ x ∈ d :: t, isUpperAscii x = false := by
    intro x member
    rcases List.mem_cons.1 member with rfl | inTail
    · exact isUpperAscii_of_isWordTail (by rw [isWordTail, small, Bool.true_or])
    · exact isUpperAscii_of_isWordTail (tail x inTail)
  have first : snakeChars prev (c :: (d :: t ++ rest)) =
      separator prev ++ lowerChar c :: snakeChars (some c) (d :: t ++ rest) := by
    cases prev <;> simp [snakeChars, separator, upper, small]
  have last : (d :: t).getLast?.or (some c) = (c :: d :: t).getLast? := by
    rw [List.getLast?_cons_cons, List.getLast?_cons]
    rfl
  rw [spelled, lower_toList, spelled, List.cons_append, first, snakeChars_quiet _ _ _ quiet, last,
    List.map_cons, map_lowerChar_of_quiet quiet]
  simp

theorem snakeChars_acronym {prev : Option Char} {w : String} {rest : List Char}
    (acronym : isAcronym w = true) (after : ∀ p, prev = some p → isUpperAscii p = false)
    (next : startsSmall rest = false) :
    snakeChars prev (w.toList ++ rest) = separator prev ++ (lower w).toList ++ snakeChars w.toList.getLast? rest := by
  obtain ⟨u, us, ds, spelled, upper, capitals, digits⟩ := isAcronym_spelled acronym
  have quiet : ∀ x ∈ ds, isUpperAscii x = false := fun x member => isUpperAscii_of_isDigit (digits x member)
  have following : startsSmall (ds ++ rest) = false := by
    cases ds with
    | nil => exact next
    | cons e es => exact isLowerAscii_of_isDigit (digits e List.mem_cons_self)
  have first : snakeChars prev (u :: (us ++ (ds ++ rest))) =
      separator prev ++ lowerChar u :: snakeChars (some u) (us ++ (ds ++ rest)) := by
    cases prev with
    | none => rfl
    | some p => simp [snakeChars, separator, upper, after p rfl]
  have whole : w.toList ++ rest = u :: (us ++ (ds ++ rest)) := by
    rw [spelled]
    simp
  have lowered : (lower w).toList = lowerChar u :: (us.map lowerChar ++ ds) := by
    rw [lower_toList, spelled, List.map_append, List.map_cons, map_lowerChar_of_quiet quiet, List.cons_append]
  have last : w.toList.getLast? = ds.getLast?.or (us.getLast?.or (some u)) := by
    rw [spelled, List.getLast?_append, getLast?_cons_or]
  rw [whole, first, snakeChars_capitals u us _ upper capitals following, snakeChars_quiet _ _ _ quiet, lowered,
    last]
  simp

theorem snakeChars_lowerWord {prev : Option Char} {w : String} (rest : List Char)
    (lowerWord : isLowerWord w = true) :
    snakeChars prev (w.toList ++ rest) = (lower w).toList ++ snakeChars w.toList.getLast? rest := by
  obtain ⟨c, t, spelled, small, tail⟩ := isLowerWord_spelled lowerWord
  have quiet : ∀ x ∈ c :: t, isUpperAscii x = false := by
    intro x member
    rcases List.mem_cons.1 member with rfl | inTail
    · exact isUpperAscii_of_isWordTail (by rw [isWordTail, small, Bool.true_or])
    · exact isUpperAscii_of_isWordTail (tail x inTail)
  have last : (c :: t).getLast?.or prev = (c :: t).getLast? := by
    rw [List.getLast?_cons]
    rfl
  rw [spelled, lower_toList, spelled, snakeChars_quiet _ _ _ quiet, last, map_lowerChar_of_quiet quiet]

/-! ### Writing the words of a name -/

theorem word_head_capital {w : String} (kind : (isCapitalised w || isAcronym w) = true) :
    ∃ c t, w.toList = c :: t ∧ isUpperAscii c = true := by
  rcases Bool.or_eq_true _ _ ▸ kind with capitalised | acronym
  · obtain ⟨c, d, t, spelled, upper, -, -⟩ := isCapitalised_spelled capitalised
    exact ⟨c, d :: t, spelled, upper⟩
  · obtain ⟨u, us, ds, spelled, upper, -, -⟩ := isAcronym_spelled acronym
    exact ⟨u, us ++ ds, spelled, upper⟩

theorem startsSmall_later {ws : List String} (later : ∀ w ∈ ws, (isCapitalised w || isAcronym w) = true) :
    startsSmall (ws.flatMap String.toList) = false := by
  cases ws with
  | nil => rfl
  | cons w ws =>
    obtain ⟨c, t, spelled, upper⟩ := word_head_capital (later w List.mem_cons_self)
    rw [List.flatMap_cons, spelled, List.cons_append]
    exact isLowerAscii_of_isUpperAscii upper

theorem word_getLast? {w : String} (word : (isLowerWord w || isCapitalised w || isAcronym w) = true) :
    ∃ p, w.toList.getLast? = some p := by
  have nonempty : w.toList ≠ [] := by
    intro empty
    simp [isLowerWord, isCapitalised, isAcronym, empty] at word
  obtain ⟨c, t, spelled⟩ := List.exists_cons_of_ne_nil nonempty
  exact ⟨_, spelled ▸ List.getLast?_cons⟩

theorem last_of_small_head {x p : Char} {xs : List Char} (small : isLowerAscii x = true)
    (tail : ∀ y ∈ xs, isWordTail y = true) (last : (x :: xs).getLast? = some p) : isUpperAscii p = false := by
  rcases List.mem_cons.1 (List.mem_of_getLast? last) with rfl | inTail
  · exact isUpperAscii_of_isWordTail (by rw [isWordTail, small, Bool.true_or])
  · exact isUpperAscii_of_isWordTail (tail p inTail)

theorem last_not_upper {w : String} {p : Char} (kind : (isLowerWord w || isCapitalised w) = true)
    (last : w.toList.getLast? = some p) : isUpperAscii p = false := by
  rcases Bool.or_eq_true _ _ ▸ kind with lowerWord | capitalised
  · obtain ⟨c, t, spelled, small, tail⟩ := isLowerWord_spelled lowerWord
    exact last_of_small_head small tail (spelled ▸ last)
  · obtain ⟨c, d, t, spelled, -, small, tail⟩ := isCapitalised_spelled capitalised
    rw [spelled, List.getLast?_cons_cons] at last
    exact last_of_small_head small tail last

theorem snakeChars_later (w₀ : String) (ws : List String)
    (first : (isLowerWord w₀ || isCapitalised w₀ || isAcronym w₀) = true)
    (later : ∀ w ∈ ws, (isCapitalised w || isAcronym w) = true)
    (apart : (w₀ :: ws).IsChain fun a b => !(isAcronym a && isAcronym b)) :
    snakeChars w₀.toList.getLast? (ws.flatMap String.toList) = ws.flatMap fun w => '_' :: (lower w).toList := by
  -- Induction on the words: each is written after the last character of the one before it.
  induction ws generalizing w₀ with
  | nil => rfl
  | cons w ws ih =>
    obtain ⟨p, last⟩ := word_getLast? first
    have kind := later w List.mem_cons_self
    have others : ∀ v ∈ ws, (isCapitalised v || isAcronym v) = true :=
      fun v member => later v (List.mem_cons_of_mem w member)
    rw [List.isChain_cons_cons] at apart
    have written : snakeChars w₀.toList.getLast? (w.toList ++ ws.flatMap String.toList) =
        '_' :: ((lower w).toList ++ snakeChars w.toList.getLast? (ws.flatMap String.toList)) := by
      rw [last]
      rcases Bool.or_eq_true _ _ ▸ kind with capitalised | acronym
      · rw [snakeChars_capitalised _ capitalised]
        rfl
      · -- The word before an acronym is no acronym, so it ends in no capital.
        have notAcronym : isAcronym w₀ = false := by simpa [acronym] using apart.1
        have kind₀ : (isLowerWord w₀ || isCapitalised w₀) = true := by simpa [notAcronym] using first
        have after : ∀ q, some p = some q → isUpperAscii q = false := by
          rintro q ⟨⟩
          exact last_not_upper kind₀ last
        rw [snakeChars_acronym acronym after (startsSmall_later others)]
        rfl
    have word : (isLowerWord w || isCapitalised w || isAcronym w) = true := by
      rw [Bool.or_assoc, kind, Bool.or_true]
    rw [List.flatMap_cons, written, ih w word others apart.2, List.flatMap_cons, List.cons_append]

theorem intercalate_cons_flatMap (sep a : List Char) (l : List (List Char)) :
    sep.intercalate (a :: l) = a ++ l.flatMap (sep ++ ·) := by
  induction l generalizing a with
  | nil => simp
  | cons b l ih => rw [List.intercalate_cons_cons, ih b, List.flatMap_cons, List.append_assoc, List.append_assoc]

/-- A name spelled by camel-case words, no acronym right after another, is written as its words
in lower case joined by `_`. -/
theorem snakeCase_words (ws : List String) (camel : CamelWords ws) (nonempty : ws ≠ []) :
    snakeCase (String.join ws) = "_".intercalate (ws.map lower) := by
  obtain ⟨w, rest, rfl⟩ := List.exists_cons_of_ne_nil nonempty
  have first := camel.words w List.mem_cons_self
  have later : ∀ v ∈ rest, (isCapitalised v || isAcronym v) = true := camel.later
  have next := startsSmall_later later
  have opening : snakeChars none (w.toList ++ rest.flatMap String.toList) =
      separator none ++ (lower w).toList ++ snakeChars w.toList.getLast? (rest.flatMap String.toList) := by
    rcases Bool.or_eq_true _ _ ▸ first with lowerOrCapitalised | acronym
    · rcases Bool.or_eq_true _ _ ▸ lowerOrCapitalised with lowerWord | capitalised
      · rw [separator_none, List.nil_append]
        exact snakeChars_lowerWord _ lowerWord
      · exact snakeChars_capitalised _ capitalised
    · exact snakeChars_acronym acronym (fun q unset => absurd unset.symm (Option.some_ne_none q)) next
  rw [← String.toList_inj, snakeCase, String.toList_ofList, String.toList_join, List.flatMap_cons, opening,
    separator_none, List.nil_append, snakeChars_later w rest first later camel.apart, String.toList_intercalate, List.map_map, List.map_cons,
    intercalate_cons_flatMap]
  simp [Function.comp_def, List.flatMap_map]

/-- `maxHTTPServerV2`: a lower-case word, an acronym, a capitalised word and an acronym with a
digit. -/
theorem http_server_words :
    CamelWords ["max", "HTTP", "Server", "V2"] ∧ snakeCase "maxHTTPServerV2" = "max_http_server_v2" := by
  have camel : CamelWords ["max", "HTTP", "Server", "V2"] := ⟨by decide, by decide, by decide⟩
  have written := snakeCase_words _ camel (by simp)
  have joined : String.join ["max", "HTTP", "Server", "V2"] = "maxHTTPServerV2" := by decide
  have spelled : "_".intercalate (["max", "HTTP", "Server", "V2"].map lower) = "max_http_server_v2" := by decide
  rw [joined, spelled] at written
  exact ⟨camel, written⟩

end Settings
end Circuitry
