import Circuitry.Settings.Scalar
import Mathlib.Data.String.Basic
import Mathlib.Data.List.TakeWhile

/-!
# Lists and tables set from one text

A list of texts is set from its items joined by commas, and a table of texts from its
`key=value` pairs joined by commas. Reading such a text gives back what was written when no
item, key or value holds a comma, no key holds `=`, no item or key is empty, and nothing has
white space at either end: the list holds the items in order, and the table maps each key to
the value of the last pair with that key and holds no other key (`Kind.ofText_joined`). A value
may be empty or hold `=`, since a pair is cut at its first `=` only.

Splitting a text at one character is splitting its list of characters (`splitOn_singleton`),
so the list lemmas on splitting and joining apply to texts.
-/

namespace Circuitry
namespace Text

/-! ### Splitting a text at one character -/

open String in
theorem splitOnAux_singleton (c : Char) (l m r : List Char) (acc : List String) :
    splitOnAux (ofList (l ++ m ++ r)) (String.singleton c) ⟨utf8Len l⟩ ⟨utf8Len l + utf8Len m⟩ 0 acc =
      acc.reverse ++ (List.splitOnPPrepend (· == c) r m.reverse).map ofList := by
  -- The same walk as splitting by a predicate: with a separator of one character the match
  -- under way is always empty, so each character either ends a part or joins it.
  induction r generalizing l m acc with
  | nil =>
    unfold splitOnAux
    simp only [List.append_nil, atEnd_iff, rawEndPos_ofList, utf8Len_append, Pos.Raw.mk_le_mk, le_refl,
      ↓reduceIte]
    simpa using extract_of_valid l m []
  | cons d r ih =>
    unfold splitOnAux
    have notEnd : Pos.Raw.atEnd (ofList (l ++ m ++ d :: r)) ⟨utf8Len l + utf8Len m⟩ = false := by
      rw [Bool.eq_false_iff, ne_eq, atEnd_iff]
      simp only [rawEndPos_ofList, utf8Len_append, utf8Len_cons, Pos.Raw.mk_le_mk]
      have := d.utf8Size_pos
      omega
    have getD : Pos.Raw.get (ofList (l ++ m ++ d :: r)) ⟨utf8Len l + utf8Len m⟩ = d := by
      simpa [utf8Len_append] using get_of_valid (l ++ m) (d :: r)
    have nextD : Pos.Raw.next (ofList (l ++ m ++ d :: r)) ⟨utf8Len l + utf8Len m⟩ =
        ⟨utf8Len l + utf8Len m + d.utf8Size⟩ := by
      simpa [utf8Len_append] using next_of_valid (l ++ m) d r
    have getC : Pos.Raw.get (String.singleton c) 0 = c := by
      simpa using get_of_valid [] [c]
    have nextC : Pos.Raw.next (String.singleton c) 0 = ⟨c.utf8Size⟩ := by
      simpa using next_of_valid [] c []
    have endC : Pos.Raw.atEnd (String.singleton c) ⟨c.utf8Size⟩ = true := by
      rw [atEnd_iff, singleton_eq_ofList, rawEndPos_ofList]
      simp
    have extractM : Pos.Raw.extract (ofList (l ++ m ++ d :: r)) ⟨utf8Len l⟩ ⟨utf8Len l + utf8Len m⟩ =
        ofList m := by
      simpa using extract_of_valid l m (d :: r)
    simp only [notEnd, getD, getC, nextD, nextC, endC, Bool.false_eq_true, if_false, if_true]
    by_cases hit : d = c
    · subst hit
      simp only [beq_self_eq_true, if_true, Pos.Raw.unoffsetBy, Nat.add_sub_cancel, extractM]
      simpa [Nat.add_assoc, List.splitOnPPrepend_cons_eq_if] using ih (l ++ m ++ [d]) [] (ofList m :: acc)
    · simp only [beq_iff_eq, hit, if_false, Pos.Raw.unoffsetBy_zero, nextD]
      simpa [Nat.add_assoc, List.splitOnPPrepend_cons_eq_if, hit] using ih l (m ++ [d]) acc

theorem splitOn_singleton (s : String) (c : Char) :
    s.splitOn (String.singleton c) = (s.toList.splitOn c).map String.ofList := by
  have whole := splitOnAux_singleton c [] [] s.toList []
  simp only [List.nil_append, String.ofList_toList, String.utf8Len_nil, Nat.add_zero, List.reverse_nil,
    List.splitOnPPrepend_nil_right] at whole
  unfold String.splitOn
  rw [if_neg (by simp [← String.toList_inj]), List.splitOn_eq_splitOnP]
  exact whole

theorem splitOn_intercalate_singleton (c : Char) (xs : List String) (free : ∀ x ∈ xs, c ∉ x.toList) :
    ((String.singleton c).intercalate xs).splitOn (String.singleton c) = if xs = [] then [""] else xs := by
  rw [splitOn_singleton, String.toList_intercalate, String.toList_singleton]
  split
  · rename_i empty
    subst empty
    rfl
  · rename_i nonempty
    rw [List.splitOn_intercalate c (by simpa using free) (by simpa using nonempty)]
    simp

/-! ### Trimming -/

/-- A text with no white space at either end. -/
def Unpadded (s : String) : Prop :=
  (s.toList.head?.all fun c => !isSpace c) = true ∧ (s.toList.getLast?.all fun c => !isSpace c) = true

instance (s : String) : Decidable (Unpadded s) := instDecidableAnd

theorem dropWhile_isSpace {cs : List Char} (solid : (cs.head?.all fun c => !isSpace c) = true) :
    cs.dropWhile isSpace = cs := by
  cases cs with
  | nil => rfl
  | cons c rest => exact List.dropWhile_cons_of_neg (by simpa using solid)

theorem Unpadded.head {s : String} {c : Char} (unpadded : Unpadded s) (head : s.toList.head? = some c) :
    isSpace c = false := by
  have solid := unpadded.1
  rw [head] at solid
  simpa using solid

theorem trimSpace_of_unpadded {s : String} (unpadded : Unpadded s) : trimSpace s = s := by
  have back : (s.toList.reverse.head?.all fun c => !isSpace c) = true := by
    rw [List.head?_reverse]
    exact unpadded.2
  rw [trimSpace, trimSpaceChars, dropWhile_isSpace unpadded.1, dropWhile_isSpace back, List.reverse_reverse,
    String.ofList_toList]

theorem trimSpace_ne_empty {s : String} {c : Char} (head : s.toList.head? = some c) (solid : isSpace c = false) :
    trimSpace s ≠ "" := by
  obtain ⟨rest, whole⟩ : ∃ rest, s.toList = c :: rest := by
    cases h : s.toList with
    | nil => rw [h] at head; cases head
    | cons d rest =>
      rw [h] at head
      cases head
      exact ⟨rest, rfl⟩
  rw [trimSpace, trimSpaceChars, whole, List.dropWhile_cons_of_neg (by simp [solid]), Ne,
    String.ofList_eq_empty_iff, List.reverse_eq_nil_iff]
  intro gone
  have kept := List.dropWhile_eq_nil_iff.1 gone c (by simp)
  simp [solid] at kept

end Text

namespace Settings

/-! ### Lists -/

/-- An item a list text can hold: not empty, without a comma, and without white space at either
end. -/
structure ListItem (x : String) : Prop where
  nonempty : x ≠ ""
  noComma : ',' ∉ x.toList
  unpadded : Text.Unpadded x

theorem Kind.ofText_textList (s : String) :
    Kind.ofText (.list .text) s = .ok (.list (some ((listParts s).map Value.text)) []) := rfl

theorem listParts_joined (xs : List String) (items : ∀ x ∈ xs, ListItem x) :
    listParts (",".intercalate xs) = xs := by
  have split := Text.splitOn_intercalate_singleton ',' xs fun x hx => (items x hx).noComma
  rw [listParts, show "," = String.singleton ',' from rfl, split]
  split
  · rename_i empty
    subst empty
    rfl
  · have trimmed : xs.map Text.trimSpace = xs :=
      (List.map_congr_left fun x hx => Text.trimSpace_of_unpadded (items x hx).unpadded).trans (List.map_id xs)
    rw [trimmed, List.filter_eq_self]
    intro x hx
    simpa [String.isEmpty_iff] using (items x hx).nonempty

/-! ### Tables -/

/-- A pair a table text can hold: a key that is not empty and holds neither a comma nor `=`, a
value without a comma, and neither with white space at either end. -/
structure TablePair (p : String × String) : Prop where
  keyNonempty : p.1 ≠ ""
  keyNoComma : ',' ∉ p.1.toList
  keyNoEquals : '=' ∉ p.1.toList
  valueNoComma : ',' ∉ p.2.toList
  keyUnpadded : Text.Unpadded p.1
  valueUnpadded : Text.Unpadded p.2

def pairText (p : String × String) : String := p.1 ++ "=" ++ p.2

theorem pairText_toList (p : String × String) : (pairText p).toList = p.1.toList ++ '=' :: p.2.toList := by
  simp [pairText]

theorem splitPair_pairText {p : String × String} (noEquals : '=' ∉ p.1.toList) :
    splitPair (pairText p) = some p := by
  obtain ⟨first, rest, parts⟩ : ∃ first rest, p.2.toList.splitOn '=' = first :: rest :=
    List.exists_cons_of_ne_nil (List.splitOn_ne_nil _ _)
  have split : (pairText p).splitOn "=" = p.1 :: String.ofList first :: rest.map String.ofList := by
    rw [show "=" = String.singleton '=' from rfl, Text.splitOn_singleton, pairText_toList,
      List.splitOn_append_cons_self_of_not_mem noEquals, parts]
    simp
  have value : "=".intercalate (String.ofList first :: rest.map String.ofList) = p.2 := by
    have whole : ['='].intercalate (p.2.toList.splitOn '=') = p.2.toList := List.intercalate_splitOn '='
    rw [← String.toList_inj, String.toList_intercalate, ← whole, parts]
    simp
  rw [splitPair, split]
  dsimp only
  rw [value]

theorem tableEntries_pairTexts (entries : List (Value × Value)) (pairs : List (String × String))
    (written : ∀ p ∈ pairs, TablePair p) :
    tableEntries (Kind.ofText .text) entries (pairs.map pairText) =
      .ok (pairs.foldl (fun acc p => putEntry acc (.text p.1) (.text p.2)) entries) := by
  induction pairs generalizing entries with
  | nil => rfl
  | cons p ps ih =>
    have pair := written p List.mem_cons_self
    obtain ⟨c, t, key⟩ : ∃ c t, p.1.toList = c :: t :=
      List.exists_cons_of_ne_nil fun empty => pair.keyNonempty (by rw [← String.toList_inj, empty]; rfl)
    have keySolid : Text.isSpace c = false := pair.keyUnpadded.head (by rw [key]; rfl)
    have filled : (Text.trimSpace (pairText p)).isEmpty = false := by
      rw [Bool.eq_false_iff, ne_eq, String.isEmpty_iff]
      exact Text.trimSpace_ne_empty (by rw [pairText_toList, key]; rfl) keySolid
    have keyKept : Text.trimSpace p.1 = p.1 := Text.trimSpace_of_unpadded pair.keyUnpadded
    have keyFilled : p.1.isEmpty = false := by
      rw [Bool.eq_false_iff, ne_eq, String.isEmpty_iff]
      exact pair.keyNonempty
    have valueKept : Text.trimSpace p.2 = p.2 := Text.trimSpace_of_unpadded pair.valueUnpadded
    rw [List.map_cons, tableEntries, if_neg (by simp [filled]), splitPair_pairText pair.keyNoEquals]
    simp only [keyKept, keyFilled, valueKept, Bool.false_eq_true, if_false]
    exact ih _ fun q hq => written q (List.mem_cons_of_mem p hq)

def textEntries (t : List (String × String)) : List (Value × Value) := t.map fun e => (.text e.1, .text e.2)

theorem lookup_replace (t : List (String × String)) (k v key : String) :
    (t.map fun e => if e.1 = k then (k, v) else e).lookup key =
      if key = k then (if k ∈ t.map (·.1) then some v else none) else t.lookup key := by
  induction t with
  | nil => split <;> simp
  | cons e rest ih =>
    obtain ⟨a, b⟩ := e
    by_cases found : key = a
    · subst found
      by_cases same : key = k
      · subst same
        simp
      · simp [same]
    · have apart : (key == a) = false := beq_eq_false_iff_ne.2 found
      by_cases same : a = k
      · subst same
        simp [List.lookup_cons, apart, found, ih]
      · have head : (if a = k then (k, v) else (a, b)) = (a, b) := if_neg same
        have member : k ∈ ((a, b) :: rest).map (·.1) ↔ k ∈ rest.map (·.1) := by
          rw [List.map_cons, List.mem_cons, or_iff_right (Ne.symm same)]
        rw [List.map_cons, head, List.lookup_cons, List.lookup_cons, apart, ih]
        simp only [member]

theorem lookup_of_not_mem {t : List (String × String)} {k : String} (absent : k ∉ t.map (·.1)) :
    t.lookup k = none := by
  rw [List.lookup_eq_none_iff]
  intro p member
  rw [bne_iff_ne]
  intro same
  exact absent (List.mem_map.2 ⟨p, member, same.symm⟩)

theorem textEntries_any_sameKey (t : List (String × String)) (k : String) :
    ((textEntries t).any fun e => e.1.sameKey (.text k)) = decide (k ∈ t.map (·.1)) := by
  have texts : ((textEntries t).any fun e => e.1.sameKey (.text k)) = t.any fun e => e.1 == k := by
    rw [textEntries, List.any_map]
    rfl
  rw [texts, Bool.eq_iff_iff, List.any_eq_true, decide_eq_true_iff, List.mem_map]
  constructor
  · rintro ⟨e, member, hit⟩
    exact ⟨e, member, beq_iff_eq.1 hit⟩
  · rintro ⟨e, member, hit⟩
    exact ⟨e, member, beq_iff_eq.2 hit⟩

theorem putEntry_textEntries_of_mem {t : List (String × String)} {k : String} (present : k ∈ t.map (·.1))
    (v : String) :
    putEntry (textEntries t) (.text k) (.text v) =
      textEntries (t.map fun e => if e.1 = k then (k, v) else e) := by
  rw [putEntry, textEntries_any_sameKey, decide_eq_true present, if_pos rfl, textEntries, textEntries,
    List.map_map, List.map_map]
  refine List.map_congr_left fun e _ => ?_
  by_cases same : e.1 = k <;> simp [Value.sameKey, same]

theorem putEntry_textEntries_of_not_mem {t : List (String × String)} {k : String}
    (absent : k ∉ t.map (·.1)) (v : String) :
    putEntry (textEntries t) (.text k) (.text v) = textEntries (t ++ [(k, v)]) := by
  rw [putEntry, textEntries_any_sameKey, decide_eq_false absent, if_neg Bool.false_ne_true]
  simp [textEntries]

theorem putEntry_textEntries (t : List (String × String)) (distinct : (t.map (·.1)).Nodup) (k v : String) :
    ∃ t', putEntry (textEntries t) (.text k) (.text v) = textEntries t' ∧ (t'.map (·.1)).Nodup ∧
      ∀ key, t'.lookup key = ((k, v) :: t).lookup key := by
  by_cases present : k ∈ t.map (·.1)
  · refine ⟨_, putEntry_textEntries_of_mem present v, ?_, fun key => ?_⟩
    · have keys : (t.map fun e => if e.1 = k then (k, v) else e).map (·.1) = t.map (·.1) := by
        rw [List.map_map]
        refine List.map_congr_left fun e _ => ?_
        by_cases same : e.1 = k <;> simp [same]
      rw [keys]
      exact distinct
    · rw [lookup_replace, List.lookup_cons]
      by_cases same : key = k
      · simp [same, present]
      · simp [beq_eq_false_iff_ne.2 same, same]
  · refine ⟨_, putEntry_textEntries_of_not_mem present v, ?_, fun key => ?_⟩
    · rw [List.map_append, List.nodup_append]
      refine ⟨distinct, by simp, fun a member b other same => present ?_⟩
      rw [List.map_cons, List.map_nil, List.mem_singleton] at other
      obtain rfl : a = k := same.trans other
      exact member
    · rw [List.lookup_append, List.lookup_cons, List.lookup_cons]
      by_cases same : key = k
      · subst same
        simp [lookup_of_not_mem present]
      · simp [beq_eq_false_iff_ne.2 same]

theorem foldl_putEntry_textEntries (pairs t : List (String × String)) (distinct : (t.map (·.1)).Nodup) :
    ∃ t', pairs.foldl (fun acc p => putEntry acc (.text p.1) (.text p.2)) (textEntries t) = textEntries t' ∧
      (t'.map (·.1)).Nodup ∧ ∀ key, t'.lookup key = (pairs.reverse ++ t).lookup key := by
  induction pairs generalizing t with
  | nil => exact ⟨t, rfl, distinct, fun key => rfl⟩
  | cons p ps ih =>
    obtain ⟨t₁, put, distinct₁, found₁⟩ := putEntry_textEntries t distinct p.1 p.2
    obtain ⟨t', fold, distinct', found'⟩ := ih t₁ distinct₁
    refine ⟨t', ?_, distinct', fun key => ?_⟩
    · rw [List.foldl_cons, put, fold]
    · rw [found', List.reverse_cons, List.append_assoc, List.lookup_append, List.lookup_append, found₁]
      rfl

theorem Kind.ofText_textTable (elem : Kind) (s : String) :
    Kind.ofText (.table .text elem) s =
      match tableEntries (Kind.ofText elem) [] (s.splitOn ",") with
      | .ok entries => .ok (.table (some entries))
      | .error e => .error e := rfl

/-- Texts of items, or of `key=value` pairs, joined by commas read back as what was joined: a list
text holds the items in order; a table text holds a table of text entries with distinct keys in
which each key finds the value of its last pair and no other key is found. -/
theorem Kind.ofText_joined :
    (∀ xs : List String, (∀ x ∈ xs, ListItem x) →
      Kind.ofText (.list .text) (",".intercalate xs) = .ok (.list (some (xs.map .text)) [])) ∧
    (∀ pairs : List (String × String), (∀ p ∈ pairs, TablePair p) →
      ∃ table : List (String × String),
        Kind.ofText (.table .text .text) (",".intercalate (pairs.map pairText)) =
          .ok (.table (some (textEntries table))) ∧
        (table.map (·.1)).Nodup ∧ ∀ key, table.lookup key = pairs.reverse.lookup key) := by
  refine ⟨fun xs items => ?_, fun pairs written => ?_⟩
  · rw [Kind.ofText_textList, listParts_joined xs items]
  · obtain ⟨table, fold, distinct, found⟩ := foldl_putEntry_textEntries pairs [] List.nodup_nil
    refine ⟨table, ?_, distinct, fun key => by rw [found, List.append_nil]⟩
    have noComma : ∀ x ∈ pairs.map pairText, ',' ∉ x.toList := by
      intro x member
      obtain ⟨p, inPairs, rfl⟩ := List.mem_map.1 member
      have pair := written p inPairs
      rw [pairText_toList, List.mem_append, List.mem_cons]
      rintro (inKey | isEquals | inValue)
      · exact pair.keyNoComma inKey
      · exact absurd isEquals (by decide)
      · exact pair.valueNoComma inValue
    have read : tableEntries (Kind.ofText .text) [] ((",".intercalate (pairs.map pairText)).splitOn ",") =
        .ok (textEntries table) := by
      rw [show "," = String.singleton ',' from rfl, Text.splitOn_intercalate_singleton ',' _ noComma]
      split
      · -- No pair: the empty text splits into one blank part, which is skipped.
        rename_i empty
        rw [List.map_eq_nil_iff] at empty
        subst empty
        rw [← fold]
        rfl
      · rw [tableEntries_pairTexts [] pairs written, ← fold]
        rfl
    rw [Kind.ofText_textTable, read]

/-- Two levels as a list, and three pairs as a table: a value may hold `=` or be empty, and the
later pair of a key wins. -/
theorem level_texts_read_back :
    Kind.ofText (.list .text) (",".intercalate ["HIGH", "LOW"]) = .ok (.list (some [.text "HIGH", .text "LOW"]) []) ∧
    ∃ table : List (String × String),
      Kind.ofText (.table .text .text) (",".intercalate ([("a", "HIGH"), ("b", "x=y"), ("a", "")].map pairText)) =
        .ok (.table (some (textEntries table))) ∧
      (table.map (·.1)).Nodup ∧ ∀ key, table.lookup key = [("a", ""), ("b", "x=y"), ("a", "HIGH")].lookup key :=
  ⟨Kind.ofText_joined.1 ["HIGH", "LOW"] (by
      intro x member
      simp only [List.mem_cons, List.not_mem_nil, or_false] at member
      rcases member with rfl | rfl
      · exact ⟨by decide, by decide, by decide⟩
      · exact ⟨by decide, by decide, by decide⟩),
    Kind.ofText_joined.2 [("a", "HIGH"), ("b", "x=y"), ("a", "")] (by
      intro p member
      simp only [List.mem_cons, List.not_mem_nil, or_false] at member
      rcases member with rfl | rfl | rfl
      · exact ⟨by decide, by decide, by decide, by decide, by decide, by decide⟩
      · exact ⟨by decide, by decide, by decide, by decide, by decide, by decide⟩
      · exact ⟨by decide, by decide, by decide, by decide, by decide, by decide⟩)⟩

end Settings
end Circuitry
