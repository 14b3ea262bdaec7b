import Circuitry.Proofs.Syntax.Spelling

/-!
# Reading printed tokens back

The parser reads the tokens of a well-formed program back to the program itself. The tokens
are those that scanning the printed source and classifying the result give: each carries one
word of `Program.words` and is marked as an operator exactly when its word is an operator word
(`Carries`); where they stand in the source does not matter to the parser.

Each reading function gets a lemma that it reads back what was printed, whatever tokens come
after it, by recursion on the printed tree. The operator chain of an expression is read as
printed and grouped back to the expression by `Chain.group_chain`.
-/

namespace Circuitry

namespace Keyword

/-- The reserved words, listed. -/
def reservedWords : List String :=
  punctuation ++ ["and", "nand", "or", "nor", "xor", "xnor", "=>", "component", "logic", "global",
    "public", "private", "pipeline", "input", "output", "wire"]

theorem mem_reservedWords {w : String} (reserved : isReserved w = true) : w ∈ reservedWords := by
  unfold isReserved isOperator isGate at reserved
  simp only [Bool.or_eq_true, Option.isSome_iff_exists, beq_iff_eq] at reserved
  rcases reserved with ((punct | ⟨g, gate⟩ | arrow) | ⟨k, keyword⟩) | ⟨d, datatype⟩
  · exact List.mem_append_left _ (by simpa using punct)
  · unfold Gate.ofWord? at gate
    split at gate <;> simp_all [reservedWords]
  · simp [reservedWords, arrow, connectWord]
  · rw [Parse.BlockKeyword.ofWord?_eq_some keyword]
    cases k <;> simp [reservedWords, BlockKeyword.word]
  · rw [Parse.Datatype.ofWord?_eq_some datatype]
    cases d <;> simp [reservedWords, Datatype.word]

theorem isReserved_of_isNumeral {w : String} (numeral : isNumeral w = true) : isReserved w = false := by
  cases reserved : isReserved w with
  | false => rfl
  | true =>
    have member := mem_reservedWords reserved
    have noNumeral : ∀ r ∈ reservedWords, isNumeral r = false := by decide
    rw [noNumeral w member] at numeral
    cases numeral

theorem ne_of_not_reserved {w r : String} (notReserved : isReserved w = false)
    (reserved : isReserved r = true) : w ≠ r := by
  rintro rfl
  rw [reserved] at notReserved
  cases notReserved

theorem isOperator_of_not_reserved {w : String} (notReserved : isReserved w = false) :
    isOperator w = false := by
  unfold isReserved at notReserved
  simp only [Bool.or_eq_false_iff] at notReserved
  exact notReserved.1.1.2

theorem ofWord?_of_not_reserved {w : String} (notReserved : isReserved w = false) :
    BlockKeyword.ofWord? w = none := by
  unfold isReserved at notReserved
  simp only [Bool.or_eq_false_iff, Option.isSome_eq_false_iff, Option.isNone_iff_eq_none] at notReserved
  exact notReserved.1.2

end Keyword

/-- What can start an operand: `[` or a word that is not reserved. Such a word is no closing
bracket, brace, comma or colon, no operator and no block keyword. -/
structure OperandLead (w : String) : Prop where
  notClose : w ≠ "]"
  notBrace : w ≠ "\x7d"
  notComma : w ≠ ","
  notColon : w ≠ ":"
  notOperator : Keyword.isOperator w = false
  notKeyword : BlockKeyword.ofWord? w = none

theorem OperandLead.of_not_reserved {w : String} (notReserved : Keyword.isReserved w = false) :
    OperandLead w where
  notClose := Keyword.ne_of_not_reserved notReserved (by decide)
  notBrace := Keyword.ne_of_not_reserved notReserved (by decide)
  notComma := Keyword.ne_of_not_reserved notReserved (by decide)
  notColon := Keyword.ne_of_not_reserved notReserved (by decide)
  notOperator := Keyword.isOperator_of_not_reserved notReserved
  notKeyword := Keyword.ofWord?_of_not_reserved notReserved

theorem OperandLead.bracket : OperandLead "[" where
  notClose := by decide
  notBrace := by decide
  notComma := by decide
  notColon := by decide
  notOperator := by decide
  notKeyword := by decide

theorem Expr.Operand.lead {x : Expr} (operand : x.Operand) : ∃ w ws, x.words = w :: ws ∧ OperandLead w := by
  cases x with
  | name id => exact ⟨id, [], rfl, .of_not_reserved operand.2⟩
  | numeral digits => exact ⟨digits, [], rfl, .of_not_reserved (Keyword.isReserved_of_isNumeral operand)⟩
  | array items => exact ⟨"[", _, rfl, .bracket⟩
  | binary => exact operand.elim

namespace Parse

def reading (t : Token) : Bool × String := (decide (t.kind = .operator), t.value)

def wordReading (w : String) : Bool × String := (Keyword.isOperator w, w)

/-- The tokens carry the words, one each, marked as operators as classification marks them. -/
def Carries (ts : List Token) (ws : List String) : Prop := ts.map reading = ws.map wordReading

theorem Carries.nil {ts : List Token} (carries : Carries ts []) : ts = [] := by
  simpa [Carries] using carries

theorem Carries.split {ts : List Token} {ws vs : List String} (carries : Carries ts (ws ++ vs)) :
    ∃ front back, ts = front ++ back ∧ Carries front ws ∧ Carries back vs := by
  unfold Carries at carries
  rw [List.map_append] at carries
  obtain ⟨front, back, rfl, frontCarries, backCarries⟩ := List.map_eq_append_iff.1 carries
  exact ⟨front, back, rfl, frontCarries, backCarries⟩

theorem Carries.append {ts us : List Token} {ws vs : List String} (front : Carries ts ws)
    (back : Carries us vs) : Carries (ts ++ us) (ws ++ vs) := by
  unfold Carries at *
  rw [List.map_append, List.map_append, front, back]

theorem Carries.uncons {ts : List Token} {w : String} {ws : List String} (carries : Carries ts (w :: ws)) :
    ∃ t more, ts = t :: more ∧ t.value = w ∧ (t.kind = .operator ↔ Keyword.isOperator w = true) ∧
      Carries more ws := by
  unfold Carries at carries
  rw [List.map_cons] at carries
  obtain ⟨t, more, rfl, same, moreCarries⟩ := List.map_eq_cons_iff.1 carries
  simp only [reading, wordReading, Prod.mk.injEq] at same
  refine ⟨t, more, rfl, same.2, ?_, moreCarries⟩
  rw [← same.1]
  simp

theorem Carries.single {ts : List Token} {w : String} (carries : Carries ts [w]) :
    ∃ t, ts = [t] ∧ t.value = w ∧ (t.kind = .operator ↔ Keyword.isOperator w = true) := by
  obtain ⟨t, more, rfl, value, kind, moreCarries⟩ := carries.uncons
  rw [moreCarries.nil]
  exact ⟨t, rfl, value, kind⟩

theorem is_of_value {t : Token} {w : String} (value : t.value = w) : t.is w = true := by
  simp [Token.is, value]

theorem not_is_of_value {t : Token} {w v : String} (value : t.value = w) (different : w ≠ v) :
    t.is v = false := by
  simp [Token.is, value, different]

theorem Carries.cons_iff {t : Token} {more : List Token} {w : String} {ws : List String} :
    Carries (t :: more) (w :: ws) ↔
      (t.value = w ∧ (t.kind = .operator ↔ Keyword.isOperator w = true)) ∧ Carries more ws := by
  simp only [Carries, List.map_cons, List.cons.injEq, reading, wordReading, Prod.mk.injEq]
  constructor
  · rintro ⟨⟨kind, value⟩, rest⟩
    exact ⟨⟨value, by rw [← kind]; simp⟩, rest⟩
  · rintro ⟨⟨value, kind⟩, rest⟩
    refine ⟨⟨?_, value⟩, rest⟩
    cases marked : Keyword.isOperator w <;> simp_all

end Parse

theorem Keyword.isDigit_of_isNameChar {c : Char} (letter : isNameChar c = true) : c.isDigit = false := by
  simp only [isNameChar, Bool.or_eq_true, Bool.and_eq_true, decide_eq_true_eq] at letter
  simp only [Char.isDigit, Bool.and_eq_false_iff, decide_eq_false_iff_not]
  simp only [Char.le_def, UInt32.le_iff_toNat_le] at letter ⊢
  rcases letter with (⟨lower, _⟩ | ⟨lower, _⟩) | underscore
  · right
    simp at lower ⊢
    omega
  · right
    simp at lower ⊢
    omega
  · subst underscore
    decide

theorem Keyword.isNumeral_of_isNameShaped {w : String} (shaped : isNameShaped w = true) :
    isNumeral w = false := by
  unfold isNameShaped at shaped
  unfold isNumeral
  cases chars : w.toList with
  | nil =>
    rw [chars] at shaped
    cases shaped
  | cons c cs =>
    rw [chars] at shaped
    simp only [List.isEmpty_cons, Bool.not_false, Bool.true_and, List.all_cons, Bool.and_eq_true] at shaped
    simp [isDigit_of_isNameChar shaped.1]

namespace Parse

theorem startsWith_of_value {t : Token} {more : List Token} {w : String} (value : t.value = w) :
    startsWith (t :: more) w = true :=
  is_of_value value

theorem dropComma_of_value {t : Token} {more : List Token} (value : t.value = ",") :
    dropComma (t :: more) = more := by
  simp [dropComma, is_of_value value]

mutual

theorem literal_reread : (x : Expr) → x.Operand → (t : Token) → (more rest : List Token) →
    Carries (t :: more) x.words → (literal t (more ++ rest)).read = .ok (x, rest)
  | .name id, operand, t, more, rest, carries => by
    obtain ⟨⟨rfl, _⟩, moreCarries⟩ := Carries.cons_iff.1 carries
    rw [moreCarries.nil, List.nil_append, read_literal]
    have notBracket := not_is_of_value rfl
      (Keyword.ne_of_not_reserved operand.2 (show Keyword.isReserved "[" = true by decide))
    simp [notBracket, Keyword.isNumeral_of_isNameShaped operand.1, operand.1, operand.2]
  | .numeral digits, operand, t, more, rest, carries => by
    obtain ⟨⟨rfl, _⟩, moreCarries⟩ := Carries.cons_iff.1 carries
    rw [moreCarries.nil, List.nil_append, read_literal]
    have notBracket : t.value ≠ "[" := by
      intro bracket
      rw [bracket] at operand
      cases operand
    simp [not_is_of_value rfl notBracket, show Keyword.isNumeral t.value = true from operand]
  | .array items, ⟨nonempty, operands⟩, t, more, rest, carries => by
    obtain ⟨⟨value, _⟩, moreCarries⟩ := Carries.cons_iff.1 carries
    rw [read_literal, if_pos (is_of_value value),
      elements_reread items operands true (fun _ => nonempty) more rest moreCarries]
    rfl
  | .binary _ _ _, operand, _, _, _, _ => operand.elim

theorem elements_reread : (items : List Expr) → Expr.Operands items → (first : Bool) →
    (first = true → items ≠ []) → (ts rest : List Token) →
    Carries ts (Expr.elementWords items ++ ["]"]) → (elements (ts ++ rest) first).read = .ok (items, rest)
  | [], _, first, nonempty, ts, rest, carries => by
    obtain ⟨close, rfl, value, _⟩ := Carries.single carries
    cases first with
    | true => exact absurd rfl (nonempty rfl)
    | false =>
      rw [List.singleton_append, read_elements_cons, if_pos (is_of_value value)]
      rfl
  | [x], ⟨operand, _⟩, first, _, ts, rest, carries => by
    obtain ⟨front, back, rfl, frontCarries, backCarries⟩ := Carries.split carries
    obtain ⟨w, ws, words, lead⟩ := operand.lead
    obtain ⟨t, more, rfl, value, _⟩ := (words ▸ frontCarries : Carries front (w :: ws)).uncons
    obtain ⟨close, rfl, closeValue, _⟩ := backCarries.single
    rw [List.append_assoc, List.cons_append, read_elements_cons,
      if_neg (by rw [not_is_of_value value lead.notClose]; decide),
      literal_reread x operand t more _ frontCarries]
    dsimp only
    have closeRead := elements_reread [] trivial false (by simp) [close] rest
      (by simpa [Expr.elementWords] using backCarries)
    rw [List.singleton_append] at closeRead ⊢
    rw [if_neg (by simp [startsWith, Token.is, closeValue]), if_pos (by simp [startsWith, Token.is, closeValue]),
      closeRead]
    rfl
  | x :: y :: ys, ⟨operand, operands⟩, first, _, ts, rest, carries => by
    simp only [Expr.elementWords, List.append_assoc, List.cons_append] at carries
    obtain ⟨front, back, rfl, frontCarries, backCarries⟩ := Carries.split carries
    obtain ⟨w, ws, words, lead⟩ := operand.lead
    obtain ⟨t, more, rfl, value, _⟩ := (words ▸ frontCarries : Carries front (w :: ws)).uncons
    obtain ⟨comma, after, rfl, commaValue, _, afterCarries⟩ := backCarries.uncons
    rw [List.append_assoc, List.cons_append, read_elements_cons,
      if_neg (by rw [not_is_of_value value lead.notClose]; decide),
      literal_reread x operand t more _ frontCarries]
    dsimp only
    rw [List.cons_append, if_pos (startsWith_of_value commaValue), dropComma_of_value commaValue,
      elements_reread (y :: ys) operands false (by simp) after rest afterCarries]
    rfl

end

end Parse

theorem OperandLead.starts {t : Token} {w : String} (lead : OperandLead w) (value : t.value = w)
    (kind : t.kind = .operator ↔ Keyword.isOperator w = true) :
    (t.is "\x7d" || t.is ",") = false ∧ ¬t.kind = .operator := by
  refine ⟨?_, ?_⟩
  · rw [Parse.not_is_of_value value lead.notBrace, Parse.not_is_of_value value lead.notComma]
    rfl
  · rw [kind, lead.notOperator]
    decide

theorem Expr.WellFormed.chain_operands {opOk : String → Prop} :
    {e : Expr} → e.WellFormed opOk →
      e.chain.first.Operand ∧ ∀ link ∈ e.chain.links, opOk link.1 ∧ link.2.Operand
  | .binary op lhs rhs, ⟨allowed, _, _, lhsFormed, rhsFormed⟩ => by
    obtain ⟨lhsFirst, lhsLinks⟩ := chain_operands lhsFormed
    obtain ⟨rhsFirst, rhsLinks⟩ := chain_operands rhsFormed
    refine ⟨lhsFirst, fun link mem => ?_⟩
    simp only [Expr.chain, List.mem_append, List.mem_cons] at mem
    rcases mem with inLhs | rfl | inRhs
    · exact lhsLinks link inLhs
    · exact ⟨allowed, rhsFirst⟩
    · exact rhsLinks link inRhs
  | .name _, operand => ⟨operand, by simp [Expr.chain]⟩
  | .numeral _, operand => ⟨operand, by simp [Expr.chain]⟩
  | .array _, operand => ⟨operand, by simp [Expr.chain]⟩

theorem Decl.WellFormed.not_expression {opOk : String → Prop} {d : Decl}
    (wellFormed : d.WellFormed opOk false) (root : Expr) : d ≠ .expression root := by
  rintro rfl
  exact absurd wellFormed.1 (by decide)

theorem Expr.WellFormed.lead {opOk : String → Prop} {e : Expr} (wellFormed : e.WellFormed opOk) :
    ∃ w ws, e.words = w :: ws ∧ OperandLead w := by
  obtain ⟨w, ws, words, lead⟩ := wellFormed.chain_operands.1.lead
  refine ⟨w, ws ++ e.chain.links.flatMap fun link => link.1 :: link.2.words, ?_, lead⟩
  rw [← Expr.chain_words, Chain.words, words, List.cons_append]

theorem Decl.WellFormed.head {opOk : String → Prop} {inLogic : Bool} {d : Decl}
    (wellFormed : d.WellFormed opOk inLogic) : ∃ w ws, d.words = w :: ws ∧ w ≠ "\x7d" := by
  cases d with
  | var v => exact ⟨v.name, _, rfl, (OperandLead.of_not_reserved wellFormed.2).notBrace⟩
  | expression root =>
    obtain ⟨w, ws, words, lead⟩ := wellFormed.2.lead
    exact ⟨w, ws ++ [","], by rw [Decl.words, words, List.cons_append], lead.notBrace⟩
  | component | logic | global | publicSection | privateSection | pipeline =>
    simp [Decl.words, BlockKeyword.word]

mutual

theorem Expr.Operand.colon_not_mem : {x : Expr} → x.Operand → ":" ∉ x.words
  | .name _, operand => by
    simpa [Expr.words] using (Keyword.ne_of_not_reserved operand.2 (by decide)).symm
  | .numeral _, operand => by
    simpa [Expr.words] using
      (Keyword.ne_of_not_reserved (Keyword.isReserved_of_isNumeral operand) (by decide)).symm
  | .array _, ⟨_, operands⟩ => by
    simpa [Expr.words] using Expr.Operands.colon_not_mem operands
  | .binary _ _ _, operand => operand.elim

theorem Expr.Operands.colon_not_mem : {xs : List Expr} → Expr.Operands xs → ":" ∉ Expr.elementWords xs
  | [], _ => by simp [Expr.elementWords]
  | [_], ⟨operand, _⟩ => by simpa [Expr.elementWords] using operand.colon_not_mem
  | _ :: _ :: _, ⟨operand, operands⟩ => by
    simp only [Expr.elementWords, List.mem_append, List.mem_cons, not_or]
    exact ⟨operand.colon_not_mem, by decide, operands.colon_not_mem⟩

end

theorem Expr.WellFormed.colon_not_mem :
    {e : Expr} → e.WellFormed (fun op => Keyword.isOperator op = true) → ":" ∉ e.words
  | .binary op _ _, ⟨operator, _, _, lhsFormed, rhsFormed⟩ => by
    have notColon : op ≠ ":" := by
      rintro rfl
      cases operator
    simp only [Expr.words, List.mem_append, List.mem_cons, not_or]
    exact ⟨lhsFormed.colon_not_mem, notColon.symm, rhsFormed.colon_not_mem⟩
  | .name _, operand => Expr.Operand.colon_not_mem (x := .name _) operand
  | .numeral _, operand => Expr.Operand.colon_not_mem (x := .numeral _) operand
  | .array _, operand => Expr.Operand.colon_not_mem (x := .array _) operand

namespace Parse

theorem chainGoesOn_of_operator {o : Token} {after : List Token} {op : String} (value : o.value = op)
    (kind : o.kind = .operator ↔ Keyword.isOperator op = true) (operator : Keyword.isOperator op = true) :
    chainGoesOn (o :: after) = true := by
  have notBrace : op ≠ "\x7d" := by
    rintro rfl
    cases operator
  have notComma : op ≠ "," := by
    rintro rfl
    cases operator
  simp [chainGoesOn, not_is_of_value value notBrace, not_is_of_value value notComma, kind.2 operator]

theorem operand_reread {rest : List Token} (stops : chainGoesOn rest = false) (x : Expr)
    (links : List (String × Expr)) (first : x.Operand)
    (linksOk : ∀ link ∈ links, Keyword.isOperator link.1 = true ∧ link.2.Operand)
    (lastOp : Option String) (ts : List Token) (carries : Carries ts (Chain.words ⟨x, links⟩)) :
    (operand (ts ++ rest) lastOp).read = .ok (⟨x, links⟩, rest) := by
  induction links generalizing x lastOp ts with
  | nil =>
    have carriesX : Carries ts x.words := by simpa [Chain.words] using carries
    obtain ⟨w, ws, words, lead⟩ := first.lead
    obtain ⟨t, more, rfl, value, kind, _⟩ := (words ▸ carriesX : Carries ts (w :: ws)).uncons
    obtain ⟨notEnd, notOperator⟩ := lead.starts value kind
    rw [List.cons_append, read_operand_cons, if_neg (by rw [notEnd]; decide), if_neg notOperator,
      literal_reread x first t more rest carriesX]
    cases rest with
    | nil => rfl
    | cons o after =>
      dsimp only
      rw [if_neg (by rw [stops]; decide)]
  | cons link links ih =>
    obtain ⟨op, y⟩ := link
    obtain ⟨operator, operand⟩ := linksOk (op, y) List.mem_cons_self
    rw [Chain.words_cons x op ⟨y, links⟩] at carries
    obtain ⟨front, back, rfl, frontCarries, backCarries⟩ := carries.split
    obtain ⟨o, after, rfl, opValue, opKind, afterCarries⟩ := backCarries.uncons
    obtain ⟨w, ws, words, lead⟩ := first.lead
    obtain ⟨t, more, rfl, value, kind, _⟩ := (words ▸ frontCarries : Carries _ (w :: ws)).uncons
    obtain ⟨notEnd, notOperator⟩ := lead.starts value kind
    rw [List.append_assoc, List.cons_append, read_operand_cons, if_neg (by rw [notEnd]; decide),
      if_neg notOperator, literal_reread x first t more _ frontCarries, List.cons_append]
    dsimp only
    rw [if_pos (chainGoesOn_of_operator opValue opKind operator),
      ih y operand (fun link mem => linksOk link (List.mem_cons_of_mem _ mem)) (some o.value) after
        afterCarries, opValue]
    rfl

theorem chainGoesOn_of_comma {comma : Token} {after : List Token} (value : comma.value = ",") :
    chainGoesOn (comma :: after) = false := by
  simp [chainGoesOn, is_of_value value]

theorem chain_reread {e : Expr} (wellFormed : e.WellFormed fun op => Keyword.isOperator op = true)
    {ts rest : List Token} (carries : Carries ts e.words) (stops : chainGoesOn rest = false)
    (lastOp : Option String) : (operand (ts ++ rest) lastOp).read = .ok (e.chain, rest) := by
  obtain ⟨first, linksOk⟩ := wellFormed.chain_operands
  rw [← Expr.chain_words] at carries
  exact operand_reread stops e.chain.first e.chain.links first linksOk lastOp ts carries

theorem startsWith_colon_of_carries {ts : List Token} {ws : List String} (carries : Carries ts ws)
    (nonempty : ws ≠ []) (noColon : ":" ∉ ws) (rest : List Token) :
    startsWith (ts ++ rest) ":" = false := by
  obtain ⟨w, ws, rfl⟩ := List.exists_cons_of_ne_nil nonempty
  obtain ⟨t, more, rfl, value, _⟩ := carries.uncons
  exact not_is_of_value value (fun colon => noColon (colon ▸ List.mem_cons_self))

theorem variableAt_reread {v : Variable} (valid : ValidName v.name) {n : Token} {more : List Token}
    (carries : Carries (n :: more) v.words) (rest : List Token) :
    (variableAt n (more ++ rest)).read = .ok (v, rest) := by
  obtain ⟨⟨nameValue, _⟩, moreCarries⟩ := Carries.cons_iff.1 carries
  obtain ⟨colon, more, rfl, colonValue, _, moreCarries⟩ := moreCarries.uncons
  obtain ⟨d, rfl, datatypeValue, _⟩ := moreCarries.single
  rw [List.cons_append, List.singleton_append, read_variableAt, nameValue]
  simp [valid.1, valid.2, is_of_value colonValue, datatypeValue, Datatype.ofWord?_word]

theorem sectionVariables_reread (vars : List Variable) (valid : ∀ v ∈ vars, ValidName v.name)
    (ts rest : List Token) (carries : Carries ts (Variable.sectionWords vars ++ ["\x7d"])) :
    (sectionVariables (ts ++ rest)).read = .ok (vars, rest) := by
  induction vars generalizing ts with
  | nil =>
    obtain ⟨close, rfl, closeValue, _⟩ := Carries.single carries
    rw [List.singleton_append, read_sectionVariables_cons, if_pos (is_of_value closeValue)]
  | cons v vars ih =>
    have words : Variable.sectionWords (v :: vars) ++ ["\x7d"] =
        v.words ++ "," :: (Variable.sectionWords vars ++ ["\x7d"]) := by
      simp [Variable.sectionWords]
    rw [words] at carries
    obtain ⟨front, back, rfl, frontCarries, backCarries⟩ := carries.split
    obtain ⟨n, more, rfl, nameValue, _⟩ := (frontCarries : Carries front (v.name :: _)).uncons
    obtain ⟨comma, after, rfl, commaValue, _, afterCarries⟩ := backCarries.uncons
    have nameValid := valid v List.mem_cons_self
    rw [List.append_assoc, List.cons_append, read_sectionVariables_cons,
      if_neg (by rw [not_is_of_value nameValue (OperandLead.of_not_reserved nameValid.2).notBrace]; decide),
      variableAt_reread nameValid frontCarries]
    dsimp only
    rw [List.cons_append, dropComma_of_value commaValue,
      ih (fun w mem => valid w (List.mem_cons_of_mem _ mem)) after afterCarries]
    rfl

theorem pipelineItems_reread (items : List Expr)
    (wellFormed : ∀ e ∈ items, e.WellFormed fun op => Keyword.isOperator op = true)
    (ts rest : List Token) (carries : Carries ts (Expr.itemWords items ++ ["\x7d"])) :
    (pipelineItems (ts ++ rest)).read = .ok (items, rest) := by
  induction items generalizing ts with
  | nil =>
    obtain ⟨close, rfl, closeValue, _⟩ := Carries.single carries
    rw [List.singleton_append, read_pipelineItems_cons, if_pos (is_of_value closeValue)]
  | cons e items ih =>
    have words : Expr.itemWords (e :: items) ++ ["\x7d"] =
        e.words ++ "," :: (Expr.itemWords items ++ ["\x7d"]) := by
      simp [Expr.itemWords]
    rw [words] at carries
    obtain ⟨front, back, rfl, frontCarries, backCarries⟩ := carries.split
    obtain ⟨comma, after, rfl, commaValue, _, afterCarries⟩ := backCarries.uncons
    have formed := wellFormed e List.mem_cons_self
    obtain ⟨w, ws, words, lead⟩ := formed.lead
    obtain ⟨t, more, rfl, value, _⟩ := (words ▸ frontCarries : Carries _ (w :: ws)).uncons
    have chainRead := chain_reread formed frontCarries
      (chainGoesOn_of_comma commaValue : chainGoesOn (comma :: (after ++ rest)) = false) none
    rw [List.cons_append] at chainRead
    rw [List.append_assoc, List.cons_append, List.cons_append, read_pipelineItems_cons, if_neg (by rw [not_is_of_value value lead.notBrace]; decide), chainRead]
    dsimp only
    rw [if_pos (startsWith_of_value commaValue), dropComma_of_value commaValue,
      ih (fun x mem => wellFormed x (List.mem_cons_of_mem _ mem)) after afterCarries,
      Chain.group_chain e formed]
    rfl

theorem decl_keyword {t : Token} {k : BlockKeyword} (value : t.value = k.word) (more : List Token) :
    (decl (t :: more)).read = (block k k.word more).read := by
  rw [read_decl_cons, value, BlockKeyword.ofWord?_word]

theorem namedBlockRead_reread {word : String} {body : List Token → Except Slip (List Decl × List Token)}
    {wrap : String → List Decl → Decl} {name : String} (valid : ValidName name) {n brace : Token}
    (nameValue : n.value = name) (braceValue : brace.value = "\x7b") {inner : List Token}
    {items : List Decl} {rest : List Token} (bodyRead : body inner = .ok (items, rest)) :
    namedBlockRead word body wrap (n :: brace :: inner) = .ok (wrap name items, rest) := by
  simp [namedBlockRead, nameValue, valid.1, valid.2, is_of_value braceValue, bodyRead]
  rfl

theorem bracedRead_reread {body : List Token → Except Slip (β × List Token)} {wrap : β → Decl}
    {brace : Token} (braceValue : brace.value = "\x7b") {inner : List Token} {v : β} {rest : List Token}
    (bodyRead : body inner = .ok (v, rest)) :
    bracedRead body wrap (brace :: inner) = .ok (wrap v, rest) := by
  simp [bracedRead, is_of_value braceValue, bodyRead]
  rfl

theorem logicItem_reread {d : Decl} (wellFormed : d.WellFormed (fun op => Keyword.isOperator op = true) true)
    {t : Token} {more : List Token} (carries : Carries (t :: more) d.words) (rest : List Token)
    (blockRead : (∀ root, d ≠ .expression root) → (decl (t :: (more ++ rest))).read = .ok (d, rest)) :
    (logicItem t (more ++ rest)).read = .ok (d, rest) := by
  cases d with
  | expression root =>
    obtain ⟨_, rootFormed⟩ := wellFormed
    obtain ⟨front, back, same, frontCarries, backCarries⟩ := Carries.split carries
    obtain ⟨w, ws, words, lead⟩ := rootFormed.lead
    obtain ⟨t', more', rfl, value, _, moreCarries⟩ := (words ▸ frontCarries : Carries _ (w :: ws)).uncons
    obtain ⟨rfl, rfl⟩ := List.cons.inj (same.trans (List.cons_append ..))
    obtain ⟨comma, rfl, commaValue, _⟩ := backCarries.single
    have noColon : ":" ∉ ws ++ [","] := by
      have noColon := rootFormed.colon_not_mem
      rw [words] at noColon
      simp only [List.mem_append, List.mem_cons, List.not_mem_nil, or_false, not_or] at noColon ⊢
      exact ⟨noColon.2, by decide⟩
    have chainRead := chain_reread rootFormed frontCarries
      (chainGoesOn_of_comma commaValue : chainGoesOn (comma :: rest) = false) none
    rw [List.cons_append] at chainRead
    rw [read_logicItem, value, lead.notKeyword]
    dsimp only
    rw [if_neg (by
        rw [startsWith_colon_of_carries (moreCarries.append backCarries) (by simp) noColon]
        decide),
      List.append_assoc, List.singleton_append, chainRead]
    change Except.ok (Decl.expression root.chain.group, dropComma (comma :: rest)) = _
    rw [dropComma_of_value commaValue, Chain.group_chain root rootFormed]
  | var v =>
    obtain ⟨⟨value, _⟩, moreCarries⟩ := Carries.cons_iff.1 carries
    obtain ⟨colon, after, rfl, colonValue, _⟩ := moreCarries.uncons
    rw [read_logicItem, value, Keyword.ofWord?_of_not_reserved wellFormed.2]
    dsimp only
    rw [List.cons_append, if_pos (startsWith_of_value colonValue), ← List.cons_append,
      variableAt_reread wellFormed carries]
    rfl
  | component | logic | global | publicSection | privateSection | pipeline =>
    obtain ⟨⟨value, _⟩, _⟩ := Carries.cons_iff.1 carries
    rw [read_logicItem, value, BlockKeyword.ofWord?_word]
    exact blockRead (by simp)

mutual

theorem decl_reread : (d : Decl) → (inLogic : Bool) →
    d.WellFormed (fun op => Keyword.isOperator op = true) inLogic → (∀ root, d ≠ .expression root) →
    (ts rest : List Token) → Carries ts d.words → (decl (ts ++ rest)).read = .ok (d, rest)
  | .component name body, _, ⟨valid, bodyFormed⟩, _, ts, rest, carries => by
    simp only [Decl.words, List.cons_append] at carries
    obtain ⟨t, more, rfl, value, _, moreCarries⟩ := carries.uncons
    obtain ⟨n, more, rfl, nameValue, _, moreCarries⟩ := moreCarries.uncons
    obtain ⟨brace, inner, rfl, braceValue, _, innerCarries⟩ := moreCarries.uncons
    rw [List.cons_append, decl_keyword value, read_block_component, List.cons_append, List.cons_append]
    exact namedBlockRead_reread valid nameValue braceValue
      (decls_reread body bodyFormed inner rest innerCarries)
  | .logic name body, _, ⟨valid, bodyFormed⟩, _, ts, rest, carries => by
    simp only [Decl.words, List.cons_append] at carries
    obtain ⟨t, more, rfl, value, _, moreCarries⟩ := carries.uncons
    obtain ⟨n, more, rfl, nameValue, _, moreCarries⟩ := moreCarries.uncons
    obtain ⟨brace, inner, rfl, braceValue, _, innerCarries⟩ := moreCarries.uncons
    rw [List.cons_append, decl_keyword value, read_block_logic, List.cons_append, List.cons_append]
    exact namedBlockRead_reread valid nameValue braceValue
      (logicItems_reread body bodyFormed inner rest innerCarries)
  | .global body, _, bodyFormed, _, ts, rest, carries => by
    simp only [Decl.words, List.cons_append] at carries
    obtain ⟨t, more, rfl, value, _, moreCarries⟩ := carries.uncons
    obtain ⟨brace, inner, rfl, braceValue, _, innerCarries⟩ := moreCarries.uncons
    rw [List.cons_append, decl_keyword value, read_block_global, List.cons_append]
    exact bracedRead_reread braceValue (decls_reread body bodyFormed inner rest innerCarries)
  | .publicSection vars, _, valid, _, ts, rest, carries => by
    simp only [Decl.words, List.cons_append] at carries
    obtain ⟨t, more, rfl, value, _, moreCarries⟩ := carries.uncons
    obtain ⟨brace, inner, rfl, braceValue, _, innerCarries⟩ := moreCarries.uncons
    rw [List.cons_append, decl_keyword value, read_block_public, List.cons_append]
    exact bracedRead_reread braceValue (sectionVariables_reread vars valid inner rest innerCarries)
  | .privateSection vars, _, valid, _, ts, rest, carries => by
    simp only [Decl.words, List.cons_append] at carries
    obtain ⟨t, more, rfl, value, _, moreCarries⟩ := carries.uncons
    obtain ⟨brace, inner, rfl, braceValue, _, innerCarries⟩ := moreCarries.uncons
    rw [List.cons_append, decl_keyword value, read_block_private, List.cons_append]
    exact bracedRead_reread braceValue (sectionVariables_reread vars valid inner rest innerCarries)
  | .pipeline items, _, itemsFormed, _, ts, rest, carries => by
    simp only [Decl.words, List.cons_append] at carries
    obtain ⟨t, more, rfl, value, _, moreCarries⟩ := carries.uncons
    obtain ⟨brace, inner, rfl, braceValue, _, innerCarries⟩ := moreCarries.uncons
    rw [List.cons_append, decl_keyword value, read_block_pipeline, List.cons_append]
    exact bracedRead_reread braceValue (pipelineItems_reread items itemsFormed inner rest innerCarries)
  | .var v, _, valid, _, ts, rest, carries => by
    obtain ⟨t, more, rfl, value, _⟩ := (carries : Carries ts (v.name :: _)).uncons
    rw [List.cons_append, read_decl_cons, value, Keyword.ofWord?_of_not_reserved valid.2]
    dsimp only
    rw [if_neg (by simp [valid.2]), variableAt_reread valid carries]
    rfl
  | .expression root, _, _, notExpression, _, _, _ => absurd rfl (notExpression root)

theorem decls_reread : (ds : List Decl) →
    Decl.AllWellFormed (fun op => Keyword.isOperator op = true) false ds → (ts rest : List Token) →
    Carries ts (Decl.listWords ds ++ ["\x7d"]) → (decls (ts ++ rest)).read = .ok (ds, rest)
  | [], _, ts, rest, carries => by
    obtain ⟨close, rfl, closeValue, _⟩ := Carries.single carries
    rw [List.singleton_append, read_decls_cons, if_pos (is_of_value closeValue)]
  | d :: ds, ⟨formed, restFormed⟩, ts, rest, carries => by
    rw [Decl.listWords, List.append_assoc] at carries
    obtain ⟨front, back, rfl, frontCarries, backCarries⟩ := carries.split
    obtain ⟨w, ws, words, notClose⟩ := formed.head
    obtain ⟨t, more, rfl, value, _⟩ := (words ▸ frontCarries : Carries _ (w :: ws)).uncons
    have declRead := decl_reread d false formed formed.not_expression (t :: more) (back ++ rest) frontCarries
    rw [List.cons_append] at declRead
    rw [List.append_assoc, List.cons_append, read_decls_cons,
      if_neg (by rw [not_is_of_value value notClose]; decide), declRead]
    dsimp only
    rw [decls_reread ds restFormed back rest backCarries]
    rfl

theorem logicItems_reread : (ds : List Decl) →
    Decl.AllWellFormed (fun op => Keyword.isOperator op = true) true ds → (ts rest : List Token) →
    Carries ts (Decl.listWords ds ++ ["\x7d"]) → (logicItems (ts ++ rest)).read = .ok (ds, rest)
  | [], _, ts, rest, carries => by
    obtain ⟨close, rfl, closeValue, _⟩ := Carries.single carries
    rw [List.singleton_append, read_logicItems_cons, if_pos (is_of_value closeValue)]
  | d :: ds, ⟨formed, restFormed⟩, ts, rest, carries => by
    rw [Decl.listWords, List.append_assoc] at carries
    obtain ⟨front, back, rfl, frontCarries, backCarries⟩ := carries.split
    obtain ⟨w, ws, words, notClose⟩ := formed.head
    obtain ⟨t, more, rfl, value, _⟩ := (words ▸ frontCarries : Carries _ (w :: ws)).uncons
    have itemRead := logicItem_reread formed frontCarries (back ++ rest) fun notExpression => by
      have declRead := decl_reread d true formed notExpression (t :: more) (back ++ rest) frontCarries
      rwa [List.cons_append] at declRead
    rw [List.append_assoc, List.cons_append, read_logicItems_cons,
      if_neg (by rw [not_is_of_value value notClose]; decide), itemRead]
    dsimp only
    rw [logicItems_reread ds restFormed back rest backCarries]
    rfl

end

theorem topDecls_reread (ds : List Decl)
    (formed : Decl.AllWellFormed (fun op => Keyword.isOperator op = true) false ds)
    (ts : List Token) (carries : Carries ts (Decl.listWords ds)) : topDecls ts = .ok ds := by
  induction ds generalizing ts with
  | nil =>
    rw [carries.nil, topDecls]
  | cons d ds ih =>
    obtain ⟨formed, restFormed⟩ := formed
    rw [Decl.listWords] at carries
    obtain ⟨front, back, rfl, frontCarries, backCarries⟩ := carries.split
    obtain ⟨w, ws, words, _⟩ := formed.head
    obtain ⟨t, more, rfl, _⟩ := (words ▸ frontCarries : Carries _ (w :: ws)).uncons
    have declRead := decl_reread d false formed formed.not_expression (t :: more) back frontCarries
    rw [List.cons_append] at declRead ⊢
    rw [topDecls_cons, declRead]
    dsimp only
    rw [ih restFormed back backCarries]
    rfl

end Parse

theorem Program.parse_carried (label : String) {p : Program}
    (formed : p.WellFormed fun op => Keyword.isOperator op = true) {ts : List Token}
    (carries : Parse.Carries (Token.classifyAll ts) p.words) : Program.parse label ts = .ok p := by
  unfold Program.parse
  rw [Parse.topDecls_reread p.body formed _ carries]

end Circuitry
