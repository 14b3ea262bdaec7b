import Circuitry.Proofs.Syntax.Read
import Circuitry.Proofs.Syntax.Grouping

/-!
# Every program read from tokens is well formed

Whatever tokens the parser is given, a program it returns is well formed in the sense of
`Program.WellFormed`, where an operator may be the text of any token that is of the operator
kind once classified: a hand-made operator token may carry any text, and the parser takes it
as an operator of binding strength zero.

Each reading function gets one lemma saying what is left after it (a suffix of its tokens) and
one saying what its result satisfies; the lemmas follow the functions' own recursion, on the
number of tokens left and, for calls on the same tokens, on the order in which the functions
call each other.
-/

namespace Circuitry

theorem Decl.WellFormed.inLogic {opOk : String → Prop} {d : Decl} (formed : d.WellFormed opOk false) :
    d.WellFormed opOk true := by
  cases d with
  | expression root => exact absurd formed.1 Bool.false_ne_true
  | component | logic | global | publicSection | privateSection | pipeline | var => exact formed

namespace Parse

theorem variableAt_ok {t : Token} {more : List Token} {v : Variable} {rest : List Token}
    (read : (variableAt t more).read = .ok (v, rest)) :
    ValidName t.value ∧ v.name = t.value ∧
      ∃ colon d, more = colon :: d :: rest ∧ colon.is ":" = true ∧
        Datatype.ofWord? d.value = some v.datatype := by
  rw [read_variableAt] at read
  split at read
  · cases read
  · rename_i reserved
    split at read
    · cases read
    · rename_i shaped
      have valid : ValidName t.value := ⟨by simpa using shaped, by simpa using reserved⟩
      split at read
      · rename_i colon more2
        split at read
        · rename_i isColon
          split at read
          · rename_i d more3
            split at read
            · rename_i datatype word
              cases read
              exact ⟨valid, rfl, colon, d, rfl, isColon, word⟩
            · cases read
          · cases read
        · cases read
      · cases read

theorem variableAt_valid {t : Token} {more : List Token} {v : Variable} {rest : List Token}
    (read : (variableAt t more).read = .ok (v, rest)) : ValidName v.name := by
  obtain ⟨valid, named, _⟩ := variableAt_ok read
  rw [named]
  exact valid

theorem sectionVariables_valid {ts : List Token} {vars : List Variable} {rest : List Token}
    (read : (sectionVariables ts).read = .ok (vars, rest)) : ∀ v ∈ vars, ValidName v.name := by
  cases ts with
  | nil =>
    rw [read_sectionVariables_nil] at read
    cases read
  | cons t more =>
    rcases sectionVariables_ok read with ⟨-, rfl, rfl⟩ | ⟨-, v, after, others, variableRead, othersRead, rfl⟩
    · intro v member
      cases member
    · have shorter := read_rest_shorter variableRead
      have dropped := length_dropComma_le after
      have othersValid := sectionVariables_valid othersRead
      intro w member
      rcases List.mem_cons.1 member with rfl | later
      · exact variableAt_valid variableRead
      · exact othersValid w later
termination_by ts.length
decreasing_by
  subst_vars
  simp only [List.length_cons] at *
  omega

/-! ### Reading consumes a prefix

What is left after a reading function returns is a suffix of what it was given. -/

theorem dropComma_suffix (ts : List Token) : dropComma ts <:+ ts := by
  unfold dropComma
  split
  · split
    · exact List.suffix_cons _ _
    · exact List.suffix_refl _
  · exact List.suffix_refl _

theorem variableAt_suffix {t : Token} {more : List Token} {v : Variable} {rest : List Token}
    (read : (variableAt t more).read = .ok (v, rest)) : rest <:+ more := by
  obtain ⟨_, _, colon, d, rfl, _⟩ := variableAt_ok read
  exact (List.suffix_cons d rest).trans (List.suffix_cons colon _)

theorem sectionVariables_suffix {ts : List Token} {vars : List Variable} {rest : List Token}
    (read : (sectionVariables ts).read = .ok (vars, rest)) : rest <:+ ts := by
  cases ts with
  | nil =>
    rw [read_sectionVariables_nil] at read
    cases read
  | cons t more =>
    rcases sectionVariables_ok read with ⟨-, rfl, rfl⟩ | ⟨-, v, after, others, variableRead, othersRead, rfl⟩
    · exact List.suffix_cons _ _
    · have shorter := read_rest_shorter variableRead
      have dropped := length_dropComma_le after
      have fromVariable : after <:+ t :: more :=
        (variableAt_suffix variableRead).trans (List.suffix_cons t more)
      exact ((sectionVariables_suffix othersRead).trans (dropComma_suffix after)).trans fromVariable
termination_by ts.length
decreasing_by
  subst_vars
  simp only [List.length_cons] at *
  omega

mutual

theorem literal_suffix {t : Token} {more : List Token} {x : Expr} {rest : List Token}
    (read : (literal t more).read = .ok (x, rest)) : rest <:+ more := by
  rw [read_literal] at read
  by_cases bracket : t.is "["
  · rw [if_pos bracket] at read
    obtain ⟨⟨items, after⟩, itemsRead, same⟩ := map_eq_ok.1 read
    cases same
    exact elements_suffix itemsRead
  · rw [if_neg bracket] at read
    split at read
    · cases read
      exact List.suffix_refl _
    · split at read
      · split at read
        · cases read
        · cases read
          exact List.suffix_refl _
      · cases read
termination_by ((t :: more).length, 0)
decreasing_by all_goals exact rank_lt (by grind)

theorem elements_suffix {ts : List Token} {first : Bool} {items : List Expr} {rest : List Token}
    (read : (elements ts first).read = .ok (items, rest)) : rest <:+ ts := by
  cases ts with
  | nil =>
    rw [read_elements_nil] at read
    cases read
  | cons t more =>
    rcases elements_ok read with ⟨-, -, rfl, rfl⟩ | ⟨-, x, after, others, literalRead, -, othersRead, rfl⟩
    · exact List.suffix_cons _ _
    · have shorter := read_rest_shorter literalRead
      have dropped := length_dropComma_le after
      have head : after <:+ t :: more := (literal_suffix literalRead).trans (List.suffix_cons t more)
      exact ((elements_suffix othersRead).trans (dropComma_suffix after)).trans head
termination_by (ts.length, 1)
decreasing_by all_goals exact rank_lt (by grind)

end

theorem operand_suffix {ts : List Token} {lastOp : Option String} {c : Chain} {rest : List Token}
    (read : (operand ts lastOp).read = .ok (c, rest)) : rest <:+ ts := by
  cases ts with
  | nil =>
    rw [read_operand_nil] at read
    cases read
  | cons t more =>
    rw [read_operand_cons] at read
    split at read
    · cases read
    · split at read
      · cases read
      · split at read
        · cases read
        · rename_i x after literalRead
          have shorter := read_rest_shorter literalRead
          have head : after <:+ t :: more := (literal_suffix literalRead).trans (List.suffix_cons t more)
          split at read
          · rename_i o after'
            split at read
            · obtain ⟨⟨tail, last⟩, tailRead, same⟩ := map_eq_ok.1 read
              cases same
              exact ((operand_suffix tailRead).trans (List.suffix_cons o after')).trans head
            · cases read
              exact head
          · cases read
            exact head
termination_by ts.length
decreasing_by
  subst_vars
  simp only [List.length_cons] at *
  omega

theorem pipelineItems_suffix {ts : List Token} {items : List Expr} {rest : List Token}
    (read : (pipelineItems ts).read = .ok (items, rest)) : rest <:+ ts := by
  cases ts with
  | nil =>
    rw [read_pipelineItems_nil] at read
    cases read
  | cons t more =>
    rcases pipelineItems_ok read with ⟨-, rfl, rfl⟩ | ⟨-, c, after, others, operandRead, -, othersRead, rfl⟩
    · exact List.suffix_cons _ _
    · have shorter := read_rest_shorter operandRead
      have dropped := length_dropComma_le after
      exact ((pipelineItems_suffix othersRead).trans (dropComma_suffix after)).trans
        (operand_suffix operandRead)
termination_by ts.length
decreasing_by
  all_goals
    subst_vars
    simp only [List.length_cons] at *
    omega

mutual

theorem decl_suffix {ts : List Token} {d : Decl} {rest : List Token}
    (read : (decl ts).read = .ok (d, rest)) : rest <:+ ts := by
  cases ts with
  | nil =>
    rw [read_decl_nil] at read
    cases read
  | cons t more =>
    rw [read_decl_cons] at read
    split at read
    · exact (block_suffix read).trans (List.suffix_cons t more)
    · split at read
      · cases read
      · obtain ⟨⟨v, after⟩, variableRead, same⟩ := map_eq_ok.1 read
        cases same
        exact (variableAt_suffix variableRead).trans (List.suffix_cons t more)
termination_by (ts.length, 3)
decreasing_by all_goals exact rank_lt (by grind)

theorem block_suffix {k : BlockKeyword} {word : String} {ts : List Token} {d : Decl}
    {rest : List Token} (read : (block k word ts).read = .ok (d, rest)) : rest <:+ ts := by
  have named : ∀ {n t : Token} {inner : List Token}, inner <:+ n :: t :: inner := fun {n t inner} =>
    (List.suffix_cons t inner).trans (List.suffix_cons n _)
  cases k with
  | component =>
    rw [read_block_component] at read
    obtain ⟨n, t, inner, items, rfl, _, _, _, itemsRead, rfl⟩ := namedBlockRead_ok read
    exact (decls_suffix itemsRead).trans named
  | logic =>
    rw [read_block_logic] at read
    obtain ⟨n, t, inner, items, rfl, _, _, _, itemsRead, rfl⟩ := namedBlockRead_ok read
    exact (logicItems_suffix itemsRead).trans named
  | global =>
    rw [read_block_global] at read
    obtain ⟨t, inner, items, rfl, _, itemsRead, rfl⟩ := bracedRead_ok read
    exact (decls_suffix itemsRead).trans (List.suffix_cons t inner)
  | publicSection =>
    rw [read_block_public] at read
    obtain ⟨t, inner, vars, rfl, _, varsRead, rfl⟩ := bracedRead_ok read
    exact (sectionVariables_suffix varsRead).trans (List.suffix_cons t inner)
  | privateSection =>
    rw [read_block_private] at read
    obtain ⟨t, inner, vars, rfl, _, varsRead, rfl⟩ := bracedRead_ok read
    exact (sectionVariables_suffix varsRead).trans (List.suffix_cons t inner)
  | pipeline =>
    rw [read_block_pipeline] at read
    obtain ⟨t, inner, items, rfl, _, itemsRead, rfl⟩ := bracedRead_ok read
    exact (pipelineItems_suffix itemsRead).trans (List.suffix_cons t inner)
termination_by (ts.length, 2)
decreasing_by all_goals exact rank_lt (by grind)

theorem decls_suffix {ts : List Token} {ds : List Decl} {rest : List Token}
    (read : (decls ts).read = .ok (ds, rest)) : rest <:+ ts := by
  cases ts with
  | nil =>
    rw [read_decls_nil] at read
    cases read
  | cons t more =>
    rcases decls_ok read with ⟨-, rfl, rfl⟩ | ⟨-, d, after, others, declRead, othersRead, rfl⟩
    · exact List.suffix_cons _ _
    · have shorter := read_rest_shorter declRead
      exact (decls_suffix othersRead).trans (decl_suffix declRead)
termination_by (ts.length, 5)
decreasing_by all_goals exact rank_lt (by grind)

theorem logicItem_suffix {t : Token} {more : List Token} {d : Decl} {rest : List Token}
    (read : (logicItem t more).read = .ok (d, rest)) : rest <:+ t :: more := by
  rw [read_logicItem] at read
  split at read
  · exact decl_suffix read
  · split at read
    · obtain ⟨⟨v, after⟩, variableRead, same⟩ := map_eq_ok.1 read
      cases same
      exact (variableAt_suffix variableRead).trans (List.suffix_cons t more)
    · obtain ⟨⟨c, after⟩, operandRead, same⟩ := map_eq_ok.1 read
      cases same
      exact (dropComma_suffix after).trans (operand_suffix operandRead)
termination_by ((t :: more).length, 4)
decreasing_by all_goals exact rank_lt (by grind)

theorem logicItems_suffix {ts : List Token} {ds : List Decl} {rest : List Token}
    (read : (logicItems ts).read = .ok (ds, rest)) : rest <:+ ts := by
  cases ts with
  | nil =>
    rw [read_logicItems_nil] at read
    cases read
  | cons t more =>
    rcases logicItems_ok read with ⟨-, rfl, rfl⟩ | ⟨-, d, after, others, itemRead, othersRead, rfl⟩
    · exact List.suffix_cons _ _
    · have shorter := read_rest_shorter itemRead
      exact (logicItems_suffix othersRead).trans (logicItem_suffix itemRead)
termination_by (ts.length, 5)
decreasing_by all_goals exact rank_lt (by grind)

end

mutual

theorem literal_operand {t : Token} {more : List Token} {x : Expr} {rest : List Token}
    (read : (literal t more).read = .ok (x, rest)) : x.Operand := by
  rw [read_literal] at read
  by_cases bracket : t.is "["
  · rw [if_pos bracket] at read
    obtain ⟨⟨items, after⟩, itemsRead, same⟩ := map_eq_ok.1 read
    cases same
    have itemsOperands := elements_operands itemsRead
    exact ⟨itemsOperands.2 rfl, itemsOperands.1⟩
  · rw [if_neg bracket] at read
    by_cases numeral : Keyword.isNumeral t.value
    · rw [if_pos numeral] at read
      cases read
      exact numeral
    · rw [if_neg numeral] at read
      by_cases shaped : Keyword.isNameShaped t.value
      · by_cases reserved : Keyword.isReserved t.value
        · simp only [if_pos shaped, if_pos reserved] at read
          cases read
        · simp only [if_pos shaped, if_neg reserved] at read
          cases read
          exact ⟨shaped, by simpa using reserved⟩
      · rw [if_neg shaped] at read
        cases read
termination_by ((t :: more).length, 0)
decreasing_by all_goals exact rank_lt (by grind)

theorem elements_operands {ts : List Token} {first : Bool} {items : List Expr} {rest : List Token}
    (read : (elements ts first).read = .ok (items, rest)) :
    Expr.Operands items ∧ (first = true → items ≠ []) := by
  cases ts with
  | nil =>
    rw [read_elements_nil] at read
    cases read
  | cons t more =>
    rcases elements_ok read with ⟨-, rfl, rfl, rfl⟩ | ⟨-, x, after, others, literalRead, -, othersRead, rfl⟩
    · exact ⟨trivial, fun isFirst => absurd isFirst Bool.false_ne_true⟩
    · have shorter := read_rest_shorter literalRead
      have dropped := length_dropComma_le after
      have head := literal_operand literalRead
      have tail := elements_operands othersRead
      exact ⟨⟨head, tail.1⟩, fun _ => List.cons_ne_nil _ _⟩
termination_by (ts.length, 1)
decreasing_by all_goals exact rank_lt (by grind)

end

/-! ### Operators come from operator tokens -/

/-- Every operator-kind token of `ts` carries a word that `opOk` allows. -/
def OperatorsAllowed (opOk : String → Prop) (ts : List Token) : Prop :=
  ∀ o ∈ ts, o.kind = .operator → opOk o.value

theorem OperatorsAllowed.suffix {opOk : String → Prop} {ts rest : List Token}
    (allowed : OperatorsAllowed opOk ts) (suffix : rest <:+ ts) : OperatorsAllowed opOk rest :=
  fun o member => allowed o (suffix.subset member)

section Allowed

variable {opOk : String → Prop}

theorem operand_operands {ts : List Token} {lastOp : Option String} {c : Chain} {rest : List Token}
    (allowed : OperatorsAllowed opOk ts) (read : (operand ts lastOp).read = .ok (c, rest)) :
    c.first.Operand ∧ ∀ link ∈ c.links, opOk link.1 ∧ link.2.Operand := by
  cases ts with
  | nil =>
    rw [read_operand_nil] at read
    cases read
  | cons t more =>
    rw [read_operand_cons] at read
    split at read
    · cases read
    · split at read
      · cases read
      · split at read
        · cases read
        · rename_i x after literalRead
          have head := literal_operand literalRead
          have shorter := read_rest_shorter literalRead
          split at read
          · rename_i o after
            split at read
            · rename_i goesOn
              obtain ⟨⟨tail, last⟩, tailRead, same⟩ := map_eq_ok.1 read
              cases same
              -- The operator token is the one right after the operand, so it is one of `ts`.
              have opSuffix : o :: after <:+ t :: more :=
                (literal_suffix literalRead).trans (List.suffix_cons t more)
              have operator : o.kind = .operator := by
                simp only [chainGoesOn, Bool.and_eq_true, decide_eq_true_eq] at goesOn
                exact goesOn.2
              have tailOperands :=
                operand_operands (allowed.suffix ((List.suffix_cons o after).trans opSuffix)) tailRead
              refine ⟨head, ?_⟩
              intro link member
              rcases List.mem_cons.1 member with rfl | later
              · exact ⟨allowed o (opSuffix.subset List.mem_cons_self) operator, tailOperands.1⟩
              · exact tailOperands.2 link later
            · cases read
              exact ⟨head, fun _ member => absurd member List.not_mem_nil⟩
          · cases read
            exact ⟨head, fun _ member => absurd member List.not_mem_nil⟩
termination_by ts.length
decreasing_by
  subst_vars
  simp only [List.length_cons] at *
  omega

theorem operand_group_wellFormed {ts : List Token} {lastOp : Option String} {c : Chain}
    {rest : List Token} (allowed : OperatorsAllowed opOk ts)
    (read : (operand ts lastOp).read = .ok (c, rest)) : c.group.WellFormed opOk := by
  have operands := operand_operands allowed read
  exact Chain.group_wellFormed c operands.1 operands.2

theorem pipelineItems_wellFormed {ts : List Token} {items : List Expr} {rest : List Token}
    (allowed : OperatorsAllowed opOk ts) (read : (pipelineItems ts).read = .ok (items, rest)) :
    ∀ e ∈ items, e.WellFormed opOk := by
  cases ts with
  | nil =>
    rw [read_pipelineItems_nil] at read
    cases read
  | cons t more =>
    rcases pipelineItems_ok read with ⟨-, rfl, rfl⟩ | ⟨-, c, after, others, operandRead, -, othersRead, rfl⟩
    · intro e member
      cases member
    · have shorter := read_rest_shorter operandRead
      have dropped := length_dropComma_le after
      have head := operand_group_wellFormed allowed operandRead
      have afterAllowed := allowed.suffix ((dropComma_suffix after).trans (operand_suffix operandRead))
      have tail := pipelineItems_wellFormed afterAllowed othersRead
      intro e member
      rcases List.mem_cons.1 member with rfl | later
      · exact head
      · exact tail e later
termination_by ts.length
decreasing_by
  all_goals
    subst_vars
    simp only [List.length_cons] at *
    omega

mutual

theorem decl_wellFormed {ts : List Token} {d : Decl} {rest : List Token}
    (allowed : OperatorsAllowed opOk ts) (read : (decl ts).read = .ok (d, rest)) :
    d.WellFormed opOk false := by
  cases ts with
  | nil =>
    rw [read_decl_nil] at read
    cases read
  | cons t more =>
    rw [read_decl_cons] at read
    split at read
    · exact block_wellFormed (allowed.suffix (List.suffix_cons t more)) read
    · split at read
      · cases read
      · obtain ⟨⟨v, after⟩, variableRead, same⟩ := map_eq_ok.1 read
        cases same
        exact variableAt_valid variableRead
termination_by (ts.length, 3)
decreasing_by all_goals exact rank_lt (by grind)

theorem block_wellFormed {k : BlockKeyword} {word : String} {ts : List Token} {d : Decl}
    {rest : List Token} (allowed : OperatorsAllowed opOk ts)
    (read : (block k word ts).read = .ok (d, rest)) : d.WellFormed opOk false := by
  have named : ∀ {n t : Token} {inner : List Token}, inner <:+ n :: t :: inner := fun {n t inner} =>
    (List.suffix_cons t inner).trans (List.suffix_cons n _)
  cases k with
  | component =>
    rw [read_block_component] at read
    obtain ⟨n, t, inner, items, rfl, reserved, shaped, _, itemsRead, rfl⟩ := namedBlockRead_ok read
    exact ⟨⟨shaped, reserved⟩, decls_wellFormed (allowed.suffix named) itemsRead⟩
  | logic =>
    rw [read_block_logic] at read
    obtain ⟨n, t, inner, items, rfl, reserved, shaped, _, itemsRead, rfl⟩ := namedBlockRead_ok read
    exact ⟨⟨shaped, reserved⟩, logicItems_wellFormed (allowed.suffix named) itemsRead⟩
  | global =>
    rw [read_block_global] at read
    obtain ⟨t, inner, items, rfl, _, itemsRead, rfl⟩ := bracedRead_ok read
    exact decls_wellFormed (allowed.suffix (List.suffix_cons t inner)) itemsRead
  | publicSection =>
    rw [read_block_public] at read
    obtain ⟨t, inner, vars, rfl, _, varsRead, rfl⟩ := bracedRead_ok read
    exact sectionVariables_valid varsRead
  | privateSection =>
    rw [read_block_private] at read
    obtain ⟨t, inner, vars, rfl, _, varsRead, rfl⟩ := bracedRead_ok read
    exact sectionVariables_valid varsRead
  | pipeline =>
    rw [read_block_pipeline] at read
    obtain ⟨t, inner, items, rfl, _, itemsRead, rfl⟩ := bracedRead_ok read
    exact pipelineItems_wellFormed (allowed.suffix (List.suffix_cons t inner)) itemsRead
termination_by (ts.length, 2)
decreasing_by all_goals exact rank_lt (by grind)

theorem decls_wellFormed {ts : List Token} {ds : List Decl} {rest : List Token}
    (allowed : OperatorsAllowed opOk ts) (read : (decls ts).read = .ok (ds, rest)) :
    Decl.AllWellFormed opOk false ds := by
  cases ts with
  | nil =>
    rw [read_decls_nil] at read
    cases read
  | cons t more =>
    rcases decls_ok read with ⟨-, rfl, rfl⟩ | ⟨-, d, after, others, declRead, othersRead, rfl⟩
    · trivial
    · have shorter := read_rest_shorter declRead
      exact ⟨decl_wellFormed allowed declRead,
        decls_wellFormed (allowed.suffix (decl_suffix declRead)) othersRead⟩
termination_by (ts.length, 5)
decreasing_by all_goals exact rank_lt (by grind)

theorem logicItem_wellFormed {t : Token} {more : List Token} {d : Decl} {rest : List Token}
    (allowed : OperatorsAllowed opOk (t :: more)) (read : (logicItem t more).read = .ok (d, rest)) :
    d.WellFormed opOk true := by
  rw [read_logicItem] at read
  split at read
  · exact (decl_wellFormed allowed read).inLogic
  · split at read
    · obtain ⟨⟨v, after⟩, variableRead, same⟩ := map_eq_ok.1 read
      cases same
      exact variableAt_valid variableRead
    · obtain ⟨⟨c, after⟩, operandRead, same⟩ := map_eq_ok.1 read
      cases same
      exact ⟨rfl, operand_group_wellFormed allowed operandRead⟩
termination_by ((t :: more).length, 4)
decreasing_by all_goals exact rank_lt (by grind)

theorem logicItems_wellFormed {ts : List Token} {ds : List Decl} {rest : List Token}
    (allowed : OperatorsAllowed opOk ts) (read : (logicItems ts).read = .ok (ds, rest)) :
    Decl.AllWellFormed opOk true ds := by
  cases ts with
  | nil =>
    rw [read_logicItems_nil] at read
    cases read
  | cons t more =>
    rcases logicItems_ok read with ⟨-, rfl, rfl⟩ | ⟨-, d, after, others, itemRead, othersRead, rfl⟩
    · trivial
    · have shorter := read_rest_shorter itemRead
      exact ⟨logicItem_wellFormed allowed itemRead,
        logicItems_wellFormed (allowed.suffix (logicItem_suffix itemRead)) othersRead⟩
termination_by (ts.length, 5)
decreasing_by all_goals exact rank_lt (by grind)

end

theorem topDecls_wellFormed {ts : List Token} {ds : List Decl} (allowed : OperatorsAllowed opOk ts)
    (read : topDecls ts = .ok ds) : Decl.AllWellFormed opOk false ds := by
  cases ts with
  | nil =>
    rw [topDecls] at read
    cases read
    trivial
  | cons t more =>
    rw [topDecls_cons] at read
    split at read
    · cases read
    · rename_i d after declRead
      have shorter := read_rest_shorter declRead
      obtain ⟨others, othersRead, same⟩ := map_eq_ok.1 read
      cases same
      exact ⟨decl_wellFormed allowed declRead,
        topDecls_wellFormed (allowed.suffix (decl_suffix declRead)) othersRead⟩
termination_by ts.length
decreasing_by
  subst_vars
  exact shorter

end Allowed

end Parse

/-- Every program that the parser returns is well formed, whatever tokens it was given:
names and identifiers are valid names, numerals are digits, arrays are non-empty and hold
no operator, each kind of declaration stands only where the grammar allows it, and every
operator is the text of one of the given tokens that is an operator token once classified, and
groups with the binding strength of its word. -/
theorem parse_wellFormed (label : String) (ts : List Token) (p : Program)
    (parsed : Program.parse label ts = .ok p) :
    p.WellFormed fun op => ∃ t ∈ ts, t.classify.kind = .operator ∧ t.value = op := by
  have allowed : Parse.OperatorsAllowed (fun op => ∃ t ∈ ts, t.classify.kind = .operator ∧ t.value = op)
      (Token.classifyAll ts) := by
    intro o member operator
    obtain ⟨t, original, rfl⟩ := List.mem_map.1 member
    exact ⟨t, original, operator, (Token.classify_value t).symm⟩
  unfold Program.parse at parsed
  split at parsed
  · rename_i body bodyRead
    cases parsed
    exact Parse.topDecls_wellFormed allowed bodyRead
  · cases parsed

/-- The tokens of `logic core { a and b , }`. -/
def coreLogicTokens : List Token :=
  [⟨.text, "logic", ⟨0, 1, 0⟩⟩, ⟨.text, "core", ⟨6, 1, 6⟩⟩, ⟨.brace, "\x7b", ⟨11, 1, 11⟩⟩,
    ⟨.text, "a", ⟨13, 1, 13⟩⟩, ⟨.text, "and", ⟨15, 1, 15⟩⟩, ⟨.text, "b", ⟨19, 1, 19⟩⟩,
    ⟨.text, ",", ⟨21, 1, 21⟩⟩, ⟨.brace, "\x7d", ⟨23, 1, 23⟩⟩]

def coreLogicProgram : Program := ⟨[.logic "core" [.expression (.binary "and" (.name "a") (.name "b"))]]⟩

theorem coreLogic_parses : Program.parse "demo" coreLogicTokens = .ok coreLogicProgram := by
  simp [coreLogicTokens, coreLogicProgram, Program.parse, Token.classifyAll, Token.classify,
    Parse.topDecls_cons, Parse.topDecls_nil, Parse.read_decl_cons, Parse.read_block_logic, Parse.namedBlockRead,
    Parse.read_logicItems_cons, Parse.read_logicItem, Parse.read_operand_cons, Parse.read_literal,
    Parse.chainGoesOn, Parse.startsWith, Parse.dropComma, Keyword.isOperator, Keyword.isGate, Gate.ofWord?,
    BlockKeyword.ofWord?, Keyword.isReserved, Keyword.isNameShaped, Keyword.isNameChar, Keyword.isNumeral,
    Keyword.precedence, Keyword.punctuation, Datatype.ofWord?, connectWord, Token.is, Except.map, Chain.group,
    Chain.pushAll, Chain.push, Chain.reduceWhile]

/-- The block's one operator is the text of the classified `and` token. -/
theorem logic_block_wellFormed :
    Program.parse "demo" coreLogicTokens = .ok coreLogicProgram ∧
    Program.WellFormed (fun op => ∃ t ∈ coreLogicTokens, t.classify.kind = .operator ∧ t.value = op)
      coreLogicProgram :=
  ⟨coreLogic_parses, parse_wellFormed "demo" _ _ coreLogic_parses⟩

end Circuitry
