import Circuitry.Proofs.Syntax.ReadWellFormed

/-!
# The parser keeps every token

A program read from tokens prints back to the same tokens, in the same order, once commas are
left out on both sides: the parser drops no name, numeral, operator, brace, keyword or datatype
and makes none up. Commas are the exception because most of them are optional.

`Spells ts ws rest` says that the tokens `ts` are the words `ws` followed by the tokens `rest`,
commas aside. Each reading function gets a lemma that its input spells the printed form of what
it read, followed by what it left.
-/

namespace Circuitry

def withoutCommas (ws : List String) : List String := ws.filter (· != ",")

@[simp] theorem withoutCommas_nil : withoutCommas [] = [] := rfl

@[simp] theorem withoutCommas_append (ws vs : List String) :
    withoutCommas (ws ++ vs) = withoutCommas ws ++ withoutCommas vs :=
  List.filter_append ..

@[simp] theorem withoutCommas_comma (ws : List String) : withoutCommas ("," :: ws) = withoutCommas ws := by
  simp [withoutCommas]

theorem withoutCommas_cons (w : String) (ws : List String) :
    withoutCommas (w :: ws) = withoutCommas [w] ++ withoutCommas ws := by
  rw [← withoutCommas_append]
  rfl

namespace Parse

/-- The tokens `ts` are the words `ws` followed by the tokens `rest`, commas aside. -/
def Spells (ts : List Token) (ws : List String) (rest : List Token) : Prop :=
  withoutCommas (ts.map Token.value) = withoutCommas ws ++ withoutCommas (rest.map Token.value)

theorem Spells.refl (ts : List Token) : Spells ts [] ts := by
  simp [Spells]

theorem Spells.trans {ts mid rest : List Token} {ws vs : List String} (first : Spells ts ws mid)
    (second : Spells mid vs rest) : Spells ts (ws ++ vs) rest := by
  unfold Spells at *
  rw [first, second, withoutCommas_append, List.append_assoc]

theorem Spells.cons {ts rest : List Token} {ws : List String} (spells : Spells ts ws rest) (t : Token) :
    Spells (t :: ts) (t.value :: ws) rest := by
  unfold Spells at *
  rw [List.map_cons, withoutCommas_cons t.value (ts.map Token.value), withoutCommas_cons t.value ws,
    spells, List.append_assoc]

theorem Spells.of_dropComma {ts rest : List Token} {ws : List String}
    (spells : Spells (dropComma ts) ws rest) : Spells ts ws rest := by
  unfold dropComma at spells
  split at spells
  · rename_i t more
    split at spells
    · rename_i comma
      have isComma : t.value = "," := by simpa [Token.is] using comma
      unfold Spells at *
      rw [List.map_cons, isComma, withoutCommas_comma, spells]
    · exact spells
  · exact spells

theorem Spells.congr {ts rest : List Token} {ws vs : List String} (spells : Spells ts ws rest)
    (same : withoutCommas ws = withoutCommas vs) : Spells ts vs rest := by
  unfold Spells at *
  rw [spells, same]

theorem Spells.token {t : Token} {ts : List Token} {w : String} (value : t.value = w) :
    Spells (t :: ts) [w] ts := by
  rw [← value]
  exact (Spells.refl ts).cons t

theorem value_of_is {t : Token} {w : String} (is : t.is w = true) : t.value = w := by
  simpa [Token.is] using is

theorem Datatype.ofWord?_eq_some {w : String} {d : Datatype} (read : Datatype.ofWord? w = some d) :
    w = d.word := by
  unfold Datatype.ofWord? at read
  split at read <;> cases read <;> rfl

theorem BlockKeyword.ofWord?_eq_some {w : String} {k : BlockKeyword}
    (read : BlockKeyword.ofWord? w = some k) : w = k.word := by
  unfold BlockKeyword.ofWord? at read
  split at read <;> cases read <;> rfl

theorem variableAt_spells {t : Token} {more : List Token} {v : Variable} {rest : List Token}
    (read : (variableAt t more).read = .ok (v, rest)) : Spells (t :: more) v.words rest := by
  obtain ⟨_, named, colon, d, rfl, isColon, datatype⟩ := variableAt_ok read
  have typeWord := Datatype.ofWord?_eq_some datatype
  have spelled : Spells (t :: colon :: d :: rest) [t.value, colon.value, d.value] rest :=
    (((Spells.refl rest).cons d).cons colon).cons t
  rw [value_of_is isColon, typeWord, ← named] at spelled
  exact spelled

theorem sectionVariables_spells {ts : List Token} {vars : List Variable} {rest : List Token}
    (read : (sectionVariables ts).read = .ok (vars, rest)) :
    Spells ts (Variable.sectionWords vars ++ ["\x7d"]) rest := by
  cases ts with
  | nil =>
    rw [read_sectionVariables_nil] at read
    cases read
  | cons t more =>
    rcases sectionVariables_ok read with ⟨close, rfl, rfl⟩ | ⟨-, v, after, others, variableRead, othersRead, rfl⟩
    · exact Spells.token (value_of_is close)
    · have shorter := read_rest_shorter variableRead
      have dropped := length_dropComma_le after
      have head := variableAt_spells variableRead
      have tail := (sectionVariables_spells othersRead).of_dropComma
      apply (head.trans tail).congr
      simp [Variable.sectionWords]
termination_by ts.length
decreasing_by
  subst_vars
  simp only [List.length_cons] at *
  omega

theorem withoutCommas_elementWords_cons (x : Expr) (ys : List Expr) :
    withoutCommas (Expr.elementWords (x :: ys)) =
      withoutCommas x.words ++ withoutCommas (Expr.elementWords ys) := by
  cases ys with
  | nil => simp [Expr.elementWords]
  | cons y ys => simp [Expr.elementWords]

mutual

theorem literal_spells {t : Token} {more : List Token} {x : Expr} {rest : List Token}
    (read : (literal t more).read = .ok (x, rest)) : Spells (t :: more) x.words rest := by
  rw [read_literal] at read
  by_cases bracket : t.is "["
  · rw [if_pos bracket] at read
    obtain ⟨⟨items, after⟩, itemsRead, same⟩ := map_eq_ok.1 read
    cases same
    have spelled := (elements_spells itemsRead).cons t
    rw [value_of_is bracket] at spelled
    exact spelled.congr (by simp [Expr.words])
  · rw [if_neg bracket] at read
    by_cases numeral : Keyword.isNumeral t.value
    · rw [if_pos numeral] at read
      cases read
      exact Spells.token rfl
    · rw [if_neg numeral] at read
      by_cases shaped : Keyword.isNameShaped t.value
      · by_cases reserved : Keyword.isReserved t.value
        · simp only [if_pos shaped, if_pos reserved] at read
          cases read
        · simp only [if_pos shaped, if_neg reserved] at read
          cases read
          exact Spells.token rfl
      · rw [if_neg shaped] at read
        cases read
termination_by ((t :: more).length, 0)
decreasing_by all_goals exact rank_lt (by grind)

theorem elements_spells {ts : List Token} {first : Bool} {items : List Expr} {rest : List Token}
    (read : (elements ts first).read = .ok (items, rest)) :
    Spells ts (Expr.elementWords items ++ ["]"]) rest := by
  cases ts with
  | nil =>
    rw [read_elements_nil] at read
    cases read
  | cons t more =>
    rcases elements_ok read with ⟨close, -, rfl, rfl⟩ | ⟨-, x, after, others, literalRead, -, othersRead, rfl⟩
    · exact Spells.token (value_of_is close)
    · have shorter := read_rest_shorter literalRead
      have dropped := length_dropComma_le after
      have head := literal_spells literalRead
      have tail := (elements_spells othersRead).of_dropComma
      apply (head.trans tail).congr
      simp [withoutCommas_elementWords_cons]
termination_by (ts.length, 1)
decreasing_by all_goals exact rank_lt (by grind)

end

theorem operand_spells {ts : List Token} {lastOp : Option String} {c : Chain} {rest : List Token}
    (read : (operand ts lastOp).read = .ok (c, rest)) : Spells ts c.words rest := by
  cases ts with
  | nil =>
    rw [read_operand_nil] at read
    cases read
  | cons t more =>
    rw [read_operand_cons] at read
    split at read
    · cases read
    · split at read
      · cases read
      · split at read
        · cases read
        · rename_i x after literalRead
          have head := literal_spells literalRead
          have shorter := read_rest_shorter literalRead
          split at read
          · rename_i o after'
            split at read
            · obtain ⟨⟨tail, last⟩, tailRead, same⟩ := map_eq_ok.1 read
              cases same
              have tailSpells := (operand_spells tailRead).cons o
              rw [Chain.words_cons]
              exact head.trans tailSpells
            · cases read
              exact head.congr (by simp [Chain.words])
          · cases read
            exact head.congr (by simp [Chain.words])
termination_by ts.length
decreasing_by
  subst_vars
  simp only [List.length_cons] at *
  omega

theorem pipelineItems_spells {ts : List Token} {items : List Expr} {rest : List Token}
    (read : (pipelineItems ts).read = .ok (items, rest)) :
    Spells ts (Expr.itemWords items ++ ["\x7d"]) rest := by
  cases ts with
  | nil =>
    rw [read_pipelineItems_nil] at read
    cases read
  | cons t more =>
    rcases pipelineItems_ok read with ⟨close, rfl, rfl⟩ | ⟨-, c, after, others, operandRead, -, othersRead, rfl⟩
    · exact Spells.token (value_of_is close)
    · have shorter := read_rest_shorter operandRead
      have dropped := length_dropComma_le after
      have head := operand_spells operandRead
      rw [← Chain.group_words] at head
      have tail := (pipelineItems_spells othersRead).of_dropComma
      apply (head.trans tail).congr
      simp [Expr.itemWords]
termination_by ts.length
decreasing_by
  all_goals
    subst_vars
    simp only [List.length_cons] at *
    omega

mutual

theorem decl_spells {ts : List Token} {d : Decl} {rest : List Token}
    (read : (decl ts).read = .ok (d, rest)) : Spells ts d.words rest := by
  cases ts with
  | nil =>
    rw [read_decl_nil] at read
    cases read
  | cons t more =>
    rw [read_decl_cons] at read
    split at read
    · rename_i k keyword
      obtain ⟨ws, printed, spelled⟩ := block_spells read
      rw [printed, ← BlockKeyword.ofWord?_eq_some keyword]
      exact spelled.cons t
    · split at read
      · cases read
      · obtain ⟨⟨v, after⟩, variableRead, same⟩ := map_eq_ok.1 read
        cases same
        exact variableAt_spells variableRead
termination_by (ts.length, 3)
decreasing_by all_goals exact rank_lt (by grind)

theorem block_spells {k : BlockKeyword} {word : String} {ts : List Token} {d : Decl}
    {rest : List Token} (read : (block k word ts).read = .ok (d, rest)) :
    ∃ ws, d.words = k.word :: ws ∧ Spells ts ws rest := by
  cases k with
  | component =>
    rw [read_block_component] at read
    obtain ⟨n, t, inner, items, rfl, _, _, brace, itemsRead, rfl⟩ := namedBlockRead_ok read
    have spelled := ((decls_spells itemsRead).cons t).cons n
    rw [value_of_is brace] at spelled
    exact ⟨_, rfl, spelled⟩
  | logic =>
    rw [read_block_logic] at read
    obtain ⟨n, t, inner, items, rfl, _, _, brace, itemsRead, rfl⟩ := namedBlockRead_ok read
    have spelled := ((logicItems_spells itemsRead).cons t).cons n
    rw [value_of_is brace] at spelled
    exact ⟨_, rfl, spelled⟩
  | global =>
    rw [read_block_global] at read
    obtain ⟨t, inner, items, rfl, brace, itemsRead, rfl⟩ := bracedRead_ok read
    have spelled := (decls_spells itemsRead).cons t
    rw [value_of_is brace] at spelled
    exact ⟨_, rfl, spelled⟩
  | publicSection =>
    rw [read_block_public] at read
    obtain ⟨t, inner, vars, rfl, brace, varsRead, rfl⟩ := bracedRead_ok read
    have spelled := (sectionVariables_spells varsRead).cons t
    rw [value_of_is brace] at spelled
    exact ⟨_, rfl, spelled⟩
  | privateSection =>
    rw [read_block_private] at read
    obtain ⟨t, inner, vars, rfl, brace, varsRead, rfl⟩ := bracedRead_ok read
    have spelled := (sectionVariables_spells varsRead).cons t
    rw [value_of_is brace] at spelled
    exact ⟨_, rfl, spelled⟩
  | pipeline =>
    rw [read_block_pipeline] at read
    obtain ⟨t, inner, items, rfl, brace, itemsRead, rfl⟩ := bracedRead_ok read
    have spelled := (pipelineItems_spells itemsRead).cons t
    rw [value_of_is brace] at spelled
    exact ⟨_, rfl, spelled⟩
termination_by (ts.length, 2)
decreasing_by all_goals exact rank_lt (by grind)

theorem decls_spells {ts : List Token} {ds : List Decl} {rest : List Token}
    (read : (decls ts).read = .ok (ds, rest)) : Spells ts (Decl.listWords ds ++ ["\x7d"]) rest := by
  cases ts with
  | nil =>
    rw [read_decls_nil] at read
    cases read
  | cons t more =>
    rcases decls_ok read with ⟨close, rfl, rfl⟩ | ⟨-, d, after, others, declRead, othersRead, rfl⟩
    · exact Spells.token (value_of_is close)
    · have shorter := read_rest_shorter declRead
      have spelled := (decl_spells declRead).trans (decls_spells othersRead)
      rw [← List.append_assoc] at spelled
      exact spelled
termination_by (ts.length, 5)
decreasing_by all_goals exact rank_lt (by grind)

theorem logicItem_spells {t : Token} {more : List Token} {d : Decl} {rest : List Token}
    (read : (logicItem t more).read = .ok (d, rest)) : Spells (t :: more) d.words rest := by
  rw [read_logicItem] at read
  split at read
  · exact decl_spells read
  · split at read
    · obtain ⟨⟨v, after⟩, variableRead, same⟩ := map_eq_ok.1 read
      cases same
      exact variableAt_spells variableRead
    · obtain ⟨⟨c, after⟩, operandRead, same⟩ := map_eq_ok.1 read
      cases same
      have spelled := operand_spells operandRead
      rw [← Chain.group_words] at spelled
      have skipped : Spells after [","] (dropComma after) := by
        apply Spells.of_dropComma
        exact (Spells.refl _).congr (by simp)
      exact spelled.trans skipped
termination_by ((t :: more).length, 4)
decreasing_by all_goals exact rank_lt (by grind)

theorem logicItems_spells {ts : List Token} {ds : List Decl} {rest : List Token}
    (read : (logicItems ts).read = .ok (ds, rest)) : Spells ts (Decl.listWords ds ++ ["\x7d"]) rest := by
  cases ts with
  | nil =>
    rw [read_logicItems_nil] at read
    cases read
  | cons t more =>
    rcases logicItems_ok read with ⟨close, rfl, rfl⟩ | ⟨-, d, after, others, itemRead, othersRead, rfl⟩
    · exact Spells.token (value_of_is close)
    · have shorter := read_rest_shorter itemRead
      have spelled := (logicItem_spells itemRead).trans (logicItems_spells othersRead)
      rw [← List.append_assoc] at spelled
      exact spelled
termination_by (ts.length, 5)
decreasing_by all_goals exact rank_lt (by grind)

end

theorem topDecls_spells {ts : List Token} {ds : List Decl} (read : topDecls ts = .ok ds) :
    Spells ts (Decl.listWords ds) [] := by
  cases ts with
  | nil =>
    rw [topDecls] at read
    cases read
    exact Spells.refl []
  | cons t more =>
    rw [topDecls_cons] at read
    split at read
    · cases read
    · rename_i d after declRead
      have shorter := read_rest_shorter declRead
      obtain ⟨others, othersRead, same⟩ := map_eq_ok.1 read
      cases same
      exact (decl_spells declRead).trans (topDecls_spells othersRead)
termination_by ts.length
decreasing_by
  subst_vars
  exact shorter

end Parse

/-- The parser loses no token and makes none up: a program read from tokens prints to the
same token texts in the same order, once the commas are left out on both sides. -/
theorem parse_keeps_tokens (label : String) (ts : List Token) (p : Program)
    (parsed : Program.parse label ts = .ok p) :
    p.words.filter (· != ",") = (ts.map Token.value).filter (· != ",") := by
  unfold Program.parse at parsed
  split at parsed
  · rename_i body bodyRead
    cases parsed
    have spelled := Parse.topDecls_spells bodyRead
    unfold Parse.Spells at spelled
    simp only [Token.classifyAll, List.map_map, List.map_nil, withoutCommas_nil, List.append_nil] at spelled
    have values : (Token.value ∘ Token.classify) = Token.value := funext Token.classify_value
    rw [values] at spelled
    exact spelled.symm
  · cases parsed

/-- The tokens of `public { x : input , y : wire }`. -/
def publicSectionTokens : List Token :=
  [⟨.text, "public", ⟨0, 1, 0⟩⟩, ⟨.brace, "\x7b", ⟨7, 1, 7⟩⟩, ⟨.text, "x", ⟨9, 1, 9⟩⟩,
    ⟨.text, ":", ⟨11, 1, 11⟩⟩, ⟨.text, "input", ⟨13, 1, 13⟩⟩, ⟨.text, ",", ⟨19, 1, 19⟩⟩,
    ⟨.text, "y", ⟨21, 1, 21⟩⟩, ⟨.text, ":", ⟨23, 1, 23⟩⟩, ⟨.text, "wire", ⟨25, 1, 25⟩⟩,
    ⟨.brace, "\x7d", ⟨30, 1, 30⟩⟩]

def publicSectionProgram : Program := ⟨[.publicSection [⟨"x", .input⟩, ⟨"y", .wire⟩]]⟩

/-- The section read without its last comma prints with it: the two agree once commas are left
out. -/
theorem public_section_keeps_tokens :
    Program.parse "demo" publicSectionTokens = .ok publicSectionProgram ∧
    publicSectionProgram.words.filter (· != ",") = (publicSectionTokens.map Token.value).filter (· != ",") := by
  have parsed : Program.parse "demo" publicSectionTokens = .ok publicSectionProgram := by
    simp [publicSectionTokens, publicSectionProgram, Program.parse, Token.classifyAll, Token.classify,
      Parse.topDecls_cons, Parse.topDecls_nil, Parse.read_decl_cons, Parse.read_block_public, Parse.bracedRead,
      Parse.read_sectionVariables_cons, Parse.read_variableAt, Parse.dropComma, Keyword.isOperator,
      Keyword.isGate, Gate.ofWord?, BlockKeyword.ofWord?, Keyword.isReserved, Keyword.isNameShaped,
      Keyword.isNameChar, Keyword.punctuation, Datatype.ofWord?, connectWord, Token.is, Except.map]
  exact ⟨parsed, parse_keeps_tokens "demo" _ _ parsed⟩

end Circuitry
