import Circuitry.Proofs.Syntax.Extension

/-!
# Finishing a reading that ran out

A reading function that runs out of input can always be finished: some tokens after its input
make it read a value up to their end (`Completes`). The tokens come from a small stock of text
tokens with no operator word among them, so classifying them leaves them as they are: a name
`a`, a colon, the datatype `wire`, braces and a closing bracket.

The proofs follow the reading functions: a sequence of two readings is finished by finishing
the first and then the second (`Completes.seq`), and a reading that has read its value up to
the end stays as it is when the next tokens cannot go on with it, as `OneMore` says.
-/

namespace Circuitry

def Token.plain (w : String) : Token := ⟨.text, w, ⟨0, 0, 0⟩⟩

@[simp] theorem Token.plain_value (w : String) : (Token.plain w).value = w := rfl

@[simp] theorem Token.plain_kind (w : String) : (Token.plain w).kind = .text := rfl

@[simp] theorem Token.plain_is (w v : String) : (Token.plain w).is v = (w == v) := rfl

theorem Token.classify_plain {w : String} (notOperator : Keyword.isOperator w = false) :
    (Token.plain w).classify = Token.plain w := by
  simp [Token.classify, Token.plain, notOperator]

namespace Parse

/-- Reading `p` and then some tokens that classifying leaves as they are reads a value up to
the end. -/
def Completes (F : Reader α) (p : List Token) : Prop :=
  ∃ rest v, (∀ t ∈ rest, t.classify = t) ∧ F (p ++ rest) = .ok (v, [])

namespace Completes

variable {F : Reader α} {p : List Token}

theorem cons {t : Token} (finished : Completes (fun q => F (t :: q)) p) : Completes F (t :: p) := by
  obtain ⟨rest, v, plain, done⟩ := finished
  exact ⟨rest, v, plain, done⟩

theorem map (f : α → β) (finished : Completes F p) :
    Completes (fun q => (F q).map fun r => (f r.1, r.2)) p := by
  obtain ⟨rest, v, plain, done⟩ := finished
  exact ⟨rest, f v, plain, by dsimp only; rw [done]; rfl⟩

theorem mapDropComma (f : α → β) (finished : Completes F p) :
    Completes (fun q => (F q).map fun r => (f r.1, dropComma r.2)) p := by
  obtain ⟨rest, v, plain, done⟩ := finished
  exact ⟨rest, f v, plain, by dsimp only; rw [done]; rfl⟩

theorem congr {G : Reader α} (finished : Completes F p) (same : ∀ rest, G (p ++ rest) = F (p ++ rest)) :
    Completes G p := by
  obtain ⟨rest, v, plain, done⟩ := finished
  exact ⟨rest, v, plain, by rw [same, done]⟩

theorem afterComma {G : Reader α} (nonempty : p ≠ []) (finished : Completes G (dropComma p)) :
    Completes (fun q => G (dropComma q)) p := by
  obtain ⟨rest, v, plain, done⟩ := finished
  refine ⟨rest, v, plain, ?_⟩
  rcases p with _ | ⟨t, more⟩
  · exact absurd rfl nonempty
  · by_cases comma : t.is ","
    · simpa [dropComma, comma] using done
    · simpa [dropComma, comma] using done

end Completes

theorem ok_append {A : Reader α} {ends : Token → Prop} (moreA : ∀ q y, OneMore A q y (ends y))
    {q r : List Token} {a : α} (done : A q = .ok (a, r)) (rest : List Token)
    (first : r = [] → ∀ y ∈ rest.head?, ends y) : A (q ++ rest) = .ok (a, r ++ rest) := by
  induction rest generalizing q r with
  | nil => simpa using done
  | cons y rest ih =>
    have step : A (q ++ [y]) = .ok (a, r ++ [y]) := by
      by_cases empty : r = []
      · subst empty
        exact (moreA q y).ended a done (first rfl y rfl)
      · exact (moreA q y).read a r done empty
    have later := ih step (fun nonempty => absurd nonempty (by simp))
    simpa using later

namespace Completes

variable {p : List Token}

theorem seq {A : Reader α} {B : α → Reader β} {ends : Token → Prop}
    (moreA : ∀ q y, OneMore A q y (ends y))
    (first : ∀ i, A p = .error ⟨i, none⟩ → Completes A p)
    (next : ∀ a r, A p = .ok (a, r) → r ≠ [] → ∀ i, B a r = .error ⟨i, none⟩ → Completes (B a) r)
    (empty : ∀ a i, B a [] = .error ⟨i, none⟩ →
      ∃ rest v, (∀ t ∈ rest, t.classify = t) ∧ (∀ y ∈ rest.head?, ends y) ∧ B a rest = .ok (v, []))
    (settled : ∀ a, Unstopped (B a [])) {i : SyntaxIssue}
    (failed : Parse.seq (A p) B = .error ⟨i, none⟩) : Completes (fun q => Parse.seq (A q) B) p := by
  -- After `A` read its value up to the end, `B` reads nothing or is finished from no input.
  have afterEnd : ∀ q a, A q = .ok (a, []) → Completes (fun q => Parse.seq (A q) B) q := by
    intro q a done
    rcases settled a with ⟨v, doneB⟩ | ⟨j, failedB⟩
    · exact ⟨[], v, fun _ member => absurd member List.not_mem_nil, by simpa [done] using doneB⟩
    · obtain ⟨rest, v, plain, heads, doneB⟩ := empty a j failedB
      refine ⟨rest, v, plain, ?_⟩
      dsimp only
      rw [ok_append moreA done rest fun _ => heads, seq_ok, List.nil_append, doneB]
  cases firstRead : A p with
  | error s =>
    rw [firstRead, seq_error] at failed
    cases failed
    obtain ⟨rest₁, a, plain₁, done⟩ := first i firstRead
    obtain ⟨rest₂, v, plain₂, doneAll⟩ := afterEnd (p ++ rest₁) a done
    refine ⟨rest₁ ++ rest₂, v, ?_, by simpa using doneAll⟩
    intro t member
    rcases List.mem_append.1 member with inFirst | inSecond
    · exact plain₁ t inFirst
    · exact plain₂ t inSecond
  | ok ar =>
    obtain ⟨a, r⟩ := ar
    rw [firstRead, seq_ok] at failed
    by_cases restEmpty : r = []
    · subst restEmpty
      simpa using afterEnd p a firstRead
    · obtain ⟨rest, v, plain, doneB⟩ := next a r firstRead restEmpty i failed
      refine ⟨rest, v, plain, ?_⟩
      dsimp only
      rw [ok_append moreA firstRead rest fun empty => absurd empty restEmpty, seq_ok, doneB]

theorem afterItem {G : Reader β} {r : List Token} {close : String} {issue : SyntaxIssue}
    (nonempty : r ≠ []) (inside : ∀ q, q <:+ r → ∀ i, G q = .error ⟨i, none⟩ → Completes G q)
    {i : SyntaxIssue} (failed : Parse.afterItem close issue G r = .error ⟨i, none⟩) :
    Completes (Parse.afterItem close issue G) r := by
  rcases r with _ | ⟨o, after⟩
  · exact absurd rfl nonempty
  · by_cases comma : o.is ","
    · have failedG : G after = .error ⟨i, none⟩ := by
        simpa [Parse.afterItem, startsWith, dropComma, comma] using failed
      refine cons ((inside after (List.suffix_cons o after) i failedG).congr fun rest => ?_)
      simp [Parse.afterItem, startsWith, dropComma, comma]
    · by_cases closes : o.is close
      · have failedG : G (o :: after) = .error ⟨i, none⟩ := by
          simpa [Parse.afterItem, startsWith, comma, closes] using failed
        refine (inside _ List.suffix_rfl i failedG).congr fun rest => ?_
        simp [Parse.afterItem, startsWith, comma, closes]
      · simp [Parse.afterItem, startsWith, comma, closes] at failed

end Completes

theorem plain_all (ws : List String) (notOperator : ws.all (fun w => !Keyword.isOperator w) = true) :
    ∀ t ∈ ws.map Token.plain, t.classify = t := by
  intro t member
  obtain ⟨w, inWords, rfl⟩ := List.mem_map.1 member
  exact Token.classify_plain (by simpa using List.all_eq_true.1 notOperator w inWords)

namespace Completes

theorem bracedRead (body : Reader β) (wrap : β → Decl) {ts : List Token} (empty : Completes body [])
    (inside : ∀ inner, inner.length < ts.length → ∀ i, body inner = .error ⟨i, none⟩ → Completes body inner)
    {i : SyntaxIssue} (failed : Parse.bracedRead body wrap ts = .error ⟨i, none⟩) :
    Completes (Parse.bracedRead body wrap) ts := by
  rcases ts with _ | ⟨t, inner⟩
  · obtain ⟨rest, v, plain, done⟩ := empty
    rw [List.nil_append] at done
    refine ⟨Token.plain "\x7b" :: rest, wrap v, ?_, ?_⟩
    · intro t member
      rcases List.mem_cons.1 member with rfl | later
      · exact Token.classify_plain (by decide)
      · exact plain t later
    · simp [Parse.bracedRead, done, Except.map]
  · by_cases brace : t.is "\x7b"
    · have failedBody : body inner = .error ⟨i, none⟩ :=
        map_eq_error.1 (by simpa [Parse.bracedRead, brace] using failed)
      refine cons (((inside inner (Nat.lt_succ_self _) i failedBody).map wrap).congr fun rest => ?_)
      simp [Parse.bracedRead, brace]
    · simp [Parse.bracedRead, brace] at failed

theorem namedBlockRead {word : String} (body : Reader (List Decl)) (wrap : String → List Decl → Decl)
    {ts : List Token} (empty : Completes body [])
    (inside : ∀ inner, inner.length < ts.length → ∀ i, body inner = .error ⟨i, none⟩ → Completes body inner)
    {i : SyntaxIssue} (failed : Parse.namedBlockRead word body wrap ts = .error ⟨i, none⟩) :
    Completes (Parse.namedBlockRead word body wrap) ts := by
  have reservedName : Keyword.isReserved (Token.plain "a").value = false := by decide
  have shapedName : Keyword.isNameShaped (Token.plain "a").value = true := by decide
  rcases ts with _ | ⟨n, more⟩
  · have braced : Completes (Parse.bracedRead body (wrap "a")) [] := bracedRead body (wrap "a") empty
      (fun inner shorter => absurd shorter (by simp)) (i := .expectedOpenBrace) rfl
    obtain ⟨rest, v, plain, done⟩ := braced
    refine ⟨Token.plain "a" :: rest, v, ?_, ?_⟩
    · intro t member
      rcases List.mem_cons.1 member with rfl | later
      · exact Token.classify_plain (by decide)
      · exact plain t later
    · rw [List.nil_append, namedBlockRead_cons reservedName shapedName]
      simpa [Token.plain] using done
  · by_cases reserved : Keyword.isReserved n.value
    · simp [Parse.namedBlockRead, reserved] at failed
    · by_cases shaped : Keyword.isNameShaped n.value
      · have named : ∀ after, Parse.namedBlockRead word body wrap (n :: after) =
            Parse.bracedRead body (wrap n.value) after :=
          namedBlockRead_cons (Bool.eq_false_iff.2 reserved) shaped
        rw [named] at failed
        refine cons ((bracedRead body (wrap n.value) empty (fun inner shorter => inside inner (Nat.lt_succ_of_lt shorter))
          failed).congr fun rest => ?_)
        rw [named]
      · simp [Parse.namedBlockRead, reserved, shaped] at failed

end Completes

/-! ### Closing what is open -/

theorem sectionVariables_close : (sectionVariables [Token.plain "\x7d"]).read = .ok ([], []) := by
  simp [read_sectionVariables_seq]

theorem decls_close : (decls [Token.plain "\x7d"]).read = .ok ([], []) := by
  simp [read_decls_seq]

theorem logicItems_close : (logicItems [Token.plain "\x7d"]).read = .ok ([], []) := by
  simp [read_logicItems_seq]

theorem pipelineItems_close : (pipelineItems [Token.plain "\x7d"]).read = .ok ([], []) := by
  simp [read_pipelineItems_seq]

theorem elements_close : (elements [Token.plain "]"] false).read = .ok ([], []) := by
  simp [read_elements_seq]

theorem literal_name (more : List Token) :
    (literal (Token.plain "a") more).read = .ok (.name "a", more) := by
  have numeral : Keyword.isNumeral "a" = false := by decide
  have shaped : Keyword.isNameShaped "a" = true := by decide
  have reserved : Keyword.isReserved "a" = false := by decide
  simp [read_literal, numeral, shaped, reserved]

theorem elements_single : (elements [Token.plain "a", Token.plain "]"] true).read =
    .ok ([.name "a"], []) := by
  simp [read_elements_seq, literal_name, afterItem, startsWith, Except.map]

theorem operand_name (lastOp : Option String) :
    (operand [Token.plain "a"] lastOp).read = .ok (⟨.name "a", []⟩, []) := by
  simp [read_operand_seq, literal_name, chainAfter]

theorem variableAt_wire {t : Token} (reserved : Keyword.isReserved t.value = false)
    (shaped : Keyword.isNameShaped t.value = true) :
    (variableAt t [Token.plain ":", Token.plain "wire"]).read = .ok (⟨t.value, .wire⟩, []) := by
  simp [read_variableAt, reserved, shaped, Datatype.ofWord?]

theorem decl_variable : (decl [Token.plain "a", Token.plain ":", Token.plain "wire"]).read =
    .ok (.var ⟨"a", .wire⟩, []) := by
  have keyword : BlockKeyword.ofWord? "a" = none := by decide
  have shaped : Keyword.isNameShaped "a" = true := by decide
  have reserved : Keyword.isReserved "a" = false := by decide
  simp [read_decl_cons, keyword, reserved, variableAt_wire (t := Token.plain "a") reserved shaped, Except.map]

/-! ### Every reading that runs out can be finished -/

theorem variableAt_completes {t : Token} {more : List Token} {i : SyntaxIssue}
    (failed : (variableAt t more).read = .error ⟨i, none⟩) :
    Completes (fun q => (variableAt t q).read) more := by
  cases reserved : Keyword.isReserved t.value with
  | true => simp [read_variableAt, reserved] at failed
  | false =>
  cases shaped : Keyword.isNameShaped t.value with
  | false => simp [read_variableAt, reserved, shaped] at failed
  | true =>
  rcases more with _ | ⟨colon, _ | ⟨d, more3⟩⟩
  · exact ⟨[Token.plain ":", Token.plain "wire"], _, plain_all [":", "wire"] (by decide),
      variableAt_wire reserved shaped⟩
  · by_cases colonFirst : colon.is ":"
    · refine ⟨[Token.plain "wire"], ⟨t.value, .wire⟩, plain_all ["wire"] (by decide), ?_⟩
      simp [read_variableAt, reserved, shaped, colonFirst, Datatype.ofWord?]
    · simp [read_variableAt, reserved, shaped, colonFirst] at failed
  · simp only [read_variableAt, reserved, shaped, Bool.false_eq_true, if_false, Bool.not_true] at failed
    split at failed
    · split at failed <;> cases failed
    · cases failed

theorem sectionVariables_completes {p : List Token} {i : SyntaxIssue}
    (failed : (sectionVariables p).read = .error ⟨i, none⟩) :
    Completes (fun q => (sectionVariables q).read) p := by
  have ih : ∀ q, q.length < p.length → ∀ i, (sectionVariables q).read = .error ⟨i, none⟩ →
      Completes (fun q => (sectionVariables q).read) q :=
    fun q shorter i failed => sectionVariables_completes failed
  cases p with
  | nil => exact ⟨[Token.plain "\x7d"], [], plain_all ["\x7d"] (by decide), sectionVariables_close⟩
  | cons t more =>
    by_cases close : t.is "\x7d"
    · simp [read_sectionVariables_seq, close] at failed
    rw [read_sectionVariables_seq, if_neg close] at failed
    have rest := Completes.seq (fun q y => variableAt_oneMore t q y)
      (fun _ failed => variableAt_completes failed)
      (fun v r read nonempty i failedRest => (Completes.afterComma (G := fun q => (sectionVariables q).read)
        nonempty (ih _ (by
          have := read_rest_shorter read
          have := length_dropComma_le r
          simp only [List.length_cons] at *
          omega) i (map_eq_error.1 failedRest))).map (v :: ·))
      (fun v _ _ => ⟨[Token.plain "\x7d"], [v], plain_all ["\x7d"] (by decide), fun _ _ => trivial,
        by simp [dropComma, sectionVariables_close, Except.map]⟩)
      (fun v => .inr ⟨.missingCloseBrace, by simp [dropComma, read_sectionVariables_nil, Except.map]⟩)
      failed
    exact Completes.cons (rest.congr fun rest => by rw [read_sectionVariables_seq, if_neg close])
termination_by p.length
decreasing_by exact shorter

mutual

theorem literal_completes {t : Token} {more : List Token} {i : SyntaxIssue}
    (failed : (literal t more).read = .error ⟨i, none⟩) : Completes (fun q => (literal t q).read) more := by
  by_cases bracket : t.is "["
  · rw [read_literal, if_pos bracket] at failed
    exact ((elements_completes (map_eq_error.1 failed)).map Expr.array).congr fun rest => by
      rw [read_literal, if_pos bracket]
  · -- Every other literal is read, or stopped at `t`.
    rw [read_literal, if_neg bracket] at failed
    split at failed
    · cases failed
    · split at failed
      · split at failed <;> cases failed
      · cases failed
termination_by ((t :: more).length, 0)
decreasing_by all_goals exact rank_lt (by grind)

theorem elements_completes {p : List Token} {first : Bool} {i : SyntaxIssue}
    (failed : (elements p first).read = .error ⟨i, none⟩) :
    Completes (fun q => (elements q first).read) p := by
  cases p with
  | nil =>
    cases first with
    | true =>
      exact ⟨[Token.plain "a", Token.plain "]"], _, plain_all ["a", "]"] (by decide), elements_single⟩
    | false => exact ⟨[Token.plain "]"], _, plain_all ["]"] (by decide), elements_close⟩
  | cons t more =>
    by_cases close : t.is "]"
    · cases first <;> simp [read_elements_seq, close] at failed
    rw [read_elements_seq, if_neg close] at failed
    have rest := Completes.seq (fun q y => literal_oneMore t q y)
      (fun _ failed => literal_completes failed)
      (fun e r read nonempty i failedRest => Completes.afterItem nonempty
        (fun q suffix i failedQ =>
          have shorter : q.length < (t :: more).length :=
            Nat.lt_of_le_of_lt suffix.length_le (read_rest_shorter read)
          (elements_completes (map_eq_error.1 failedQ)).map (e :: ·)) failedRest)
      (fun e _ _ => ⟨[Token.plain "]"], [e], plain_all ["]"] (by decide), fun _ _ => trivial,
        by simp [afterItem, startsWith, elements_close, Except.map]⟩)
      (fun e => .inr ⟨.unterminatedArray, by simp [afterItem, startsWith, read_elements_nil, Except.map]⟩)
      failed
    exact Completes.cons (rest.congr fun rest => by rw [read_elements_seq, if_neg close])
termination_by (p.length, 1)
decreasing_by all_goals exact rank_lt (by grind)

end

theorem operand_completes {p : List Token} {lastOp : Option String} {i : SyntaxIssue}
    (failed : (operand p lastOp).read = .error ⟨i, none⟩) :
    Completes (fun q => (operand q lastOp).read) p := by
  cases p with
  | nil => exact ⟨[Token.plain "a"], _, plain_all ["a"] (by decide), operand_name lastOp⟩
  | cons t more =>
    by_cases stop : (t.is "\x7d" || t.is ",")
    · simp [read_operand_seq, stop] at failed
    by_cases operator : t.kind = .operator
    · simp [read_operand_seq, stop, operator] at failed
    rw [read_operand_seq, if_neg stop, if_neg operator] at failed
    have rest := Completes.seq (fun q y => literal_oneMore t q y)
      (fun _ failed => literal_completes failed)
      (fun e r read nonempty i failedRest => by
        rcases r with _ | ⟨o, after⟩
        · exact absurd rfl nonempty
        · by_cases goesOn : chainGoesOn [o]
          · have shorter : after.length < (t :: more).length := by
              have := read_rest_shorter read
              simp only [List.length_cons] at *
              omega
            have failedChain : (operand after (some o.value)).read = .error ⟨i, none⟩ :=
              map_eq_error.1 (by simpa [chainAfter, goesOn] using failedRest)
            exact Completes.cons (((operand_completes failedChain).map
              fun c => (⟨e, (o.value, c.first) :: c.links⟩ : Chain)).congr fun rest => by
                simp [chainAfter, goesOn])
          · simp [chainAfter, goesOn] at failedRest)
      (fun e i failedEmpty => by simp [chainAfter] at failedEmpty)
      (fun e => .inl ⟨⟨e, []⟩, rfl⟩)
      failed
    exact Completes.cons (rest.congr fun rest => by rw [read_operand_seq, if_neg stop, if_neg operator])
termination_by p.length
decreasing_by
  subst_vars
  assumption

theorem pipelineItems_completes {p : List Token} {i : SyntaxIssue}
    (failed : (pipelineItems p).read = .error ⟨i, none⟩) :
    Completes (fun q => (pipelineItems q).read) p := by
  cases p with
  | nil => exact ⟨[Token.plain "\x7d"], _, plain_all ["\x7d"] (by decide), pipelineItems_close⟩
  | cons t more =>
    by_cases close : t.is "\x7d"
    · simp [read_pipelineItems_seq, close] at failed
    rw [read_pipelineItems_seq, if_neg close] at failed
    have rest := Completes.seq (A := fun q => (operand q none).read) (fun q y => operand_oneMore q none y)
      (fun _ failed => operand_completes failed)
      (fun c r read nonempty i failedRest => Completes.afterItem nonempty
        (fun q suffix i failedQ =>
          have shorter : q.length < (t :: more).length :=
            Nat.lt_of_le_of_lt suffix.length_le (read_rest_shorter read)
          (pipelineItems_completes (map_eq_error.1 failedQ)).map (c.group :: ·)) failedRest)
      (fun c _ _ => ⟨[Token.plain "\x7d"], [c.group], plain_all ["\x7d"] (by decide),
        by simp [chainGoesOn], by simp [afterItem, startsWith, pipelineItems_close, Except.map]⟩)
      (fun c => .inr ⟨.missingCloseBrace, by simp [afterItem, startsWith, read_pipelineItems_nil, Except.map]⟩)
      failed
    exact rest.congr fun rest => by rw [List.cons_append, read_pipelineItems_seq, if_neg close]
termination_by p.length
decreasing_by
  subst_vars
  assumption

theorem operand_single_runs_out {t : Token} {lastOp : Option String} {i : SyntaxIssue}
    (failed : (operand [t] lastOp).read = .error ⟨i, none⟩) :
    t.is "[" = true ∧ (t.is "\x7d" || t.is ",") = false ∧ t.kind ≠ .operator := by
  by_cases stop : (t.is "\x7d" || t.is ",")
  · simp [read_operand_seq, stop] at failed
  by_cases operator : t.kind = .operator
  · simp [read_operand_seq, stop, operator] at failed
  refine ⟨?_, Bool.eq_false_iff.2 stop, operator⟩
  cases bracket : t.is "[" with
  | true => rfl
  | false =>
    rw [read_operand_seq, if_neg stop, if_neg operator, read_literal, bracket] at failed
    simp only [Bool.false_eq_true, if_false] at failed
    split at failed
    · simp [chainAfter] at failed
    · split at failed
      · split at failed
        · cases failed
        · simp [chainAfter] at failed
      · cases failed

theorem logicItem_bracket {t : Token} (keyword : BlockKeyword.ofWord? t.value = none)
    (bracket : t.is "[" = true) (stop : (t.is "\x7d" || t.is ",") = false) (operator : t.kind ≠ .operator) :
    logicItemRead [t, Token.plain "a", Token.plain "]"] =
      .ok (.expression (Chain.group ⟨.array [.name "a"], []⟩), []) := by
  simp [logicItemRead, read_logicItem, keyword, startsWith, read_operand_seq, stop, operator, read_literal,
    bracket, elements_single, chainAfter, Except.map, dropComma]

mutual

theorem decl_completes {p : List Token} {i : SyntaxIssue} (failed : (decl p).read = .error ⟨i, none⟩) :
    Completes (fun q => (decl q).read) p := by
  cases p with
  | nil =>
    exact ⟨[Token.plain "a", Token.plain ":", Token.plain "wire"], _,
      plain_all ["a", ":", "wire"] (by decide), decl_variable⟩
  | cons t more =>
    cases keyword : BlockKeyword.ofWord? t.value with
    | some k =>
      have failedBlock : (block k t.value more).read = .error ⟨i, none⟩ := by
        simpa [read_decl_cons, keyword] using failed
      exact Completes.cons ((block_completes failedBlock).congr fun rest => by simp [read_decl_cons, keyword])
    | none =>
      by_cases reserved : Keyword.isReserved t.value
      · simp [read_decl_cons, keyword, reserved] at failed
      have failedVariable : (variableAt t more).read = .error ⟨i, none⟩ :=
        map_eq_error.1 (by simpa [read_decl_cons, keyword, reserved] using failed)
      exact Completes.cons (((variableAt_completes failedVariable).map Decl.var).congr fun rest => by
        simp [read_decl_cons, keyword, reserved])
termination_by (p.length, 3)
decreasing_by all_goals exact rank_lt (by grind)

theorem block_completes {k : BlockKeyword} {word : String} {p : List Token} {i : SyntaxIssue}
    (failed : (block k word p).read = .error ⟨i, none⟩) : Completes (fun q => (block k word q).read) p := by
  have declsClose : Completes (fun q => (decls q).read) [] :=
    ⟨[Token.plain "\x7d"], _, plain_all ["\x7d"] (by decide), decls_close⟩
  have variablesClose : Completes (fun q => (sectionVariables q).read) [] :=
    ⟨[Token.plain "\x7d"], _, plain_all ["\x7d"] (by decide), sectionVariables_close⟩
  cases k with
  | component =>
    rw [read_block_component] at failed
    exact (Completes.namedBlockRead (fun inner => (decls inner).read) _ declsClose
      (fun inner shorter i failed => decls_completes failed) failed).congr fun rest =>
        read_block_component word _
  | logic =>
    rw [read_block_logic] at failed
    exact (Completes.namedBlockRead (fun inner => (logicItems inner).read) _
      ⟨[Token.plain "\x7d"], _, plain_all ["\x7d"] (by decide), logicItems_close⟩
      (fun inner shorter i failed => logicItems_completes failed) failed).congr fun rest =>
        read_block_logic word _
  | global =>
    rw [read_block_global] at failed
    exact (Completes.bracedRead (fun inner => (decls inner).read) _ declsClose
      (fun inner shorter i failed => decls_completes failed) failed).congr fun rest =>
        read_block_global word _
  | publicSection =>
    rw [read_block_public] at failed
    exact (Completes.bracedRead (fun inner => (sectionVariables inner).read) _ variablesClose
      (fun inner _ i failed => sectionVariables_completes failed) failed).congr fun rest =>
        read_block_public word _
  | privateSection =>
    rw [read_block_private] at failed
    exact (Completes.bracedRead (fun inner => (sectionVariables inner).read) _ variablesClose
      (fun inner _ i failed => sectionVariables_completes failed) failed).congr fun rest =>
        read_block_private word _
  | pipeline =>
    rw [read_block_pipeline] at failed
    exact (Completes.bracedRead (fun inner => (pipelineItems inner).read) _
      ⟨[Token.plain "\x7d"], _, plain_all ["\x7d"] (by decide), pipelineItems_close⟩
      (fun inner _ i failed => pipelineItems_completes failed) failed).congr fun rest =>
        read_block_pipeline word _
termination_by (p.length, 2)
decreasing_by all_goals exact rank_lt (by grind)

theorem decls_completes {p : List Token} {i : SyntaxIssue} (failed : (decls p).read = .error ⟨i, none⟩) :
    Completes (fun q => (decls q).read) p := by
  cases p with
  | nil => exact ⟨[Token.plain "\x7d"], _, plain_all ["\x7d"] (by decide), decls_close⟩
  | cons t more =>
    by_cases close : t.is "\x7d"
    · simp [read_decls_seq, close] at failed
    rw [read_decls_seq, if_neg close] at failed
    have rest := Completes.seq (A := fun q => (decl q).read) (fun q y => decl_oneMore q y)
      (fun _ failed => decl_completes failed)
      (fun d r read nonempty i failedRest =>
        have shorter := read_rest_shorter read
        (decls_completes (map_eq_error.1 failedRest)).map (d :: ·))
      (fun d _ _ => ⟨[Token.plain "\x7d"], [d], plain_all ["\x7d"] (by decide), fun _ _ => trivial,
        by simp [decls_close, Except.map]⟩)
      (fun d => .inr ⟨.missingCloseBrace, by simp [read_decls_nil, Except.map]⟩)
      failed
    exact rest.congr fun rest => by rw [List.cons_append, read_decls_seq, if_neg close]
termination_by (p.length, 5)
decreasing_by all_goals exact rank_lt (by grind)

theorem logicItem_completes {t : Token} {more : List Token} {i : SyntaxIssue}
    (failed : logicItemRead (t :: more) = .error ⟨i, none⟩) : Completes logicItemRead (t :: more) := by
  cases keyword : BlockKeyword.ofWord? t.value with
  | some k =>
    have failedDecl : (decl (t :: more)).read = .error ⟨i, none⟩ := by
      simpa [logicItemRead, read_logicItem, keyword] using failed
    exact (decl_completes failedDecl).congr fun rest => by simp [logicItemRead, read_logicItem, keyword]
  | none =>
    by_cases isVariable : startsWith more ":"
    · -- A variable: the colon is there already.
      have nonempty : more ≠ [] := by
        rintro rfl
        cases isVariable
      have failedVariable : (variableAt t more).read = .error ⟨i, none⟩ :=
        map_eq_error.1 (by simpa [logicItemRead, read_logicItem, keyword, isVariable] using failed)
      exact Completes.cons (((variableAt_completes failedVariable).map Decl.var).congr fun rest => by
        simp [logicItemRead, read_logicItem, keyword, startsWith_append nonempty, isVariable])
    · have failedOperand : (operand (t :: more) none).read = .error ⟨i, none⟩ :=
        map_eq_error.1 (by simpa [logicItemRead, read_logicItem, keyword, isVariable] using failed)
      by_cases empty : more = []
      · -- A lone opening bracket: finishing it must not put a colon right after it.
        subst empty
        obtain ⟨bracket, stop, operator⟩ := operand_single_runs_out failedOperand
        exact ⟨[Token.plain "a", Token.plain "]"], _, plain_all ["a", "]"] (by decide),
          logicItem_bracket keyword bracket stop operator⟩
      · exact ((operand_completes failedOperand).mapDropComma fun c => Decl.expression c.group).congr
          fun rest => by simp [logicItemRead, read_logicItem, keyword, startsWith_append empty, isVariable]
termination_by ((t :: more).length, 4)
decreasing_by all_goals exact rank_lt (by grind)

theorem logicItems_completes {p : List Token} {i : SyntaxIssue}
    (failed : (logicItems p).read = .error ⟨i, none⟩) : Completes (fun q => (logicItems q).read) p := by
  cases p with
  | nil => exact ⟨[Token.plain "\x7d"], _, plain_all ["\x7d"] (by decide), logicItems_close⟩
  | cons t more =>
    by_cases close : t.is "\x7d"
    · simp [read_logicItems_seq, close] at failed
    rw [read_logicItems_seq, if_neg close] at failed
    have rest := Completes.seq (A := logicItemRead) (fun q y => logicItemRead_oneMore q y)
      (fun _ failed => logicItem_completes failed)
      (fun d r read nonempty i failedRest =>
        have shorter := read_rest_shorter (s := logicItem t more) read
        (logicItems_completes (map_eq_error.1 failedRest)).map (d :: ·))
      (fun d _ _ => ⟨[Token.plain "\x7d"], [d], plain_all ["\x7d"] (by decide),
        by simp [Ends, chainGoesOn], by simp [logicItems_close, Except.map]⟩)
      (fun d => .inr ⟨.missingCloseBrace, by simp [read_logicItems_nil, Except.map]⟩)
      failed
    exact rest.congr fun rest => by rw [List.cons_append, read_logicItems_seq, if_neg close]
termination_by (p.length, 5)
decreasing_by all_goals exact rank_lt (by grind)

end

theorem topRead_completes {p : List Token} {i : SyntaxIssue} (failed : topRead p = .error ⟨i, none⟩) :
    Completes topRead p := by
  cases p with
  | nil => simp [topRead_nil] at failed
  | cons t more =>
    rw [topRead_cons] at failed
    have rest := Completes.seq (A := fun q => (decl q).read) (fun q y => decl_oneMore q y)
      (fun _ failed => decl_completes failed)
      (fun d r read nonempty i failedRest =>
        have shorter := read_rest_shorter read
        (topRead_completes (map_eq_error.1 failedRest)).map (d :: ·))
      (fun d i failedEmpty => by simp [topRead_nil, Except.map] at failedEmpty)
      (fun d => .inl ⟨[d], by simp [topRead_nil, Except.map]⟩)
      failed
    exact rest.congr fun rest => by rw [List.cons_append, topRead_cons]
termination_by p.length
decreasing_by
  subst_vars
  assumption

end Parse

end Circuitry
