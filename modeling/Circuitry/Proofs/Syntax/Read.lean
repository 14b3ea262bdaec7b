import Circuitry.Syntax.Program.Parse

/-!
# Parsing steps as plain results

Every reading function returns its value together with the tokens after it and the proof that
they are fewer. `Step.read` forgets that proof. This module restates each reading function as
an equation between such plain results, one lemma for each function and shape of its input,
so that proofs about the parser rewrite by these equations and never unfold the functions
themselves.
-/

namespace Circuitry
namespace Parse

def Step.read {ts : List Token} (s : Step ts α) : Except Slip (α × List Token) :=
  s.map fun p => (p.value, p.rest)

@[simp] theorem read_ok {ts : List Token} (p : Parsed ts α) :
    Step.read (.ok p) = .ok (p.value, p.rest) := rfl

@[simp] theorem read_error {ts : List Token} (s : Slip) :
    Step.read (.error s : Step ts α) = .error s := rfl

theorem map_eq_ok {f : α → β} {x : Except ε α} {b : β} :
    x.map f = .ok b ↔ ∃ a, x = .ok a ∧ f a = b := by
  cases x <;> simp [Except.map]

theorem read_rest_shorter {ts : List Token} {s : Step ts α} {v : α} {rest : List Token}
    (h : s.read = .ok (v, rest)) : rest.length < ts.length := by
  cases s with
  | error => cases h
  | ok p =>
    cases h
    exact p.shorter

theorem read_rest_le {ts : List Token} {s : Step ts α} {v : α} {rest : List Token}
    (h : s.read = .ok (v, rest)) : rest.length ≤ ts.length :=
  Nat.le_of_lt (read_rest_shorter h)

theorem read_lift_map {ts more : List Token} (s : Step more α) (f : α → β)
    (h : more.length ≤ ts.length) :
    Step.read (s.map fun p => (p.lift h).mapValue f) = s.read.map fun r => (f r.1, r.2) := by
  cases s <;> rfl

theorem read_map_value {ts : List Token} (s : Step ts α) (f : α → β) :
    Step.read (s.map (Parsed.mapValue f)) = s.read.map fun r => (f r.1, r.2) := by
  cases s <;> rfl

theorem opening_ok {ts body : List Token} {inside : body.length < ts.length}
    (h : opening ts = .ok ⟨body, inside⟩) : ∃ t, ts = t :: body ∧ t.is "\x7b" = true := by
  unfold opening at h
  split at h
  · split at h
    · cases h
      exact ⟨_, rfl, by assumption⟩
    · cases h
  · cases h

theorem opening_cons {t : Token} {body : List Token} (h : t.is "\x7b" = true) :
    opening (t :: body) = .ok ⟨body, Nat.lt_succ_self _⟩ := by
  simp [opening, h]

theorem read_variableAt (t : Token) (more : List Token) :
    (variableAt t more).read =
      if Keyword.isReserved t.value then .error ⟨.unexpected t.value, some t⟩
      else if !Keyword.isNameShaped t.value then .error ⟨.invalidVariableName t.value, some t⟩
      else
        match more with
        | colon :: more2 =>
          if colon.is ":" then
            match more2 with
            | d :: more3 =>
              match Datatype.ofWord? d.value with
              | some datatype => .ok (⟨t.value, datatype⟩, more3)
              | none => .error ⟨.unknownDatatype d.value, some d⟩
            | [] => .error ⟨.expectedDatatype t.value, none⟩
          else .error ⟨.expectedColon t.value, some colon⟩
        | [] => .error ⟨.expectedColon t.value, none⟩ := by
  unfold variableAt
  split
  · rfl
  · split
    · rfl
    · rcases more with _ | ⟨colon, _ | ⟨d, more3⟩⟩
      · rfl
      · dsimp only
        split <;> rfl
      · dsimp only
        split
        · cases Datatype.ofWord? d.value <;> rfl
        · rfl

theorem read_sectionVariables_nil : (sectionVariables []).read = .error ⟨.missingCloseBrace, none⟩ := by
  rw [sectionVariables]
  rfl

theorem read_sectionVariables_cons (t : Token) (more : List Token) :
    (sectionVariables (t :: more)).read =
      if t.is "\x7d" then .ok ([], more)
      else
        match (variableAt t more).read with
        | .error s => .error s
        | .ok (v, rest) => (sectionVariables (dropComma rest)).read.map fun r => (v :: r.1, r.2) := by
  rw [sectionVariables]
  split
  · rfl
  · rcases variableAt t more with s | ⟨v, rest, shorter⟩
    · rfl
    · exact read_lift_map _ _ _

theorem sectionVariables_ok {t : Token} {more : List Token} {vars : List Variable} {rest : List Token}
    (read : (sectionVariables (t :: more)).read = .ok (vars, rest)) :
    (t.is "\x7d" = true ∧ vars = [] ∧ rest = more) ∨
    (t.is "\x7d" = false ∧ ∃ v after others, (variableAt t more).read = .ok (v, after) ∧
      (sectionVariables (dropComma after)).read = .ok (others, rest) ∧ vars = v :: others) := by
  rw [read_sectionVariables_cons] at read
  by_cases close : t.is "\x7d"
  · rw [if_pos close] at read
    cases read
    exact .inl ⟨close, rfl, rfl⟩
  · rw [if_neg close] at read
    split at read
    · cases read
    · rename_i v after variableRead
      obtain ⟨⟨others, last⟩, othersRead, same⟩ := map_eq_ok.1 read
      cases same
      exact .inr ⟨Bool.eq_false_iff.2 close, v, after, others, variableRead, othersRead, rfl⟩

theorem read_literal (t : Token) (more : List Token) :
    (literal t more).read =
      if t.is "[" then (elements more true).read.map fun r => (Expr.array r.1, r.2)
      else if Keyword.isNumeral t.value then .ok (.numeral t.value, more)
      else if Keyword.isNameShaped t.value then
        if Keyword.isReserved t.value then .error ⟨.reservedIdentifier t.value, some t⟩
        else .ok (.name t.value, more)
      else .error ⟨.unexpectedInExpression t.value, some t⟩ := by
  rw [literal]
  split
  · exact read_lift_map _ _ _
  · split
    · rfl
    · split
      · split <;> rfl
      · rfl

theorem read_elements_nil (first : Bool) :
    (elements [] first).read = .error ⟨.unterminatedArray, none⟩ := by
  rw [elements]
  rfl

theorem read_elements_cons (t : Token) (more : List Token) (first : Bool) :
    (elements (t :: more) first).read =
      if t.is "]" then (if first then .error ⟨.emptyArray, some t⟩ else .ok ([], more))
      else
        match (literal t more).read with
        | .error s => .error s
        | .ok (x, rest) =>
          if startsWith rest "," then
            (elements (dropComma rest) false).read.map fun r => (x :: r.1, r.2)
          else if startsWith rest "]" || rest.isEmpty then
            (elements rest false).read.map fun r => (x :: r.1, r.2)
          else .error ⟨.expectedArrayEnd, rest.head?⟩ := by
  rw [elements]
  split
  · split <;> rfl
  · rcases literal t more with s | ⟨x, rest, shorter⟩
    · rfl
    · simp only [read_ok]
      by_cases comma : startsWith rest ","
      · simp only [if_pos comma]
        exact read_lift_map _ _ _
      · simp only [if_neg comma]
        by_cases close : (startsWith rest "]" || rest.isEmpty)
        · simp only [if_pos close]
          exact read_lift_map _ _ _
        · simp only [if_neg close]
          rfl

theorem dropComma_of_startsWith {ts : List Token} (notComma : startsWith ts "," = false) :
    dropComma ts = ts := by
  unfold dropComma
  split
  · rename_i t more
    rw [if_neg (by simpa [startsWith] using notComma)]
  · rfl

theorem elements_ok {t : Token} {more : List Token} {first : Bool} {items : List Expr}
    {rest : List Token} (read : (elements (t :: more) first).read = .ok (items, rest)) :
    (t.is "]" = true ∧ first = false ∧ items = [] ∧ rest = more) ∨
    (t.is "]" = false ∧ ∃ x after others, (literal t more).read = .ok (x, after) ∧
      (startsWith after "," || startsWith after "]" || after.isEmpty) = true ∧
      (elements (dropComma after) false).read = .ok (others, rest) ∧ items = x :: others) := by
  rw [read_elements_cons] at read
  by_cases close : t.is "]"
  · rw [if_pos close] at read
    cases first with
    | true => cases read
    | false =>
      cases read
      exact .inl ⟨close, rfl, rfl, rfl⟩
  · rw [if_neg close] at read
    split at read
    · cases read
    · rename_i x after literalRead
      refine .inr ⟨Bool.eq_false_iff.2 close, x, after, ?_⟩
      by_cases comma : startsWith after ","
      · rw [if_pos comma] at read
        obtain ⟨⟨others, last⟩, othersRead, same⟩ := map_eq_ok.1 read
        cases same
        exact ⟨others, literalRead, by simp [comma], othersRead, rfl⟩
      · rw [if_neg comma] at read
        by_cases stop : (startsWith after "]" || after.isEmpty)
        · rw [if_pos stop] at read
          obtain ⟨⟨others, last⟩, othersRead, same⟩ := map_eq_ok.1 read
          cases same
          rw [← dropComma_of_startsWith (Bool.eq_false_iff.2 comma)] at othersRead
          exact ⟨others, literalRead, by rw [Bool.or_assoc, stop, Bool.or_true], othersRead, rfl⟩
        · rw [if_neg stop] at read
          cases read

theorem read_operand_nil (lastOp : Option String) :
    (operand [] lastOp).read = .error ⟨missingOperand lastOp, none⟩ := by
  rw [operand]
  rfl

/-- Whether an operand is followed by one more operator of its chain. -/
def chainGoesOn : List Token → Bool
  | o :: _ => !(o.is "\x7d" || o.is ",") && o.kind = .operator
  | [] => false

theorem read_operand_cons (t : Token) (more : List Token) (lastOp : Option String) :
    (operand (t :: more) lastOp).read =
      if t.is "\x7d" || t.is "," then .error ⟨missingOperand lastOp, some t⟩
      else if t.kind = .operator then .error ⟨.missingLeftOperand t.value, some t⟩
      else
        match (literal t more).read with
        | .error s => .error s
        | .ok (x, rest) =>
          match rest with
          | o :: after =>
            if chainGoesOn (o :: after) then
              (operand after (some o.value)).read.map fun r =>
                (⟨x, (o.value, r.1.first) :: r.1.links⟩, r.2)
            else .ok (⟨x, []⟩, o :: after)
          | [] => .ok (⟨x, []⟩, []) := by
  rw [operand]
  split
  · rfl
  · split
    · rfl
    · rcases literal t more with s | ⟨x, _ | ⟨o, after⟩, shorter⟩
      · rfl
      · rfl
      · simp only [read_ok, chainGoesOn]
        by_cases goesOn : (!(o.is "\x7d" || o.is ",") && decide (o.kind = .operator)) = true
        · simp only [goesOn, if_true]
          exact read_lift_map _ _ _
        · simp only [goesOn]
          rfl

theorem read_decl_nil : (decl []).read = .error ⟨.expectedDeclaration, none⟩ := by
  rw [decl]
  rfl

theorem read_decl_cons (t : Token) (more : List Token) :
    (decl (t :: more)).read =
      match BlockKeyword.ofWord? t.value with
      | some k => (block k t.value more).read
      | none =>
        if Keyword.isReserved t.value then .error ⟨.unexpected t.value, some t⟩
        else (variableAt t more).read.map fun r => (Decl.var r.1, r.2) := by
  rw [decl]
  rcases BlockKeyword.ofWord? t.value with _ | k
  · dsimp only
    split
    · rfl
    · exact read_map_value _ _
  · dsimp only
    cases block k t.value more <;> rfl

def namedBlockRead (word : String) (body : List Token → Except Slip (List Decl × List Token))
    (wrap : String → List Decl → Decl) : List Token → Except Slip (Decl × List Token)
  | [] => .error ⟨.expectedName word, none⟩
  | n :: more =>
    if Keyword.isReserved n.value then .error ⟨.reservedName n.value word, some n⟩
    else if !Keyword.isNameShaped n.value then .error ⟨.invalidName word n.value, some n⟩
    else
      match more with
      | t :: inner =>
        if t.is "\x7b" then (body inner).map fun r => (wrap n.value r.1, r.2)
        else .error ⟨.expectedOpenBrace, some t⟩
      | [] => .error ⟨.expectedOpenBrace, none⟩

def bracedRead (body : List Token → Except Slip (β × List Token)) (wrap : β → Decl) :
    List Token → Except Slip (Decl × List Token)
  | t :: inner =>
    if t.is "\x7b" then (body inner).map fun r => (wrap r.1, r.2)
    else .error ⟨.expectedOpenBrace, some t⟩
  | [] => .error ⟨.expectedOpenBrace, none⟩

theorem read_opening_map {ts : List Token} (body : (inner : List Token) → Step inner β)
    (wrap : β → Decl) :
    Step.read (match opening ts with
      | .error s => .error s
      | .ok ⟨inner, inside⟩ =>
        (body inner).map fun p => (p.lift (Nat.le_of_lt inside)).mapValue wrap) =
      bracedRead (fun inner => (body inner).read) wrap ts := by
  rcases ts with _ | ⟨t, inner⟩
  · rfl
  · by_cases brace : t.is "\x7b"
    · simp only [opening, brace, if_true, bracedRead]
      exact read_lift_map _ _ _
    · simp [opening, brace, bracedRead, slipAt]

theorem read_block_named {k : BlockKeyword} (word : String) (ts : List Token)
    (named : k = .component ∨ k = .logic) :
    (block k word ts).read =
      namedBlockRead word (fun inner => if k = .logic then (logicItems inner).read else (decls inner).read)
        (fun n body => if k = .logic then Decl.logic n body else Decl.component n body) ts := by
  rcases named with rfl | rfl
  all_goals
    unfold block
    rcases ts with _ | ⟨n, more⟩
    · rfl
    · simp only [namedBlockRead]
      split
      · rfl
      · split
        · rfl
        · rcases more with _ | ⟨t, inner⟩
          · rfl
          · by_cases brace : t.is "\x7b"
            · simp only [opening, brace, if_true]
              exact read_lift_map _ _ _
            · simp [opening, brace, slipAt]

theorem read_block_component (word : String) (ts : List Token) :
    (block .component word ts).read =
      namedBlockRead word (fun inner => (decls inner).read) Decl.component ts := by
  simpa using read_block_named word ts (.inl rfl)

theorem read_block_logic (word : String) (ts : List Token) :
    (block .logic word ts).read =
      namedBlockRead word (fun inner => (logicItems inner).read) Decl.logic ts := by
  simpa using read_block_named word ts (.inr rfl)

theorem namedBlockRead_ok {word : String} {body : List Token → Except Slip (List Decl × List Token)}
    {wrap : String → List Decl → Decl} {ts : List Token} {d : Decl} {rest : List Token}
    (read : namedBlockRead word body wrap ts = .ok (d, rest)) :
    ∃ n t inner items, ts = n :: t :: inner ∧ Keyword.isReserved n.value = false ∧
      Keyword.isNameShaped n.value = true ∧ t.is "\x7b" = true ∧ body inner = .ok (items, rest) ∧
      d = wrap n.value items := by
  rcases ts with _ | ⟨n, _ | ⟨t, inner⟩⟩
  · cases read
  · simp only [namedBlockRead] at read
    split at read
    · cases read
    · split at read <;> cases read
  · simp only [namedBlockRead] at read
    split at read
    · cases read
    · rename_i reserved
      split at read
      · cases read
      · rename_i shaped
        split at read
        · rename_i brace
          obtain ⟨⟨items, after⟩, itemsRead, same⟩ := map_eq_ok.1 read
          cases same
          exact ⟨n, t, inner, items, rfl, by simpa using reserved, by simpa using shaped, brace,
            itemsRead, rfl⟩
        · cases read

theorem bracedRead_ok {body : List Token → Except Slip (β × List Token)} {wrap : β → Decl}
    {ts : List Token} {d : Decl} {rest : List Token}
    (read : bracedRead body wrap ts = .ok (d, rest)) :
    ∃ t inner v, ts = t :: inner ∧ t.is "\x7b" = true ∧ body inner = .ok (v, rest) ∧ d = wrap v := by
  rcases ts with _ | ⟨t, inner⟩
  · cases read
  · simp only [bracedRead] at read
    split at read
    · rename_i brace
      obtain ⟨⟨v, after⟩, bodyRead, same⟩ := map_eq_ok.1 read
      cases same
      exact ⟨t, inner, v, rfl, brace, bodyRead, rfl⟩
    · cases read

theorem read_block_global (word : String) (ts : List Token) :
    (block .global word ts).read = bracedRead (fun inner => (decls inner).read) Decl.global ts := by
  rw [block]
  exact read_opening_map _ _

theorem read_block_public (word : String) (ts : List Token) :
    (block .publicSection word ts).read =
      bracedRead (fun inner => (sectionVariables inner).read) Decl.publicSection ts := by
  rw [block]
  exact read_opening_map _ _

theorem read_block_private (word : String) (ts : List Token) :
    (block .privateSection word ts).read =
      bracedRead (fun inner => (sectionVariables inner).read) Decl.privateSection ts := by
  rw [block]
  exact read_opening_map _ _

theorem read_block_pipeline (word : String) (ts : List Token) :
    (block .pipeline word ts).read =
      bracedRead (fun inner => (pipelineItems inner).read) Decl.pipeline ts := by
  rw [block]
  exact read_opening_map _ _

theorem read_decls_nil : (decls []).read = .error ⟨.missingCloseBrace, none⟩ := by
  rw [decls]
  rfl

theorem read_decls_cons (t : Token) (more : List Token) :
    (decls (t :: more)).read =
      if t.is "\x7d" then .ok ([], more)
      else
        match (decl (t :: more)).read with
        | .error s => .error s
        | .ok (d, rest) => (decls rest).read.map fun r => (d :: r.1, r.2) := by
  rw [decls]
  split
  · rfl
  · rcases decl (t :: more) with s | ⟨d, rest, shorter⟩
    · rfl
    · exact read_lift_map _ _ _

theorem decls_ok {t : Token} {more : List Token} {ds : List Decl} {rest : List Token}
    (read : (decls (t :: more)).read = .ok (ds, rest)) :
    (t.is "\x7d" = true ∧ ds = [] ∧ rest = more) ∨
    (t.is "\x7d" = false ∧ ∃ d after others, (decl (t :: more)).read = .ok (d, after) ∧
      (decls after).read = .ok (others, rest) ∧ ds = d :: others) := by
  rw [read_decls_cons] at read
  by_cases close : t.is "\x7d"
  · rw [if_pos close] at read
    cases read
    exact .inl ⟨close, rfl, rfl⟩
  · rw [if_neg close] at read
    split at read
    · cases read
    · rename_i d after declRead
      obtain ⟨⟨others, last⟩, othersRead, same⟩ := map_eq_ok.1 read
      cases same
      exact .inr ⟨Bool.eq_false_iff.2 close, d, after, others, declRead, othersRead, rfl⟩

theorem read_logicItem (t : Token) (more : List Token) :
    (logicItem t more).read =
      match BlockKeyword.ofWord? t.value with
      | some _ => (decl (t :: more)).read
      | none =>
        if startsWith more ":" then (variableAt t more).read.map fun r => (Decl.var r.1, r.2)
        else (operand (t :: more) none).read.map fun r => (Decl.expression r.1.group, dropComma r.2) := by
  rw [logicItem]
  rcases BlockKeyword.ofWord? t.value with _ | k
  · dsimp only
    split
    · exact read_map_value _ _
    · rcases operand (t :: more) none with s | ⟨c, rest, shorter⟩ <;> rfl
  · rfl

theorem read_logicItems_nil : (logicItems []).read = .error ⟨.missingCloseBrace, none⟩ := by
  rw [logicItems]
  rfl

theorem read_logicItems_cons (t : Token) (more : List Token) :
    (logicItems (t :: more)).read =
      if t.is "\x7d" then .ok ([], more)
      else
        match (logicItem t more).read with
        | .error s => .error s
        | .ok (d, rest) => (logicItems rest).read.map fun r => (d :: r.1, r.2) := by
  rw [logicItems]
  split
  · rfl
  · rcases logicItem t more with s | ⟨d, rest, shorter⟩
    · rfl
    · exact read_lift_map _ _ _

theorem logicItems_ok {t : Token} {more : List Token} {ds : List Decl} {rest : List Token}
    (read : (logicItems (t :: more)).read = .ok (ds, rest)) :
    (t.is "\x7d" = true ∧ ds = [] ∧ rest = more) ∨
    (t.is "\x7d" = false ∧ ∃ d after others, (logicItem t more).read = .ok (d, after) ∧
      (logicItems after).read = .ok (others, rest) ∧ ds = d :: others) := by
  rw [read_logicItems_cons] at read
  by_cases close : t.is "\x7d"
  · rw [if_pos close] at read
    cases read
    exact .inl ⟨close, rfl, rfl⟩
  · rw [if_neg close] at read
    split at read
    · cases read
    · rename_i d after itemRead
      obtain ⟨⟨others, last⟩, othersRead, same⟩ := map_eq_ok.1 read
      cases same
      exact .inr ⟨Bool.eq_false_iff.2 close, d, after, others, itemRead, othersRead, rfl⟩

theorem read_pipelineItems_nil : (pipelineItems []).read = .error ⟨.missingCloseBrace, none⟩ := by
  rw [pipelineItems]
  rfl

theorem read_pipelineItems_cons (t : Token) (more : List Token) :
    (pipelineItems (t :: more)).read =
      if t.is "\x7d" then .ok ([], more)
      else
        match (operand (t :: more) none).read with
        | .error s => .error s
        | .ok (c, rest) =>
          if startsWith rest "," then
            (pipelineItems (dropComma rest)).read.map fun r => (c.group :: r.1, r.2)
          else if startsWith rest "\x7d" || rest.isEmpty then
            (pipelineItems rest).read.map fun r => (c.group :: r.1, r.2)
          else .error ⟨.expectedItemEnd, rest.head?⟩ := by
  rw [pipelineItems]
  split
  · rfl
  · rcases operand (t :: more) none with s | ⟨c, rest, shorter⟩
    · rfl
    · simp only [read_ok]
      by_cases comma : startsWith rest ","
      · simp only [if_pos comma]
        exact read_lift_map _ _ _
      · simp only [if_neg comma]
        by_cases close : (startsWith rest "\x7d" || rest.isEmpty)
        · simp only [if_pos close]
          exact read_lift_map _ _ _
        · simp only [if_neg close]
          rfl

theorem pipelineItems_ok {t : Token} {more : List Token} {items : List Expr} {rest : List Token}
    (read : (pipelineItems (t :: more)).read = .ok (items, rest)) :
    (t.is "\x7d" = true ∧ items = [] ∧ rest = more) ∨
    (t.is "\x7d" = false ∧ ∃ c after others, (operand (t :: more) none).read = .ok (c, after) ∧
      (startsWith after "," || startsWith after "\x7d" || after.isEmpty) = true ∧
      (pipelineItems (dropComma after)).read = .ok (others, rest) ∧ items = c.group :: others) := by
  rw [read_pipelineItems_cons] at read
  by_cases close : t.is "\x7d"
  · rw [if_pos close] at read
    cases read
    exact .inl ⟨close, rfl, rfl⟩
  · rw [if_neg close] at read
    split at read
    · cases read
    · rename_i c after operandRead
      refine .inr ⟨Bool.eq_false_iff.2 close, c, after, ?_⟩
      by_cases comma : startsWith after ","
      · rw [if_pos comma] at read
        obtain ⟨⟨others, last⟩, othersRead, same⟩ := map_eq_ok.1 read
        cases same
        exact ⟨others, operandRead, by simp [comma], othersRead, rfl⟩
      · rw [if_neg comma] at read
        by_cases stop : (startsWith after "\x7d" || after.isEmpty)
        · rw [if_pos stop] at read
          obtain ⟨⟨others, last⟩, othersRead, same⟩ := map_eq_ok.1 read
          cases same
          rw [← dropComma_of_startsWith (Bool.eq_false_iff.2 comma)] at othersRead
          exact ⟨others, operandRead, by rw [Bool.or_assoc, stop, Bool.or_true], othersRead, rfl⟩
        · rw [if_neg stop] at read
          cases read

theorem topDecls_nil : topDecls [] = .ok [] := by
  rw [topDecls]

theorem topDecls_cons (t : Token) (more : List Token) :
    topDecls (t :: more) =
      match (decl (t :: more)).read with
      | .error s => .error s
      | .ok (d, rest) => (topDecls rest).map (d :: ·) := by
  rw [topDecls]
  rcases decl (t :: more) with s | ⟨d, rest, shorter⟩ <;> rfl

end Parse

end Circuitry
