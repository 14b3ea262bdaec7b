import Circuitry.Proofs.Syntax.Completion

/-!
# Where the parser reports a structural fault

A token list is viable when some program starts with it. The parser reports a structural fault
where the tokens stop being viable: at the end of the input when they are viable as they are,
and otherwise at a token such that the tokens before it are viable and the tokens up to it are
not. There is one exception, the one place where the parser commits on a token of lookahead:
at the first token of a logic-body item a colon after it makes the item a variable, so a token
that is no variable name is reported there when the colon after it is what ends viability
(`logic L { 7 : wire }` is reported at `7`).

This holds for token lists whose tokens of operator kind hold operator words, as those that the
lexer produces do (`parse_fault_at_viable_edge`). A hand-made token of operator kind holding a
name is read as a missing left operand where it starts a logic item, though a colon after it
would make it a variable (`operator_kind_name_misreported`).

The proof follows the reading one token at a time. A slip at a token whose kind fits its word
stays at that token whatever comes after (`topRead_stays_stopped`), and a reading that has not
stopped at a token can be finished (`topRead_completes`); the fault is found at the first
prefix of the tokens where the reading stops at a token (`topRead_edge`).
-/

namespace Circuitry

/-- A token list is viable when some token list that starts with it is a program. -/
def Program.Viable (ts : List Token) : Prop :=
  ∃ rest p, Program.parse defaultLabel (ts ++ rest) = .ok p

theorem Token.KindFits.classify {t : Token} (fits : t.KindFits) : t.classify.KindFits := by
  intro operator
  unfold Token.classify at operator ⊢
  split
  · rename_i marked
    exact marked
  · rename_i unmarked
    rw [if_neg unmarked] at operator
    exact fits operator

theorem Token.kindFits_classifyAll {ts : List Token} (fits : ∀ t ∈ ts, t.KindFits) :
    ∀ u ∈ Token.classifyAll ts, u.KindFits := by
  intro u member
  obtain ⟨v, inTs, rfl⟩ := List.mem_map.1 member
  exact (fits v inTs).classify

theorem Token.classifyAll_append (ts rest : List Token) :
    Token.classifyAll (ts ++ rest) = Token.classifyAll ts ++ Token.classifyAll rest := by
  simp [Token.classifyAll]

theorem Token.classifyAll_eq_append_cons {ts p q : List Token} {x : Token}
    (split : Token.classifyAll ts = p ++ x :: q) :
    ∃ a y b, ts = a ++ y :: b ∧ Token.classifyAll a = p ∧ y.classify = x ∧ Token.classifyAll b = q := by
  obtain ⟨a, rest, rfl, classifiedA, classifiedRest⟩ := List.map_eq_append_iff.1 split
  obtain ⟨y, b, rfl, classifiedY, classifiedB⟩ := List.map_eq_cons_iff.1 classifiedRest
  exact ⟨a, y, b, rfl, classifiedA, classifiedY, classifiedB⟩

namespace Parse

/-- Reading stopped at the token `t`. -/
def StopsAt (t : Token) (r : Except Slip (α × List Token)) : Prop :=
  ∃ s, r = .error s ∧ s.token = some t

theorem NameSlip.token {t : Token} {s : Slip} (name : NameSlip t s) : s.token = some t := by
  rcases name with rfl | rfl <;> rfl

theorem topRead_ok {ts : List Token} {ds : List Decl} {rest : List Token}
    (done : topRead ts = .ok (ds, rest)) : topDecls ts = .ok ds ∧ rest = [] := by
  unfold topRead at done
  obtain ⟨ds', read, same⟩ := map_eq_ok.1 done
  cases same
  exact ⟨read, rfl⟩

theorem topRead_eq_error {ts : List Token} {s : Slip} : topRead ts = .error s ↔ topDecls ts = .error s :=
  map_eq_error

theorem topRead_unstopped_or_stops (ts : List Token) :
    Unstopped (topRead ts) ∨ ∃ t, StopsAt t (topRead ts) := by
  cases read : topRead ts with
  | ok vr =>
    obtain ⟨ds, rest⟩ := vr
    obtain ⟨-, rfl⟩ := topRead_ok read
    exact .inl (.inl ⟨ds, rfl⟩)
  | error s =>
    obtain ⟨issue, token⟩ := s
    cases token with
    | none => exact .inl (.inr ⟨issue, rfl⟩)
    | some t => exact .inr ⟨t, _, rfl, rfl⟩

theorem not_stopsAt_of_unstopped {r : Except Slip (α × List Token)} {t : Token} (unstopped : Unstopped r) :
    ¬StopsAt t r := by
  rintro ⟨s, failed, token⟩
  rw [unstopped.token_eq_none failed] at token
  cases token

theorem topRead_slip_mem {ts : List Token} {s : Slip} {u : Token} (failed : topRead ts = .error s)
    (token : s.token = some u) : u ∈ ts := by
  cases ts with
  | nil => simp [topRead_nil] at failed
  | cons t more =>
    rw [topRead_cons] at failed
    cases declRead : (decl (t :: more)).read with
    | error s' =>
      rw [declRead, seq_error] at failed
      cases failed
      exact decl_slip_mem declRead token
    | ok dr =>
      obtain ⟨d, rest⟩ := dr
      rw [declRead, seq_ok] at failed
      have shorter := read_rest_shorter declRead
      exact (decl_suffix declRead).subset (topRead_slip_mem (map_eq_error.1 failed) token)
termination_by ts.length
decreasing_by
  subst_vars
  assumption

theorem topRead_stays_stopped {t : Token} (fits : t.KindFits) :
    ∀ (rest p : List Token) (s : Slip), topRead p = .error s → s.token = some t →
      ∃ s', topRead (p ++ rest) = .error s' ∧ s'.token = some t ∧ (s' = s ∨ NameSlip t s')
  | [], p, s, failed, token => ⟨s, by simpa using failed, token, .inl rfl⟩
  | x :: rest, p, s, failed, token => by
    have step := (topRead_oneMore p x).stopped s t failed token fits
    rcases step with same | ⟨_, c, s', _, failed', name⟩
    · obtain ⟨s'', later, token', kept⟩ := topRead_stays_stopped fits rest (p ++ [x]) s same token
      exact ⟨s'', by simpa using later, token', kept⟩
    · obtain ⟨s'', later, token', kept⟩ := topRead_stays_stopped fits rest (p ++ [x]) s' failed' name.token
      refine ⟨s'', by simpa using later, token', .inr ?_⟩
      rcases kept with rfl | name'
      · exact name
      · exact name'

theorem topRead_unstopped_of_append {p q : List Token} (fits : ∀ t ∈ p, t.KindFits)
    (unstopped : Unstopped (topRead (p ++ q))) : Unstopped (topRead p) := by
  rcases topRead_unstopped_or_stops p with free | ⟨t, s, failed, token⟩
  · exact free
  · obtain ⟨s', later, token', -⟩ :=
      topRead_stays_stopped (fits t (topRead_slip_mem failed token)) q p s failed token
    exact absurd ⟨s', later, token'⟩ (not_stopsAt_of_unstopped unstopped)

theorem topRead_first_stop (pre : List Token) (free : Unstopped (topRead pre)) :
    ∀ ts : List Token, (∃ t, StopsAt t (topRead (pre ++ ts))) →
      ∃ p x q, pre ++ ts = p ++ x :: q ∧ Unstopped (topRead p) ∧ ∃ t, StopsAt t (topRead (p ++ [x]))
  | [], stops => by
    obtain ⟨t, stopped⟩ := stops
    rw [List.append_nil] at stopped
    exact absurd stopped (not_stopsAt_of_unstopped free)
  | x :: ts, stops => by
    rcases topRead_unstopped_or_stops (pre ++ [x]) with later | stopsHere
    · obtain ⟨p, y, q, whole, before, after⟩ := topRead_first_stop (pre ++ [x]) later ts (by simpa using stops)
      exact ⟨p, y, q, by simpa using whole, before, after⟩
    · exact ⟨pre, x, ts, rfl, free, stopsHere⟩

theorem topRead_edge {ts : List Token} (fits : ∀ t ∈ ts, t.KindFits) {s : Slip} {t : Token}
    (failed : topRead ts = .error s) (token : s.token = some t) :
    ∃ p x q, ts = p ++ x :: q ∧ Unstopped (topRead p) ∧ StopsAt t (topRead (p ++ [x])) ∧
      (t = x ∨ ∃ c, p = c ++ [t] ∧ x.is ":" = true ∧ NameSlip t s ∧ Unstopped (topRead c)) := by
  obtain ⟨p, x, q, whole, free, u, s₁, stopped, token₁⟩ :=
    topRead_first_stop [] (by rw [topRead_nil]; exact .inl ⟨[], rfl⟩) ts
      ⟨t, s, by simpa using failed, token⟩
  simp only [List.nil_append] at whole
  subst whole
  have fitsPrefix : ∀ v ∈ p ++ [x], v.KindFits := fun v member =>
    fits v (List.mem_append.2 ((List.mem_append.1 member).imp id fun last => by
      rw [List.mem_singleton.1 last]
      exact List.mem_cons_self ..))
  obtain ⟨s', final, token', kept⟩ := topRead_stays_stopped
    (fitsPrefix u (topRead_slip_mem stopped token₁)) q (p ++ [x]) s₁ stopped token₁
  rw [List.append_assoc, List.singleton_append, failed] at final
  cases final
  obtain rfl : t = u := Option.some.inj (token.symm.trans token')
  refine ⟨p, x, q, rfl, free, ⟨s₁, stopped, token₁⟩, ?_⟩
  rcases (topRead_oneMore p x).unsettled free with ⟨v, done | done⟩ | ⟨i, slip | slip⟩ |
      ⟨colon, c, t', s'', split, failed', name⟩
  · rw [stopped] at done
    cases done
  · rw [stopped] at done
    cases done
  · rw [stopped] at slip
    cases slip
    cases token₁
  · rw [stopped] at slip
    cases slip
    exact .inl (Option.some.inj token₁.symm)
  · rw [stopped] at failed'
    cases failed'
    obtain rfl : t = t' := Option.some.inj (token₁.symm.trans name.token)
    have nameFinal : NameSlip t s := by
      rcases kept with rfl | name'
      · exact name
      · exact name'
    subst split
    refine .inr ⟨c, rfl, colon, nameFinal, topRead_unstopped_of_append (q := [t])
      (fun v member => fitsPrefix v (by simp [member])) free⟩

end Parse

namespace Program

theorem parse_error {label : String} {ts : List Token} {f : StructuralFault}
    (failed : Program.parse label ts = .error f) :
    ∃ s, Parse.topRead (Token.classifyAll ts) = .error s ∧ f = ⟨label, s.issue, s.token⟩ := by
  unfold Program.parse at failed
  split at failed
  · cases failed
  · rename_i s read
    cases failed
    exact ⟨s, Parse.topRead_eq_error.2 read, rfl⟩

theorem viable_of_unstopped {ts : List Token} (unstopped : Parse.Unstopped (Parse.topRead (Token.classifyAll ts))) :
    Viable ts := by
  have accepted : ∀ rest ds, Parse.topRead (Token.classifyAll ts ++ rest) = .ok (ds, []) →
      (∀ t ∈ rest, t.classify = t) → Viable ts := by
    intro rest ds done plain
    have kept : Token.classifyAll rest = rest := (List.map_congr_left plain).trans (List.map_id rest)
    refine ⟨rest, ⟨ds⟩, ?_⟩
    rw [Program.parse, Token.classifyAll_append, kept, (Parse.topRead_ok done).1]
  rcases unstopped with ⟨ds, done⟩ | ⟨i, failed⟩
  · exact accepted [] ds (by simpa using done) (fun _ member => absurd member List.not_mem_nil)
  · obtain ⟨rest, ds, plain, done⟩ := Parse.topRead_completes failed
    exact accepted rest ds done plain

theorem not_viable_of_stopsAt {ts : List Token} {t : Token} (fits : t.KindFits)
    (stops : Parse.StopsAt t (Parse.topRead (Token.classifyAll ts))) : ¬Viable ts := by
  rintro ⟨rest, p, parsed⟩
  obtain ⟨s, failed, token⟩ := stops
  obtain ⟨s', later, -, -⟩ := Parse.topRead_stays_stopped fits (Token.classifyAll rest) _ s failed token
  have failedAll : Parse.topDecls (Token.classifyAll (ts ++ rest)) = .error s' := by
    rw [Token.classifyAll_append]
    exact Parse.topRead_eq_error.1 later
  unfold Program.parse at parsed
  rw [failedAll] at parsed
  cases parsed

/-- Where the parser reports a structural fault, for tokens whose kinds fit their words: at the
end of the input when the tokens are viable; otherwise at a token `ts[k]` such that the tokens
before it are viable, and either the tokens up to it are not, or it starts a logic item that is
no variable name and the colon after it ends viability. -/
theorem parse_fault_at_viable_edge {label : String} {ts : List Token} {f : StructuralFault}
    (fits : ∀ t ∈ ts, t.KindFits) (failed : Program.parse label ts = .error f) :
    (f.atEnd = true → Viable ts) ∧
    (f.atEnd = false → ∃ k, ∃ lt : k < ts.length,
      f.tokenValue = ts[k].value ∧ f.pos = ts[k].pos ∧ Viable (ts.take k) ∧
      (¬Viable (ts.take (k + 1)) ∨
        ∃ next : k + 1 < ts.length, ts[k + 1].value = ":" ∧ Viable (ts.take (k + 1)) ∧
          ¬Viable (ts.take (k + 2)) ∧
          (f.issue = .unexpected ts[k].value ∨ f.issue = .invalidVariableName ts[k].value))) := by
  obtain ⟨⟨issue, token⟩, read, rfl⟩ := parse_error failed
  refine ⟨fun atEnd => ?_, fun notAtEnd => ?_⟩
  · -- The reading ran out: the tokens are viable as they are.
    cases token with
    | none => exact viable_of_unstopped (.inr ⟨issue, read⟩)
    | some t => cases atEnd
  cases token with
  | none => cases notAtEnd
  | some t =>
  have fitsAll := Token.kindFits_classifyAll fits
  have fitsT : t.KindFits := fitsAll t (Parse.topRead_slip_mem read rfl)
  obtain ⟨p, x, q, split, free, stops, edge⟩ := Parse.topRead_edge fitsAll read rfl
  obtain ⟨a, y, b, rfl, classifiedA, classifiedY, -⟩ := Token.classifyAll_eq_append_cons split
  have upTo : Token.classifyAll (a ++ [y]) = p ++ [x] := by
    rw [Token.classifyAll_append, classifiedA]
    simp [Token.classifyAll, classifiedY]
  rcases edge with rfl | ⟨c, rfl, colon, name, freeC⟩
  · -- The fault is at the token where viability ends.
    have before : (a ++ y :: b).take a.length = a := List.take_left
    have upToFault : (a ++ y :: b).take (a.length + 1) = a ++ [y] :=
      List.take_length_add_append 1
    refine ⟨a.length, by simp, ?_, ?_, ?_, .inl ?_⟩
    · simp [StructuralFault.tokenValue, ← classifiedY]
    · simp [StructuralFault.pos, ← classifiedY]
    · rw [before]
      exact viable_of_unstopped (by rw [classifiedA]; exact free)
    · rw [upToFault]
      exact not_viable_of_stopsAt fitsT (by rw [upTo]; exact stops)
  · -- The fault is at the first token of a logic item, read as a variable's name.
    obtain ⟨a', z, e, rfl, classifiedA', classifiedZ, classifiedE⟩ :=
      Token.classifyAll_eq_append_cons classifiedA
    obtain rfl : e = [] := List.map_eq_nil_iff.1 classifiedE
    subst classifiedZ
    have colonValue : y.value = ":" := by
      rw [← Token.classify_value, classifiedY]
      exact Parse.value_of_is colon
    rw [List.append_assoc, List.singleton_append]
    have before : (a' ++ z :: y :: b).take a'.length = a' := List.take_left
    have upToName : (a' ++ z :: y :: b).take (a'.length + 1) = a' ++ [z] :=
      List.take_length_add_append 1
    have upToColon : (a' ++ z :: y :: b).take (a'.length + 2) = a' ++ [z] ++ [y] := by
      rw [List.take_length_add_append]
      simp
    refine ⟨a'.length, by simp, ?_, ?_, ?_, .inr ⟨by simp, ?_, ?_, ?_, ?_⟩⟩
    · simp [StructuralFault.tokenValue]
    · simp [StructuralFault.pos]
    · rw [before]
      exact viable_of_unstopped (by rw [classifiedA']; exact freeC)
    · simpa using colonValue
    · rw [upToName]
      exact viable_of_unstopped (by rw [classifiedA]; exact free)
    · rw [upToColon]
      exact not_viable_of_stopsAt fitsT (by rw [upTo]; exact stops)
    · rcases name with same | same <;> cases same
      · exact .inl (by simp)
      · exact .inr (by simp)

/-- In `logic L { 7 : wire }` the parser reports the numeral `7` as no variable name: at
the first token of a logic item, where the colon after it ends viability. -/
theorem seven_fault_at_viable_edge :
    let ts : List Token := [⟨.text, "logic", ⟨0, 1, 0⟩⟩, ⟨.text, "L", ⟨6, 1, 6⟩⟩,
      ⟨.brace, "\x7b", ⟨8, 1, 8⟩⟩, ⟨.text, "7", ⟨10, 1, 10⟩⟩, ⟨.text, ":", ⟨12, 1, 12⟩⟩,
      ⟨.text, "wire", ⟨14, 1, 14⟩⟩, ⟨.brace, "\x7d", ⟨19, 1, 19⟩⟩]
    let f : StructuralFault :=
      ⟨defaultLabel, .invalidVariableName "7", some ⟨.text, "7", ⟨10, 1, 10⟩⟩⟩
    (∀ t ∈ ts, t.KindFits) ∧ Program.parse defaultLabel ts = .error f ∧
      (f.atEnd = true → Viable ts) ∧
      (f.atEnd = false → ∃ k, ∃ lt : k < ts.length,
        f.tokenValue = ts[k].value ∧ f.pos = ts[k].pos ∧ Viable (ts.take k) ∧
        (¬Viable (ts.take (k + 1)) ∨
          ∃ next : k + 1 < ts.length, ts[k + 1].value = ":" ∧ Viable (ts.take (k + 1)) ∧
            ¬Viable (ts.take (k + 2)) ∧
            (f.issue = .unexpected ts[k].value ∨ f.issue = .invalidVariableName ts[k].value))) := by
  intro ts f
  have fits : ∀ t ∈ ts, t.KindFits := by
    simp [ts, Token.KindFits]
  have failed : Program.parse defaultLabel ts = .error f := by
    simp [ts, f, Program.parse, Token.classifyAll, Token.classify, Parse.topDecls_cons,
      Parse.read_decl_cons, Parse.read_block_logic, Parse.namedBlockRead, Parse.read_logicItems_cons,
      Parse.read_logicItem, Parse.read_variableAt, Parse.startsWith, Keyword.isOperator,
      Keyword.isGate, Gate.ofWord?, BlockKeyword.ofWord?, Datatype.ofWord?, Keyword.isReserved,
      Keyword.isNameShaped, Keyword.isNameChar, Keyword.punctuation, connectWord,
      Token.is, Except.map]
  exact ⟨fits, failed, parse_fault_at_viable_edge fits failed⟩

/-- A token of operator kind holding the name `x` where a logic item starts is reported as a
missing left operand at itself, yet no token of the input is where viability ends: the tokens
up to `x` are still viable (`x : wire` finishes them), and no colon follows it. -/
theorem operator_kind_name_misreported :
    let ts : List Token := [⟨.text, "logic", ⟨0, 1, 0⟩⟩, ⟨.text, "L", ⟨6, 1, 6⟩⟩,
      ⟨.brace, "\x7b", ⟨8, 1, 8⟩⟩, ⟨.operator, "x", ⟨10, 1, 10⟩⟩, ⟨.brace, "\x7d", ⟨12, 1, 12⟩⟩]
    let f : StructuralFault :=
      ⟨defaultLabel, .missingLeftOperand "x", some ⟨.operator, "x", ⟨10, 1, 10⟩⟩⟩
    Program.parse defaultLabel ts = .error f ∧
      ¬∃ k, ∃ lt : k < ts.length, f.tokenValue = ts[k].value ∧ f.pos = ts[k].pos ∧
        Viable (ts.take k) ∧
        (¬Viable (ts.take (k + 1)) ∨
          ∃ next : k + 1 < ts.length, ts[k + 1].value = ":" ∧ ¬Viable (ts.take (k + 2))) := by
  intro ts f
  have parsed : Program.parse defaultLabel ts = .error f := by
    simp [ts, f, Program.parse, Token.classifyAll, Token.classify, Parse.topDecls_cons,
      Parse.read_decl_cons, Parse.read_block_logic, Parse.namedBlockRead, Parse.read_logicItems_cons,
      Parse.read_logicItem, Parse.read_operand_cons, Parse.startsWith, Keyword.isOperator,
      Keyword.isGate, Gate.ofWord?, BlockKeyword.ofWord?, Datatype.ofWord?, Keyword.isReserved,
      Keyword.isNameShaped, Keyword.isNameChar, Keyword.punctuation, connectWord, Token.is,
      Except.map]
  have viableUpToName : Viable (ts.take 4) := by
    refine ⟨[Token.plain ":", Token.plain "wire", Token.plain "\x7d"],
      ⟨[.logic "L" [.var ⟨"x", .wire⟩]]⟩, ?_⟩
    simp [ts, Program.parse, Token.classifyAll, Token.classify, Parse.topDecls_cons,
      Parse.topDecls_nil, Parse.read_decl_cons, Parse.read_block_logic, Parse.namedBlockRead,
      Parse.read_logicItems_cons, Parse.read_logicItem, Parse.read_variableAt, Parse.startsWith,
      Keyword.isOperator, Keyword.isGate, Gate.ofWord?, BlockKeyword.ofWord?, Keyword.isReserved,
      Keyword.isNameShaped, Keyword.isNameChar, Keyword.punctuation, Datatype.ofWord?, connectWord,
      Token.is, Except.map]
  refine ⟨parsed, ?_⟩
  rintro ⟨k, lt, value, -, -, edge⟩
  obtain _ | _ | _ | _ | _ | k := k
  · simp [ts, f, StructuralFault.tokenValue] at value
  · simp [ts, f, StructuralFault.tokenValue] at value
  · simp [ts, f, StructuralFault.tokenValue] at value
  · rcases edge with notViable | ⟨_, colon, -⟩
    · exact notViable viableUpToName
    · simp [ts] at colon
  · simp [ts, f, StructuralFault.tokenValue] at value
  · simp only [ts, List.length_cons, List.length_nil] at lt
    omega

end Program

end Circuitry
