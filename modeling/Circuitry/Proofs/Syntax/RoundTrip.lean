import Circuitry.Proofs.Syntax.Reread
import Circuitry.Proofs.Token.Scanning

/-!
# Compiling the printed source

A well-formed program, printed with one space between two words, compiles back to itself.
Every word the printer writes for such a program scans as a token of its own
(`Program.WellFormed.scanWords`), so scanning the source gives one token a word, none an
operator token (`scanFrom_spaced`); classified, those tokens carry the program's words, and
the parser reads the program back from them (`Program.parse_carried`).
-/

namespace Circuitry

theorem Gate.ofWord?_eq_some {w : String} {g : Gate} (read : Gate.ofWord? w = some g) : w = g.word := by
  unfold Gate.ofWord? at read
  split at read <;> cases read <;> rfl

namespace ScanWord

theorem of_validName {w : String} (valid : ValidName w) : ScanWord w := .letters valid.1

theorem of_isOperator {w : String} (operator : Keyword.isOperator w = true) : ScanWord w := by
  unfold Keyword.isOperator Keyword.isGate at operator
  simp only [Bool.or_eq_true, Option.isSome_iff_exists, beq_iff_eq] at operator
  rcases operator with ⟨g, gate⟩ | arrow
  · rw [Gate.ofWord?_eq_some gate]
    exact .letters (by cases g <;> decide)
  · rw [arrow]
    exact .piece (by decide)

theorem keyword (k : BlockKeyword) : ScanWord k.word := .letters (by cases k <;> decide)

theorem datatype (d : Datatype) : ScanWord d.word := .letters (by cases d <;> decide)

end ScanWord

mutual

theorem Expr.Operand.scanWords : {x : Expr} → x.Operand → ∀ w ∈ x.words, ScanWord w
  | .name _, valid => by simpa [Expr.words] using ScanWord.of_validName valid
  | .numeral _, digits => by simpa [Expr.words] using ScanWord.digits digits
  | .array _, ⟨_, operands⟩ => by
    simp only [Expr.words, List.cons_append, List.forall_mem_cons, List.forall_mem_append,
      List.mem_singleton, forall_eq]
    exact ⟨.piece (by decide), Expr.Operands.scanWords operands, .piece (by decide)⟩
  | .binary _ _ _, operand => operand.elim

theorem Expr.Operands.scanWords : {xs : List Expr} → Expr.Operands xs →
    ∀ w ∈ Expr.elementWords xs, ScanWord w
  | [], _ => by simp [Expr.elementWords]
  | [_], ⟨operand, _⟩ => by simpa [Expr.elementWords] using operand.scanWords
  | _ :: _ :: _, ⟨operand, operands⟩ => by
    simp only [Expr.elementWords, List.forall_mem_append, List.forall_mem_cons]
    exact ⟨operand.scanWords, .piece (by decide), operands.scanWords⟩

end

theorem Expr.WellFormed.scanWords :
    {e : Expr} → e.WellFormed (fun op => Keyword.isOperator op = true) → ∀ w ∈ e.words, ScanWord w
  | .binary _ _ _, ⟨operator, _, _, lhsFormed, rhsFormed⟩ => by
    simp only [Expr.words, List.forall_mem_append, List.forall_mem_cons]
    exact ⟨lhsFormed.scanWords, .of_isOperator operator, rhsFormed.scanWords⟩
  | .name _, operand => Expr.Operand.scanWords (x := .name _) operand
  | .numeral _, operand => Expr.Operand.scanWords (x := .numeral _) operand
  | .array _, operand => Expr.Operand.scanWords (x := .array _) operand

theorem Variable.sectionWords_scanWords {vars : List Variable} (valid : ∀ v ∈ vars, ValidName v.name) :
    ∀ w ∈ Variable.sectionWords vars, ScanWord w := by
  intro w mem
  obtain ⟨v, member, inWords⟩ := List.mem_flatMap.1 mem
  simp only [Variable.words, List.cons_append, List.mem_cons, List.nil_append, List.not_mem_nil,
    or_false] at inWords
  rcases inWords with rfl | rfl | rfl | rfl
  · exact .of_validName (valid v member)
  · exact .piece (by decide)
  · exact .datatype v.datatype
  · exact .piece (by decide)

theorem Expr.itemWords_scanWords {items : List Expr}
    (formed : ∀ e ∈ items, e.WellFormed fun op => Keyword.isOperator op = true) :
    ∀ w ∈ Expr.itemWords items, ScanWord w := by
  intro w mem
  obtain ⟨e, member, inWords⟩ := List.mem_flatMap.1 mem
  rcases List.mem_append.1 inWords with inExpr | comma
  · exact (formed e member).scanWords w inExpr
  · rw [List.mem_singleton.1 comma]
    exact .piece (by decide)

mutual

theorem Decl.WellFormed.scanWords {inLogic : Bool} :
    {d : Decl} → d.WellFormed (fun op => Keyword.isOperator op = true) inLogic →
      ∀ w ∈ d.words, ScanWord w
  | .component _ _, ⟨valid, bodyFormed⟩ => by
    simp only [Decl.words, List.cons_append, List.forall_mem_cons, List.forall_mem_append,
      List.mem_singleton, forall_eq]
    exact ⟨.keyword _, .of_validName valid, .brace (.inl rfl), Decl.AllWellFormed.scanWords bodyFormed,
      .brace (.inr rfl)⟩
  | .logic _ _, ⟨valid, bodyFormed⟩ => by
    simp only [Decl.words, List.cons_append, List.forall_mem_cons, List.forall_mem_append,
      List.mem_singleton, forall_eq]
    exact ⟨.keyword _, .of_validName valid, .brace (.inl rfl), Decl.AllWellFormed.scanWords bodyFormed,
      .brace (.inr rfl)⟩
  | .global _, bodyFormed => by
    simp only [Decl.words, List.cons_append, List.forall_mem_cons, List.forall_mem_append,
      List.mem_singleton, forall_eq]
    exact ⟨.keyword _, .brace (.inl rfl), Decl.AllWellFormed.scanWords bodyFormed, .brace (.inr rfl)⟩
  | .publicSection _, valid => by
    simp only [Decl.words, List.cons_append, List.forall_mem_cons, List.forall_mem_append,
      List.mem_singleton, forall_eq]
    exact ⟨.keyword _, .brace (.inl rfl), Variable.sectionWords_scanWords valid, .brace (.inr rfl)⟩
  | .privateSection _, valid => by
    simp only [Decl.words, List.cons_append, List.forall_mem_cons, List.forall_mem_append,
      List.mem_singleton, forall_eq]
    exact ⟨.keyword _, .brace (.inl rfl), Variable.sectionWords_scanWords valid, .brace (.inr rfl)⟩
  | .pipeline _, itemsFormed => by
    simp only [Decl.words, List.cons_append, List.forall_mem_cons, List.forall_mem_append,
      List.mem_singleton, forall_eq]
    exact ⟨.keyword _, .brace (.inl rfl), Expr.itemWords_scanWords itemsFormed, .brace (.inr rfl)⟩
  | .var v, valid => by
    intro w mem
    simp only [Decl.words, Variable.words, List.mem_cons, List.not_mem_nil, or_false] at mem
    rcases mem with rfl | rfl | rfl
    · exact .of_validName valid
    · exact .piece (by decide)
    · exact .datatype v.datatype
  | .expression _, ⟨_, rootFormed⟩ => by
    simp only [Decl.words, List.forall_mem_append, List.mem_singleton, forall_eq]
    exact ⟨rootFormed.scanWords, .piece (by decide)⟩

theorem Decl.AllWellFormed.scanWords {inLogic : Bool} :
    {ds : List Decl} → Decl.AllWellFormed (fun op => Keyword.isOperator op = true) inLogic ds →
      ∀ w ∈ Decl.listWords ds, ScanWord w
  | [], _ => by simp [Decl.listWords]
  | _ :: _, ⟨formed, restFormed⟩ => by
    simp only [Decl.listWords, List.forall_mem_append]
    exact ⟨formed.scanWords, restFormed.scanWords⟩

end

theorem Program.WellFormed.scanWords {p : Program}
    (formed : p.WellFormed fun op => Keyword.isOperator op = true) : ∀ w ∈ p.words, ScanWord w :=
  Decl.AllWellFormed.scanWords formed

theorem Parse.Carries.of_scanned {ts : List Token} {ws : List String} (values : ts.map Token.value = ws)
    (kinds : ∀ t ∈ ts, t.kind ≠ .operator) : Parse.Carries (Token.classifyAll ts) ws := by
  unfold Parse.Carries Token.classifyAll
  rw [← values, List.map_map, List.map_map]
  refine List.map_congr_left fun t mem => ?_
  simp only [Function.comp_apply, Parse.reading, Parse.wordReading, Token.classify]
  split
  · rename_i operator
    simp [operator]
  · rename_i notOperator
    simp [kinds t mem, notOperator]

/-- A well-formed program compiles back to itself from its printed source. -/
theorem Program.compile_source (label : String) (p : Program)
    (formed : p.WellFormed fun op => Keyword.isOperator op = true) :
    Program.compile label p.source.toUTF8.toList = .ok p := by
  have words := formed.scanWords
  have bytes := toUTF8_intercalate p.words fun w mem => (words w mem).ascii
  obtain ⟨ts, scanned, values, kinds⟩ := scanFrom_spaced p.words words Cursor.start
  have twice : Token.classifyAll (Token.classifyAll ts) = Token.classifyAll ts := by
    simp [Token.classifyAll, Token.classify_classify]
  have carries : Parse.Carries (Token.classifyAll (Token.classifyAll ts)) p.words := by
    rw [twice]
    exact Parse.Carries.of_scanned values kinds
  have parsed := Program.parse_carried label formed carries
  unfold Program.compile tokenize scan
  rw [Program.source, bytes, scanned]
  simp only [Except.map]
  rw [parsed]

/-- A component with sections, a logic block and a pipeline. -/
def adderProgram : Program :=
  ⟨[.component "adder" [.publicSection [⟨"a", .input⟩, ⟨"b", .input⟩],
    .privateSection [⟨"c", .output⟩],
    .logic "core" [.expression (.binary "=>" (.binary "and" (.name "a") (.name "b")) (.name "c"))],
    .pipeline [.binary "xor" (.name "a") (.array [.name "b", .numeral "0"])]]]⟩

/-- The program compiles back from its printed source. -/
theorem adder_compiles :
    Program.WellFormed (fun op => Keyword.isOperator op = true) adderProgram ∧
    Program.compile "adder" (Program.source adderProgram).toUTF8.toList = .ok adderProgram := by
  have formed : Program.WellFormed (fun op => Keyword.isOperator op = true) adderProgram := by
    simp [adderProgram, Program.WellFormed, Decl.AllWellFormed, Decl.WellFormed, Expr.WellFormed, Expr.Operand,
      Expr.Operands, Expr.BindsAtLeast, ValidName, Keyword.isOperator, Keyword.isGate, Gate.ofWord?,
      Keyword.precedence, connectWord, Keyword.isReserved, Keyword.isNameShaped, Keyword.isNameChar,
      Keyword.isNumeral, Keyword.punctuation, BlockKeyword.ofWord?, Datatype.ofWord?]
  exact ⟨formed, Program.compile_source "adder" _ formed⟩

end Circuitry
