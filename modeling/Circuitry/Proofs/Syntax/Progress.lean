import Circuitry.Proofs.Syntax.Completion

/-!
# Reading always moves on

A reading function is given the tokens of a list from some position on. When it succeeds it
hands back the tokens of the same list from a later position, never past the end: the cursor
moves strictly forward and stays inside the list. The loops of the parser (the declarations of
a program, the items of a block, the elements of an array) read one item per pass and every item
takes at least one token, so a loop that succeeds has read fewer items than it took tokens, and a
program has at most as many declarations as it has tokens.

That each reading function terminates is how it is defined: it returns the tokens after what it
read with the proof that they are fewer (`Parsed.shorter`), the measure of its recursion. What is
added here is that those tokens are the same list read further on.

The items of a public or private section and of a pipeline are read inline by their loops;
`listedVariable` and `pipelineItem` name them, and the loops are rewritten as reading them.
-/

namespace Circuitry
namespace Parse

/-! ### Cursors -/

/-- Reading from position `p` of `T` stopped at a later position `q` inside `T`: the tokens left
are those of `T` from `q` on. -/
def Advances (T : List Token) (p : Nat) (rest : List Token) : Prop :=
  ∃ q, p < q ∧ q ≤ T.length ∧ rest = T.drop q

/-- A reader that, whenever it succeeds at a position of a token list, stops at a later position
of the same list. -/
def MovesOn (read : Reader α) : Prop :=
  ∀ (T : List Token) (p : Nat) (v : α) (rest : List Token),
    read (T.drop p) = .ok (v, rest) → Advances T p rest

/-- A reader started at a token, that moves on from every position of a list holding a token. -/
def MovesOnFrom (read : Token → Reader α) : Prop :=
  ∀ (T : List Token) (p : Nat) (t : Token) (more : List Token) (v : α) (rest : List Token),
    T.drop p = t :: more → read t more = .ok (v, rest) → Advances T p rest

/-- A loop that, whenever it succeeds, has read fewer items than it took tokens. -/
def CountsItems (read : Reader (List β)) : Prop :=
  ∀ (ts : List Token) (items : List β) (rest : List Token),
    read ts = .ok (items, rest) → items.length + rest.length < ts.length

theorem advances_of_suffix {T rest : List Token} {p : Nat} (suffix : rest <:+ T.drop p)
    (shorter : rest.length < (T.drop p).length) : Advances T p rest := by
  have dropped := List.suffix_iff_eq_drop.1 suffix
  rw [List.drop_drop] at dropped
  rw [List.length_drop] at shorter dropped
  exact ⟨p + (T.length - p - rest.length), by omega, by omega, dropped⟩

theorem MovesOn.of_suffix {read : Reader α}
    (progress : ∀ ts v rest, read ts = .ok (v, rest) → rest <:+ ts ∧ rest.length < ts.length) :
    MovesOn read := by
  intro T p v rest found
  obtain ⟨suffix, shorter⟩ := progress _ _ _ found
  exact advances_of_suffix suffix shorter

theorem MovesOn.of_step {s : (ts : List Token) → Step ts α}
    (suffix : ∀ ts v rest, (s ts).read = .ok (v, rest) → rest <:+ ts) :
    MovesOn fun ts => (s ts).read :=
  .of_suffix fun _ _ _ found => ⟨suffix _ _ _ found, read_rest_shorter found⟩

theorem MovesOnFrom.of_suffix {read : Token → Reader α}
    (suffix : ∀ t more v rest, read t more = .ok (v, rest) → rest <:+ more) :
    MovesOnFrom read := by
  intro T p t more v rest here found
  have left := suffix _ _ _ _ found
  refine advances_of_suffix (here ▸ left.trans (List.suffix_cons t more)) ?_
  rw [here, List.length_cons]
  exact Nat.lt_succ_of_le left.length_le

/-! ### The items of sections and pipelines -/

def listedVariable (ts : List Token) : Except Slip (Variable × List Token) :=
  match ts with
  | t :: more => (variableAt t more).read.map fun r => (r.1, dropComma r.2)
  | [] => .error ⟨.invalidVariableName "", none⟩

def pipelineItem (ts : List Token) : Except Slip (Expr × List Token) :=
  seq (operand ts none).read fun c => afterItem "\x7d" .expectedItemEnd fun q => .ok (c.group, q)

theorem read_sectionVariables_listed (t : Token) (more : List Token) :
    (sectionVariables (t :: more)).read =
      if t.is "\x7d" then .ok ([], more)
      else seq (listedVariable (t :: more)) fun v rest =>
        (sectionVariables rest).read.map fun r => (v :: r.1, r.2) := by
  rw [read_sectionVariables_seq, listedVariable]
  split
  · rfl
  · rcases (variableAt t more).read with s | ⟨v, rest⟩ <;> rfl

theorem seq_afterItem {close : String} {issue : SyntaxIssue} (e : α) (r : List Token)
    (next : α → Reader β) :
    seq (afterItem close issue (fun q => .ok (e, q)) r) next = afterItem close issue (next e) r := by
  unfold afterItem
  split
  · rfl
  · split <;> rfl

theorem read_pipelineItems_items (t : Token) (more : List Token) :
    (pipelineItems (t :: more)).read =
      if t.is "\x7d" then .ok ([], more)
      else seq (pipelineItem (t :: more)) fun e rest =>
        (pipelineItems rest).read.map fun r => (e :: r.1, r.2) := by
  rw [read_pipelineItems_seq, pipelineItem]
  split
  · rfl
  · rcases (operand (t :: more) none).read with s | ⟨c, rest⟩
    · rfl
    · rw [seq_ok, seq_ok]
      exact (seq_afterItem c.group rest fun e rest =>
        (pipelineItems rest).read.map fun r => (e :: r.1, r.2)).symm

theorem afterItem_suffix {close : String} {issue : SyntaxIssue} {v w : α} {r rest : List Token}
    (read : afterItem close issue (fun q => .ok (v, q)) r = .ok (w, rest)) : rest <:+ r := by
  unfold afterItem at read
  split at read
  · cases read
    exact dropComma_suffix r
  · split at read
    · cases read
      exact List.suffix_refl r
    · cases read

theorem listedVariable_suffix {ts : List Token} {v : Variable} {rest : List Token}
    (read : listedVariable ts = .ok (v, rest)) : rest <:+ ts ∧ rest.length < ts.length := by
  cases ts with
  | nil => cases read
  | cons t more =>
    obtain ⟨⟨w, after⟩, variableRead, same⟩ := map_eq_ok.1 read
    cases same
    have left := (dropComma_suffix after).trans (variableAt_suffix variableRead)
    exact ⟨left.trans (List.suffix_cons t more), Nat.lt_succ_of_le left.length_le⟩

theorem pipelineItem_suffix {ts : List Token} {e : Expr} {rest : List Token}
    (read : pipelineItem ts = .ok (e, rest)) : rest <:+ ts ∧ rest.length < ts.length := by
  unfold pipelineItem at read
  cases operandRead : (operand ts none).read with
  | error s =>
    rw [operandRead, seq_error] at read
    cases read
  | ok r =>
    obtain ⟨c, after⟩ := r
    rw [operandRead, seq_ok] at read
    have left := afterItem_suffix read
    exact ⟨left.trans (operand_suffix operandRead),
      Nat.lt_of_le_of_lt left.length_le (read_rest_shorter operandRead)⟩

theorem logicItem_suffix_more {t : Token} {more : List Token} {d : Decl} {rest : List Token}
    (read : (logicItem t more).read = .ok (d, rest)) : rest <:+ more := by
  rcases List.suffix_cons_iff.1 (logicItem_suffix read) with whole | inner
  · have shorter := read_rest_shorter read
    rw [whole] at shorter
    exact absurd shorter (Nat.lt_irrefl _)
  · exact inner

/-! ### Loops -/

/-- A loop reader: whenever it succeeds it has either closed, reading nothing and taking at least
one token, or read an item taking at least one token and gone on from where the item stopped. -/
def Loop (read : Reader (List β)) : Prop :=
  ∀ (ts : List Token) (items : List β) (rest : List Token), read ts = .ok (items, rest) →
    (items = [] ∧ rest.length < ts.length) ∨
    ∃ item after others, after.length < ts.length ∧ read after = .ok (others, rest) ∧
      items = item :: others

theorem Loop.counts {read : Reader (List β)} (loop : Loop read) : CountsItems read := by
  intro ts items rest found
  rcases loop ts items rest found with ⟨rfl, shorter⟩ | ⟨item, after, others, shorter, othersRead, rfl⟩
  · simpa using shorter
  · have counted := loop.counts after others rest othersRead
    rw [List.length_cons]
    omega
termination_by ts => ts.length
decreasing_by exact shorter

theorem Loop.of_seq {read : Reader (List β)} (item : Reader β) (close : String)
    (nil : ∀ items rest, read [] ≠ .ok (items, rest))
    (cons : ∀ t more, read (t :: more) =
      if t.is close then .ok ([], more)
      else seq (item (t :: more)) fun v rest => (read rest).map fun r => (v :: r.1, r.2))
    (shorter : ∀ ts v after, item ts = .ok (v, after) → after.length < ts.length) : Loop read := by
  intro ts items rest found
  cases ts with
  | nil => exact absurd found (nil items rest)
  | cons t more =>
    rw [cons] at found
    split at found
    · cases found
      exact .inl ⟨rfl, Nat.lt_succ_self _⟩
    · cases itemRead : item (t :: more) with
      | error s =>
        rw [itemRead, seq_error] at found
        cases found
      | ok r =>
        obtain ⟨v, after⟩ := r
        rw [itemRead, seq_ok] at found
        obtain ⟨⟨others, last⟩, othersRead, same⟩ := map_eq_ok.1 found
        cases same
        exact .inr ⟨v, after, others, shorter _ _ _ itemRead, othersRead, rfl⟩

theorem decls_loop : Loop fun ts => (decls ts).read := by
  refine .of_seq (fun ts => (decl ts).read) "\x7d" ?_ read_decls_seq
    fun _ _ _ found => read_rest_shorter found
  intro items rest found
  rw [read_decls_nil] at found
  cases found

theorem logicItems_loop : Loop fun ts => (logicItems ts).read := by
  refine .of_seq logicItemRead "\x7d" ?_ read_logicItems_seq ?_
  · intro items rest found
    rw [read_logicItems_nil] at found
    cases found
  · intro ts d after found
    cases ts with
    | nil => cases found
    | cons t more => exact read_rest_shorter (show (logicItem t more).read = _ from found)

theorem sectionVariables_loop : Loop fun ts => (sectionVariables ts).read := by
  refine .of_seq listedVariable "\x7d" ?_ read_sectionVariables_listed
    fun _ _ _ found => (listedVariable_suffix found).2
  intro items rest found
  rw [read_sectionVariables_nil] at found
  cases found

theorem pipelineItems_loop : Loop fun ts => (pipelineItems ts).read := by
  refine .of_seq pipelineItem "\x7d" ?_ read_pipelineItems_items
    fun _ _ _ found => (pipelineItem_suffix found).2
  intro items rest found
  rw [read_pipelineItems_nil] at found
  cases found

theorem elements_pass (first : Bool) (ts : List Token) {items : List Expr} {rest : List Token}
    (found : (elements ts first).read = .ok (items, rest)) :
    (items = [] ∧ rest.length < ts.length) ∨
    ∃ item after others, after.length < ts.length ∧ (elements after false).read = .ok (others, rest) ∧
      items = item :: others := by
  cases ts with
  | nil =>
    rw [read_elements_nil] at found
    cases found
  | cons t more =>
    rcases elements_ok found with ⟨-, -, rfl, rfl⟩ | ⟨-, x, after, others, literalRead, -, othersRead, rfl⟩
    · exact .inl ⟨rfl, Nat.lt_succ_self _⟩
    · have shorter := read_rest_shorter literalRead
      have dropped := length_dropComma_le after
      refine .inr ⟨x, dropComma after, others, ?_, othersRead, rfl⟩
      rw [List.length_cons] at shorter ⊢
      omega

theorem elements_loop : Loop fun ts => (elements ts false).read :=
  fun ts _ _ found => elements_pass false ts found

theorem elements_counts (first : Bool) : CountsItems fun ts => (elements ts first).read := by
  intro ts items rest found
  rcases elements_pass first ts found with ⟨rfl, shorter⟩ | ⟨x, after, others, shorter, othersRead, rfl⟩
  · simpa using shorter
  · have counted := elements_loop.counts _ _ _ othersRead
    rw [List.length_cons]
    omega

theorem topDecls_length_le (ts : List Token) {ds : List Decl} (read : topDecls ts = .ok ds) :
    ds.length ≤ ts.length := by
  cases ts with
  | nil =>
    rw [topDecls_nil] at read
    cases read
    exact Nat.le_refl _
  | cons t more =>
    rw [topDecls_cons] at read
    split at read
    · cases read
    · rename_i d after declRead
      have shorter := read_rest_shorter declRead
      obtain ⟨others, othersRead, rfl⟩ := map_eq_ok.1 read
      have counted := topDecls_length_le after othersRead
      simp only [List.length_cons] at shorter ⊢
      omega
termination_by ts.length
decreasing_by
  subst_vars
  exact shorter

/-- Every reading function that succeeds stops strictly after where it started and not past
the end of the tokens: a declaration, a variable with or without its comma, a pipeline item, a
logic item, an operator chain, a literal, the elements of an array and a block of any kind.
Hence each loop, over the declarations of a body, the items of a logic block, a section or a
pipeline, or the elements of an array, reads fewer items than it takes tokens, and a program
read from a token list has at most as many declarations as the list has tokens. -/
theorem reading_moves_on :
    MovesOn (fun ts => (decl ts).read) ∧
    MovesOnFrom (fun t more => (variableAt t more).read) ∧
    MovesOn listedVariable ∧
    MovesOn pipelineItem ∧
    MovesOnFrom (fun t more => (logicItem t more).read) ∧
    (∀ lastOp, MovesOn fun ts => (operand ts lastOp).read) ∧
    MovesOnFrom (fun t more => (literal t more).read) ∧
    (∀ first, MovesOn fun ts => (elements ts first).read) ∧
    (∀ k word, MovesOn fun ts => (block k word ts).read) ∧
    CountsItems (fun ts => (decls ts).read) ∧
    CountsItems (fun ts => (logicItems ts).read) ∧
    CountsItems (fun ts => (sectionVariables ts).read) ∧
    CountsItems (fun ts => (pipelineItems ts).read) ∧
    (∀ first, CountsItems fun ts => (elements ts first).read) ∧
    ∀ label ts program, Program.parse label ts = .ok program → program.body.length ≤ ts.length := by
  refine ⟨.of_step fun _ _ _ => decl_suffix, .of_suffix fun _ _ _ _ => variableAt_suffix,
    .of_suffix fun _ _ _ => listedVariable_suffix,
    .of_suffix fun _ _ _ => pipelineItem_suffix, .of_suffix fun _ _ _ _ => logicItem_suffix_more,
    fun _ => .of_step fun _ _ _ => operand_suffix, .of_suffix fun _ _ _ _ => literal_suffix,
    fun _ => .of_step fun _ _ _ => elements_suffix, fun _ _ => .of_step fun _ _ _ => block_suffix,
    decls_loop.counts, logicItems_loop.counts, sectionVariables_loop.counts,
    pipelineItems_loop.counts, elements_counts, ?_⟩
  intro label ts program parsed
  unfold Program.parse at parsed
  split at parsed
  · rename_i body bodyRead
    cases parsed
    have counted := topDecls_length_le _ bodyRead
    rwa [Token.classifyAll, List.length_map] at counted
  · cases parsed

/-- The tokens of `x public { a : input , } y`. -/
def publicBetween : List Token :=
  [Token.plain "x", Token.plain "public", Token.plain "\x7b", Token.plain "a", Token.plain ":",
    Token.plain "input", Token.plain ",", Token.plain "\x7d", Token.plain "y"]

/-- The declaration read from `public`, at position 1, stops before `y`, at position 8. -/
theorem public_section_moves_on :
    (decl (publicBetween.drop 1)).read = .ok (.publicSection [⟨"a", .input⟩], [Token.plain "y"]) ∧
    Advances publicBetween 1 [Token.plain "y"] := by
  have read : (decl (publicBetween.drop 1)).read = .ok (.publicSection [⟨"a", .input⟩], [Token.plain "y"]) := by
    rw [publicBetween, List.drop_one, List.tail_cons, read_decl_cons]
    simp [read_block_public, bracedRead, read_sectionVariables_cons, read_variableAt, dropComma,
      Keyword.punctuation, Keyword.isOperator, Keyword.isGate, Gate.ofWord?, connectWord,
      BlockKeyword.ofWord?, Keyword.isReserved, Keyword.isNameShaped, Keyword.isNameChar,
      Datatype.ofWord?, Except.map]
  exact ⟨read, reading_moves_on.1 _ 1 _ _ read⟩

end Parse
end Circuitry
