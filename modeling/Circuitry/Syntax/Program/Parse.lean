import Circuitry.Syntax.Chain
import Circuitry.Syntax.Fault
import Circuitry.Syntax.Token.Scan

/-!
# Reading a program from tokens

A recursive descent over the token list. A block keyword opens its block; any other word at
the head of a declaration starts a variable `name : datatype`. Blocks run from `{` to `}`.
Public and private sections list variables, a pipeline lists expressions, and a logic block
holds declarations, variables (recognised by the `:` after their name) and expressions. An
expression is an operator chain whose operands are numerals, names and bracketed arrays;
it ends at `}`, at `,`, at the end of the input, or at a token after an operand that is not
an operator.

The first problem stops the reading with the issue and the token where it was found. Every
successful step consumes at least one token, which is what bounds the recursion: each
function returns the rest of the tokens together with the proof that it is shorter.
-/

namespace Circuitry

def Token.is (t : Token) (w : String) : Bool := t.value == w

namespace Parse

/-- A value read from the front of `ts`, with the tokens after it, fewer than `ts`. -/
structure Parsed (ts : List Token) (α : Type) where
  value : α
  rest : List Token
  shorter : rest.length < ts.length

/-- Where reading stopped: the issue, and the token it was found at (`none` at the end). -/
structure Slip where
  issue : SyntaxIssue
  token : Option Token
deriving DecidableEq, Repr

abbrev Step (ts : List Token) (α : Type) := Except Slip (Parsed ts α)

def slipAt (ts : List Token) (issue : SyntaxIssue) : Except Slip β := .error ⟨issue, ts.head?⟩

def Parsed.lift {ts more : List Token} (p : Parsed more α) (h : more.length ≤ ts.length) :
    Parsed ts α :=
  ⟨p.value, p.rest, Nat.lt_of_lt_of_le p.shorter h⟩

theorem le_length_cons {n : Nat} {more : List Token} (t : Token) (h : n ≤ more.length) :
    n ≤ (t :: more).length :=
  Nat.le_succ_of_le h

def Parsed.mapValue {ts : List Token} (f : α → β) (p : Parsed ts α) : Parsed ts β :=
  ⟨f p.value, p.rest, p.shorter⟩

def startsWith (ts : List Token) (w : String) : Bool :=
  match ts with
  | t :: _ => t.is w
  | [] => false

def dropComma (ts : List Token) : List Token :=
  match ts with
  | t :: more => if t.is "," then more else ts
  | [] => []

theorem length_dropComma_le (ts : List Token) : (dropComma ts).length ≤ ts.length := by
  unfold dropComma
  split
  · split <;> simp
  · simp

def missingOperand : Option String → SyntaxIssue
  | some op => .missingRightOperand op
  | none => .expectedExpression

/-- A variable `name : datatype` starting with token `t`. -/
def variableAt (t : Token) (more : List Token) : Step (t :: more) Variable :=
  if Keyword.isReserved t.value then slipAt (t :: more) (.unexpected t.value)
  else if !Keyword.isNameShaped t.value then slipAt (t :: more) (.invalidVariableName t.value)
  else
    match more with
    | colon :: more2 =>
      if colon.is ":" then
        match more2 with
        | d :: more3 =>
          match Datatype.ofWord? d.value with
          | some datatype =>
            .ok ⟨⟨t.value, datatype⟩, more3, Nat.lt_succ_of_le (Nat.le_succ_of_le (Nat.le_succ _))⟩
          | none => slipAt (d :: more3) (.unknownDatatype d.value)
        | [] => slipAt [] (.expectedDatatype t.value)
      else slipAt (colon :: more2) (.expectedColon t.value)
    | [] => slipAt [] (.expectedColon t.value)

/-- The variables of a public or private section up to its `}`, each optionally followed by a
comma. -/
def sectionVariables (ts : List Token) : Step ts (List Variable) :=
  match ts with
  | [] => slipAt [] .missingCloseBrace
  | t :: more =>
    if t.is "\x7d" then .ok ⟨[], more, Nat.lt_succ_self _⟩
    else
      match variableAt t more with
      | .error s => .error s
      | .ok ⟨v, rest, shorter⟩ =>
        have fewer : rest.length ≤ more.length := Nat.le_of_lt_succ shorter
        have dropped := length_dropComma_le rest
        (sectionVariables (dropComma rest)).map fun p =>
          (p.lift (le_length_cons t (Nat.le_trans dropped fewer))).mapValue (v :: ·)
termination_by ts.length

def opening (ts : List Token) : Except Slip { body : List Token // body.length < ts.length } :=
  match ts with
  | t :: body => if t.is "\x7b" then .ok ⟨body, Nat.lt_succ_self _⟩ else slipAt (t :: body) .expectedOpenBrace
  | [] => slipAt [] .expectedOpenBrace

/-- The readers below descend on the pair (tokens left, rank of the reader), ordered
lexicographically. -/
theorem rank_lt {m n i j : Nat} (lt : m < n ∨ m = n ∧ i < j) :
    Prod.Lex (· < ·) (· < ·) (m, i) (n, j) :=
  Prod.lex_def.2 lt

mutual

/-- A literal operand starting with token `t`: an array, a numeral or a name. -/
def literal (t : Token) (more : List Token) : Step (t :: more) Expr :=
  if t.is "[" then
    (elements more true).map fun p => (p.lift (Nat.le_succ _)).mapValue Expr.array
  else if Keyword.isNumeral t.value then .ok ⟨.numeral t.value, more, Nat.lt_succ_self _⟩
  else if Keyword.isNameShaped t.value then
    if Keyword.isReserved t.value then slipAt (t :: more) (.reservedIdentifier t.value)
    else .ok ⟨.name t.value, more, Nat.lt_succ_self _⟩
  else slipAt (t :: more) (.unexpectedInExpression t.value)
termination_by ((t :: more).length, 0)
decreasing_by all_goals exact rank_lt (by grind)

/-- The elements of an array up to its `]`, separated by commas; `first` marks that none has
been read yet. -/
def elements (ts : List Token) (first : Bool) : Step ts (List Expr) :=
  match ts with
  | [] => slipAt [] .unterminatedArray
  | t :: more =>
    if t.is "]" then
      if first then slipAt (t :: more) .emptyArray else .ok ⟨[], more, Nat.lt_succ_self _⟩
    else
      match literal t more with
      | .error s => .error s
      | .ok ⟨x, rest, shorter⟩ =>
        have fewer : rest.length ≤ more.length := Nat.le_of_lt_succ shorter
        if startsWith rest "," then
          have dropped := length_dropComma_le rest
          (elements (dropComma rest) false).map fun p =>
            (p.lift (le_length_cons t (Nat.le_trans dropped fewer))).mapValue (x :: ·)
        else if startsWith rest "]" || rest.isEmpty then
          (elements rest false).map fun p => (p.lift (le_length_cons t fewer)).mapValue (x :: ·)
        else slipAt rest .expectedArrayEnd
termination_by (ts.length, 1)
decreasing_by all_goals exact rank_lt (by grind)

/-- An operator chain from its first operand on; `lastOp` is the operator before it, if any. -/
def operand (ts : List Token) (lastOp : Option String) : Step ts Chain :=
  match ts with
  | [] => slipAt [] (missingOperand lastOp)
  | t :: more =>
    if t.is "\x7d" || t.is "," then slipAt (t :: more) (missingOperand lastOp)
    else if t.kind = .operator then slipAt (t :: more) (.missingLeftOperand t.value)
    else
      match literal t more with
      | .error s => .error s
      | .ok ⟨x, rest, shorter⟩ =>
        match rest with
        | o :: after =>
          have fewer : after.length < more.length := Nat.lt_of_succ_lt_succ shorter
          if !(o.is "\x7d" || o.is ",") && o.kind = .operator then
            (operand after (some o.value)).map fun p =>
              (p.lift (le_length_cons t (Nat.le_of_lt fewer))).mapValue
                fun c => ⟨x, (o.value, c.first) :: c.links⟩
          else .ok ⟨⟨x, []⟩, o :: after, shorter⟩
        | [] => .ok ⟨⟨x, []⟩, [], shorter⟩
termination_by (ts.length, 1)
decreasing_by all_goals exact rank_lt (by grind)

/-- A declaration at the front of `ts`: a block, or a variable. -/
def decl (ts : List Token) : Step ts Decl :=
  match ts with
  | [] => slipAt [] .expectedDeclaration
  | t :: more =>
    match BlockKeyword.ofWord? t.value with
    | some k => (block k t.value more).map fun p => p.lift (Nat.le_succ _)
    | none =>
      if Keyword.isReserved t.value then slipAt (t :: more) (.unexpected t.value)
      else (variableAt t more).map (Parsed.mapValue Decl.var)
termination_by (ts.length, 3)
decreasing_by all_goals exact rank_lt (by grind)

/-- A block after its keyword `word`: the name for a component or logic block, then the
braced body. -/
def block (k : BlockKeyword) (word : String) (ts : List Token) : Step ts Decl :=
  match k with
  | .component | .logic =>
    match ts with
    | [] => slipAt [] (.expectedName word)
    | n :: more =>
      if Keyword.isReserved n.value then slipAt (n :: more) (.reservedName n.value word)
      else if !Keyword.isNameShaped n.value then slipAt (n :: more) (.invalidName word n.value)
      else
        match opening more with
        | .error s => .error s
        | .ok ⟨body, inside⟩ =>
          if k = .logic then
            (logicItems body).map fun p =>
              (p.lift (le_length_cons n (Nat.le_of_lt inside))).mapValue (Decl.logic n.value)
          else
            (decls body).map fun p =>
              (p.lift (le_length_cons n (Nat.le_of_lt inside))).mapValue (Decl.component n.value)
  | .global =>
    match opening ts with
    | .error s => .error s
    | .ok ⟨body, inside⟩ => (decls body).map fun p => (p.lift (Nat.le_of_lt inside)).mapValue Decl.global
  | .publicSection =>
    match opening ts with
    | .error s => .error s
    | .ok ⟨body, inside⟩ =>
      (sectionVariables body).map fun p => (p.lift (Nat.le_of_lt inside)).mapValue Decl.publicSection
  | .privateSection =>
    match opening ts with
    | .error s => .error s
    | .ok ⟨body, inside⟩ =>
      (sectionVariables body).map fun p => (p.lift (Nat.le_of_lt inside)).mapValue Decl.privateSection
  | .pipeline =>
    match opening ts with
    | .error s => .error s
    | .ok ⟨body, inside⟩ => (pipelineItems body).map fun p => (p.lift (Nat.le_of_lt inside)).mapValue Decl.pipeline
termination_by (ts.length, 2)
decreasing_by all_goals exact rank_lt (by grind)

/-- The declarations of a component or global body up to its `}`. -/
def decls (ts : List Token) : Step ts (List Decl) :=
  match ts with
  | [] => slipAt [] .missingCloseBrace
  | t :: more =>
    if t.is "\x7d" then .ok ⟨[], more, Nat.lt_succ_self _⟩
    else
      match decl (t :: more) with
      | .error s => .error s
      | .ok ⟨d, rest, shorter⟩ => (decls rest).map fun p => (p.lift (Nat.le_of_lt shorter)).mapValue (d :: ·)
termination_by (ts.length, 5)
decreasing_by all_goals exact rank_lt (by grind)

/-- One item of a logic block starting with token `t`: a block, a variable (when `:` follows
`t`), or an expression optionally followed by a comma. -/
def logicItem (t : Token) (more : List Token) : Step (t :: more) Decl :=
  match BlockKeyword.ofWord? t.value with
  | some _ => decl (t :: more)
  | none =>
    if startsWith more ":" then (variableAt t more).map (Parsed.mapValue Decl.var)
    else
      match operand (t :: more) none with
      | .error s => .error s
      | .ok ⟨c, rest, shorter⟩ =>
        .ok ⟨.expression c.group, dropComma rest,
          Nat.lt_of_le_of_lt (length_dropComma_le rest) shorter⟩
termination_by ((t :: more).length, 4)
decreasing_by all_goals exact rank_lt (by grind)

/-- The items of a logic block up to its `}`. -/
def logicItems (ts : List Token) : Step ts (List Decl) :=
  match ts with
  | [] => slipAt [] .missingCloseBrace
  | t :: more =>
    if t.is "\x7d" then .ok ⟨[], more, Nat.lt_succ_self _⟩
    else
      match logicItem t more with
      | .error s => .error s
      | .ok ⟨d, rest, shorter⟩ =>
        (logicItems rest).map fun p => (p.lift (Nat.le_of_lt shorter)).mapValue (d :: ·)
termination_by (ts.length, 5)
decreasing_by all_goals exact rank_lt (by grind)

/-- The expressions of a pipeline up to its `}`, each followed by a comma, the `}` or the end
of the input. -/
def pipelineItems (ts : List Token) : Step ts (List Expr) :=
  match ts with
  | [] => slipAt [] .missingCloseBrace
  | t :: more =>
    if t.is "\x7d" then .ok ⟨[], more, Nat.lt_succ_self _⟩
    else
      match operand (t :: more) none with
      | .error s => .error s
      | .ok ⟨c, rest, shorter⟩ =>
        have fewer : rest.length ≤ more.length := Nat.le_of_lt_succ shorter
        if startsWith rest "," then
          have dropped := length_dropComma_le rest
          (pipelineItems (dropComma rest)).map fun p =>
            (p.lift (le_length_cons t (Nat.le_trans dropped fewer))).mapValue (c.group :: ·)
        else if startsWith rest "\x7d" || rest.isEmpty then
          (pipelineItems rest).map fun p => (p.lift (le_length_cons t fewer)).mapValue (c.group :: ·)
        else slipAt rest .expectedItemEnd
termination_by (ts.length, 5)
decreasing_by all_goals exact rank_lt (by grind)

end

def topDecls (ts : List Token) : Except Slip (List Decl) :=
  match ts with
  | [] => .ok []
  | t :: more =>
    match decl (t :: more) with
    | .error s => .error s
    | .ok ⟨d, rest, shorter⟩ => (topDecls rest).map (d :: ·)
termination_by ts.length
decreasing_by exact shorter

end Parse

/-- The program that a token list spells, or the structural fault where it stops being one,
labelled `label`. Operator words are marked as operators first. -/
def Program.parse (label : String) (ts : List Token) : Except StructuralFault Program :=
  match Parse.topDecls (Token.classifyAll ts) with
  | .ok body => .ok ⟨body⟩
  | .error s => .error ⟨label, s.issue, s.token⟩

/-- The program that a source spells, or why it is none. -/
def Program.compile (label : String) (bytes : List UInt8) : Except SyntaxFault Program :=
  match tokenize bytes with
  | .error f => .error (.lexical f)
  | .ok ts =>
    match Program.parse label ts with
    | .ok p => .ok p
    | .error f => .error (.structural f)

end Circuitry
