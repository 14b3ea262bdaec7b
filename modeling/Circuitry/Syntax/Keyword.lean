/-!
# Keywords of the circuit language

The fixed words of the language: the six gates, the connection arrow, the block keywords, the
three datatypes and the punctuation. Gates bind tighter than the arrow; a word that is neither
has binding strength zero. A reserved word can name nothing.
-/

namespace Circuitry

/-- The six two-input gates. -/
inductive Gate
  | and
  | nand
  | or
  | nor
  | xor
  | xnor
deriving DecidableEq, Repr

namespace Gate

def word : Gate → String
  | .and => "and"
  | .nand => "nand"
  | .or => "or"
  | .nor => "nor"
  | .xor => "xor"
  | .xnor => "xnor"

/-- The gate that a word writes, if any. -/
def ofWord? : String → Option Gate
  | "and" => some .and
  | "nand" => some .nand
  | "or" => some .or
  | "nor" => some .nor
  | "xor" => some .xor
  | "xnor" => some .xnor
  | _ => none

theorem ofWord?_word (g : Gate) : ofWord? g.word = some g := by
  cases g <;> rfl

end Gate

def connectWord : String := "=>"

/-- The kinds of a variable. -/
inductive Datatype
  | input
  | output
  | wire
deriving DecidableEq, Repr, Inhabited

namespace Datatype

def word : Datatype → String
  | .input => "input"
  | .output => "output"
  | .wire => "wire"

/-- The datatype that a word writes, if any. -/
def ofWord? : String → Option Datatype
  | "input" => some .input
  | "output" => some .output
  | "wire" => some .wire
  | _ => none

theorem ofWord?_word (d : Datatype) : ofWord? d.word = some d := by
  cases d <;> rfl

end Datatype

/-- The keywords that open a block: a component, a logic block, the global block, a public
or private section and a pipeline. -/
inductive BlockKeyword
  | component
  | logic
  | global
  | publicSection
  | privateSection
  | pipeline
deriving DecidableEq, Repr

namespace BlockKeyword

def word : BlockKeyword → String
  | .component => "component"
  | .logic => "logic"
  | .global => "global"
  | .publicSection => "public"
  | .privateSection => "private"
  | .pipeline => "pipeline"

/-- The block keyword that a word writes, if any. -/
def ofWord? : String → Option BlockKeyword
  | "component" => some .component
  | "logic" => some .logic
  | "global" => some .global
  | "public" => some .publicSection
  | "private" => some .privateSection
  | "pipeline" => some .pipeline
  | _ => none

theorem ofWord?_word (k : BlockKeyword) : ofWord? k.word = some k := by
  cases k <;> rfl

end BlockKeyword

namespace Keyword

def punctuation : List String := ["\x7b", "\x7d", ":", ",", "[", "]"]

def isGate (w : String) : Bool := (Gate.ofWord? w).isSome

def isOperator (w : String) : Bool := isGate w || w == connectWord

/-- Binding strength: 2 for a gate, 1 for the connection arrow, 0 for every other word. -/
def precedence (w : String) : Nat :=
  if isGate w then 2 else if w == connectWord then 1 else 0

/-- Whether a word is reserved: punctuation, an operator, a block keyword or a datatype. -/
def isReserved (w : String) : Bool :=
  punctuation.contains w || isOperator w || (BlockKeyword.ofWord? w).isSome ||
    (Datatype.ofWord? w).isSome

def isNameChar (c : Char) : Bool := ('A' ≤ c && c ≤ 'Z') || ('a' ≤ c && c ≤ 'z') || c = '_'

def isNameShaped (w : String) : Bool := !w.toList.isEmpty && w.toList.all isNameChar

def isNumeral (w : String) : Bool := !w.toList.isEmpty && w.toList.all Char.isDigit

theorem isOperator_iff_precedence_pos (w : String) : isOperator w = true ↔ 0 < precedence w := by
  unfold isOperator precedence
  by_cases h : isGate w <;> by_cases h' : (w == connectWord) <;> simp [h, h']

end Keyword

end Circuitry
