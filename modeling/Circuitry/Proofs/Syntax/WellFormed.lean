import Circuitry.Syntax.Program

/-!
# Well-formed programs

The shape that every program read from tokens has. Names of components, logic blocks and
variables and every identifier are non-empty runs of letters that are not reserved; numerals
are non-empty runs of digits; an array holds one or more operands (names, numerals or arrays),
never an operator. A component, the global block and the program itself hold blocks and
variables; a logic block holds these and bare expressions too. An operator's left operand
binds at least as tightly as the operator and its right operand strictly more tightly, which
is how operators of equal strength group to the left.

Which operator words may stand in an expression is a parameter: `Keyword.isOperator` for
programs written with the language's operators, anything at all for the operators that a
hand-made operator token carries.
-/

namespace Circuitry

/-- A name: one or more letters, and not a reserved word. -/
def ValidName (w : String) : Prop := Keyword.isNameShaped w = true ∧ Keyword.isReserved w = false

mutual

/-- An operand: a valid name, a numeral, or a non-empty array of operands. -/
def Expr.Operand : Expr → Prop
  | .name id => ValidName id
  | .numeral digits => Keyword.isNumeral digits = true
  | .array items => items ≠ [] ∧ Expr.Operands items
  | .binary _ _ _ => False

/-- Every expression of the list is an operand. -/
def Expr.Operands : List Expr → Prop
  | [] => True
  | x :: rest => x.Operand ∧ Expr.Operands rest

end

def Expr.BindsAtLeast (strength : Nat) : Expr → Prop
  | .binary op _ _ => strength ≤ Keyword.precedence op
  | _ => True

def Expr.WellFormed (opOk : String → Prop) : Expr → Prop
  | .binary op lhs rhs =>
    opOk op ∧ lhs.BindsAtLeast (Keyword.precedence op) ∧
      rhs.BindsAtLeast (Keyword.precedence op + 1) ∧ lhs.WellFormed opOk ∧ rhs.WellFormed opOk
  | .name id => Expr.Operand (.name id)
  | .numeral digits => Expr.Operand (.numeral digits)
  | .array items => Expr.Operand (.array items)

mutual

def Decl.WellFormed (opOk : String → Prop) (inLogic : Bool) : Decl → Prop
  | .component name body => ValidName name ∧ Decl.AllWellFormed opOk false body
  | .logic name body => ValidName name ∧ Decl.AllWellFormed opOk true body
  | .global body => Decl.AllWellFormed opOk false body
  | .publicSection vars => ∀ v ∈ vars, ValidName v.name
  | .privateSection vars => ∀ v ∈ vars, ValidName v.name
  | .pipeline items => ∀ e ∈ items, e.WellFormed opOk
  | .var v => ValidName v.name
  | .expression root => inLogic = true ∧ root.WellFormed opOk

def Decl.AllWellFormed (opOk : String → Prop) (inLogic : Bool) : List Decl → Prop
  | [] => True
  | d :: rest => d.WellFormed opOk inLogic ∧ Decl.AllWellFormed opOk inLogic rest

end

/-- A well-formed program: its declarations are well formed outside any logic block. -/
def Program.WellFormed (opOk : String → Prop) (p : Program) : Prop :=
  Decl.AllWellFormed opOk false p.body

namespace Expr

theorem Operand.bindsAtLeast {x : Expr} (operand : x.Operand) (strength : Nat) :
    x.BindsAtLeast strength := by
  cases x with
  | binary => exact operand.elim
  | name | numeral | array => trivial

theorem Operand.wellFormed {x : Expr} (operand : x.Operand) (opOk : String → Prop) :
    x.WellFormed opOk := by
  cases x with
  | binary => exact operand.elim
  | name | numeral | array => exact operand

theorem operands_iff {xs : List Expr} : Expr.Operands xs ↔ ∀ x ∈ xs, x.Operand := by
  induction xs with
  | nil => simp [Expr.Operands]
  | cons x rest ih => simp [Expr.Operands, ih]

end Expr

theorem Decl.allWellFormed_iff {opOk : String → Prop} {inLogic : Bool} {ds : List Decl} :
    Decl.AllWellFormed opOk inLogic ds ↔ ∀ d ∈ ds, d.WellFormed opOk inLogic := by
  induction ds with
  | nil => simp [Decl.AllWellFormed]
  | cons d rest ih => simp [Decl.AllWellFormed, ih]

end Circuitry
