import Circuitry.Syntax.Keyword

/-!
# Programs

A program is a list of declarations. Components, logic blocks and the global block hold
declarations of their own; public and private sections list variables; a pipeline lists
expressions; a logic block may also hold bare expressions. An expression is a name, a
numeral, a non-empty array of expressions, or an operator applied to two expressions.

`Program.render` writes the tree notation in which programs are shown, such as
`Program([Component(adder, [Public([Variable(a: input)])])])`.
-/

namespace Circuitry

/-- An expression: a signal or logic name, a numeral, an array, or an operator word applied
to two operands. -/
inductive Expr
  | name (id : String)
  | numeral (digits : String)
  | array (items : List Expr)
  | binary (op : String) (lhs rhs : Expr)
deriving Repr, Inhabited

/-- A variable: a name and its datatype. -/
structure Variable where
  name : String
  datatype : Datatype
deriving DecidableEq, Repr, Inhabited

/-- A declaration. -/
inductive Decl
  | component (name : String) (body : List Decl)
  | logic (name : String) (body : List Decl)
  | global (body : List Decl)
  | publicSection (vars : List Variable)
  | privateSection (vars : List Variable)
  | pipeline (items : List Expr)
  | var (v : Variable)
  | expression (root : Expr)
deriving Repr, Inhabited

/-- A program: its top-level declarations in order. -/
structure Program where
  body : List Decl
deriving Repr, Inhabited

def joinItems : List String → String
  | [] => ""
  | [s] => s
  | s :: rest => s ++ ", " ++ joinItems rest

def bracketed (items : List String) : String := "[" ++ joinItems items ++ "]"

mutual

/-- The tree notation of an expression. -/
def Expr.render : Expr → String
  | .name id => "Identifier(" ++ id ++ ")"
  | .numeral digits => "Literal(" ++ digits ++ ")"
  | .array items => "ArrayLiteral(" ++ bracketed (Expr.renderAll items) ++ ")"
  | .binary op lhs rhs => "Operator(" ++ op ++ ", " ++ lhs.render ++ ", " ++ rhs.render ++ ")"

def Expr.renderAll : List Expr → List String
  | [] => []
  | e :: rest => e.render :: Expr.renderAll rest

end

/-- The tree notation of a variable. -/
def Variable.render (v : Variable) : String :=
  "Variable(" ++ v.name ++ ": " ++ v.datatype.word ++ ")"

def Expr.renderItem (e : Expr) : String := "Expression(" ++ e.render ++ ")"

mutual

/-- The tree notation of a declaration. -/
def Decl.render : Decl → String
  | .component name body => "Component(" ++ name ++ ", " ++ bracketed (Decl.renderAll body) ++ ")"
  | .logic name body => "Logic(" ++ name ++ ", " ++ bracketed (Decl.renderAll body) ++ ")"
  | .global body => "Global(" ++ bracketed (Decl.renderAll body) ++ ")"
  | .publicSection vars => "Public(" ++ bracketed (vars.map Variable.render) ++ ")"
  | .privateSection vars => "Private(" ++ bracketed (vars.map Variable.render) ++ ")"
  | .pipeline items => "Pipeline(" ++ bracketed (items.map Expr.renderItem) ++ ")"
  | .var v => v.render
  | .expression root => root.renderItem

def Decl.renderAll : List Decl → List String
  | [] => []
  | d :: rest => d.render :: Decl.renderAll rest

end

/-- The tree notation of a program. -/
def Program.render (p : Program) : String := "Program(" ++ bracketed (Decl.renderAll p.body) ++ ")"

end Circuitry
