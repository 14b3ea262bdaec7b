import Circuitry.Syntax.Chain

/-!
# The canonical source of a program

A program is printed as its tokens in order with one space between two of them. A block is
its keyword, then its name for a component or a logic block, then `{`, its items and `}`. A
bare variable is `name : datatype`; a variable of a public or private section, an item of a
pipeline and an expression of a logic block are each followed by a comma; the elements of an
array are separated by commas; an operator stands between its two operands, which are written
without brackets, since the language has none.

`Program.words` is the list of tokens and `Program.source` the text.
-/

namespace Circuitry

mutual

/-- The tokens of an expression. -/
def Expr.words : Expr → List String
  | .name id => [id]
  | .numeral digits => [digits]
  | .array items => "[" :: Expr.elementWords items ++ ["]"]
  | .binary op lhs rhs => lhs.words ++ op :: rhs.words

/-- The tokens of the elements of an array, separated by commas. -/
def Expr.elementWords : List Expr → List String
  | [] => []
  | [x] => x.words
  | x :: rest => x.words ++ "," :: Expr.elementWords rest

end

def Variable.words (v : Variable) : List String := [v.name, ":", v.datatype.word]

def Variable.sectionWords (vars : List Variable) : List String :=
  vars.flatMap fun v => v.words ++ [","]

def Expr.itemWords (items : List Expr) : List String :=
  items.flatMap fun e => e.words ++ [","]

mutual

/-- The tokens of a declaration. -/
def Decl.words : Decl → List String
  | .component name body =>
    BlockKeyword.component.word :: name :: "\x7b" :: Decl.listWords body ++ ["\x7d"]
  | .logic name body => BlockKeyword.logic.word :: name :: "\x7b" :: Decl.listWords body ++ ["\x7d"]
  | .global body => BlockKeyword.global.word :: "\x7b" :: Decl.listWords body ++ ["\x7d"]
  | .publicSection vars =>
    BlockKeyword.publicSection.word :: "\x7b" :: Variable.sectionWords vars ++ ["\x7d"]
  | .privateSection vars =>
    BlockKeyword.privateSection.word :: "\x7b" :: Variable.sectionWords vars ++ ["\x7d"]
  | .pipeline items => BlockKeyword.pipeline.word :: "\x7b" :: Expr.itemWords items ++ ["\x7d"]
  | .var v => v.words
  | .expression root => root.words ++ [","]

/-- The tokens of declarations one after another. -/
def Decl.listWords : List Decl → List String
  | [] => []
  | d :: rest => d.words ++ Decl.listWords rest

end

def Program.words (p : Program) : List String := Decl.listWords p.body

def Program.source (p : Program) : String := " ".intercalate p.words

def Chain.words (c : Chain) : List String :=
  c.first.words ++ c.links.flatMap fun link => link.1 :: link.2.words

theorem Chain.words_cons (x : Expr) (op : String) (c : Chain) :
    Chain.words ⟨x, (op, c.first) :: c.links⟩ = x.words ++ op :: c.words := by
  simp [Chain.words]

end Circuitry
