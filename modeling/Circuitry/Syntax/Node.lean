import Circuitry.Syntax.Program

/-!
# Syntax trees in full

The tree type admits more than reading builds. The body of a program, a component, a global
block or a logic block may hold any node, a bare operand or a nested program included, and an
expression item may be empty. `Node.render` writes the tree notation of every such tree; a
program that reading builds is a node through `Program.toNode`, with the same notation.
-/

namespace Circuitry

/-- A node of the syntax tree. `operand` is an operator, identifier, literal or array standing
as a node of its own. -/
inductive Node
  | program (body : List Node)
  | component (name : String) (body : List Node)
  | global (body : List Node)
  | publicSection (vars : List Variable)
  | privateSection (vars : List Variable)
  | var (v : Variable)
  | pipeline (items : List (Option Expr))
  | logic (name : String) (body : List Node)
  | expression (root : Option Expr)
  | operand (e : Expr)
deriving Repr, Inhabited

def Expr.renderRoot : Option Expr → String
  | some e => e.renderItem
  | none => "Expression()"

mutual

def Node.render : Node → String
  | .program body => "Program(" ++ bracketed (Node.renderAll body) ++ ")"
  | .component name body => "Component(" ++ name ++ ", " ++ bracketed (Node.renderAll body) ++ ")"
  | .global body => "Global(" ++ bracketed (Node.renderAll body) ++ ")"
  | .publicSection vars => "Public(" ++ bracketed (vars.map Variable.render) ++ ")"
  | .privateSection vars => "Private(" ++ bracketed (vars.map Variable.render) ++ ")"
  | .var v => v.render
  | .pipeline items => "Pipeline(" ++ bracketed (items.map Expr.renderRoot) ++ ")"
  | .logic name body => "Logic(" ++ name ++ ", " ++ bracketed (Node.renderAll body) ++ ")"
  | .expression root => Expr.renderRoot root
  | .operand e => e.render

def Node.renderAll : List Node → List String
  | [] => []
  | n :: rest => n.render :: Node.renderAll rest

end

mutual

def Decl.toNode : Decl → Node
  | .component name body => .component name (Decl.toNodes body)
  | .logic name body => .logic name (Decl.toNodes body)
  | .global body => .global (Decl.toNodes body)
  | .publicSection vars => .publicSection vars
  | .privateSection vars => .privateSection vars
  | .pipeline items => .pipeline (items.map some)
  | .var v => .var v
  | .expression root => .expression (some root)

def Decl.toNodes : List Decl → List Node
  | [] => []
  | d :: rest => d.toNode :: Decl.toNodes rest

end

def Program.toNode (p : Program) : Node := .program (Decl.toNodes p.body)

end Circuitry
