import Circuitry.Syntax.Program
import Circuitry.Text.Quote

/-!
# Faults of instantiation and evaluation

Three kinds of fault, each naming the instance where it arose: a reference fault (a name that
does not denote what its place needs), a connection fault (bundles that do not fit, or a
target that cannot be driven) and a declaration fault (declarations that clash or stand where
they may not).
-/

namespace Circuitry

/-- Why a name does not denote what its place needs. -/
inductive ReferenceIssue
  | undeclared
  | notLogicBlock
  | recursive
  | noValue
  | notComponent
  | notInput
  | notOutput
deriving DecidableEq, Repr

def ReferenceIssue.reason : ReferenceIssue → String
  | .undeclared => ""
  | .notLogicBlock => "is not a logic block"
  | .recursive => "is referenced recursively"
  | .noValue => "has no value"
  | .notComponent => "is not a component"
  | .notInput => "is not an input"
  | .notOutput => "is not an output"

/-- Why a connection or gate cannot be made. -/
inductive ConnectionIssue
  | widths (op : String) (lhs rhs : Nat)
  | emptyOperand (op : String)
  | emptySource
  | emptyTarget
  | mismatch (sources targets : Nat)
  | driveInput (name : String)
  | driveLogic (name : String)
  | driveExpr (e : Expr)
  | unknownOperator (op : String)
  | undriven (output : String)
deriving Repr

open Text in
/-- The wording of a connection issue. -/
def ConnectionIssue.message : ConnectionIssue → String
  | .widths op l r => op ++ " operands have widths " ++ toString l ++ " and " ++ toString r
  | .emptyOperand op => op ++ " operand has no signals"
  | .emptySource => "connection source has no signals"
  | .emptyTarget => "connection target has no signals"
  | .mismatch s t => "cannot connect " ++ toString s ++ " signals to " ++ toString t ++ " targets"
  | .driveInput n => "cannot drive input " ++ quote n
  | .driveLogic n => "cannot drive logic block " ++ quote n
  | .driveExpr e => "cannot drive " ++ e.render
  | .unknownOperator op => "unknown operator " ++ quote op
  | .undriven n => "output \"" ++ n ++ "\" is undriven"

/-- Why declarations cannot be instantiated. -/
inductive DeclarationIssue
  | publicWire (name : String)
  | duplicateSignal (name : String)
  | signalCollides (name : String)
  | duplicateLogic (name : String)
  | logicCollides (name : String)
  | nestedGlobal
  | nestedComponent (name : String)
  | unexpected (d : Decl)
  | duplicateComponent
deriving Repr

open Text in
/-- The wording of a declaration issue. -/
def DeclarationIssue.message : DeclarationIssue → String
  | .publicWire n => "public variable " ++ quote n ++ " must be input or output"
  | .duplicateSignal n => "duplicate signal " ++ quote n
  | .signalCollides n => "signal " ++ quote n ++ " collides with a logic block"
  | .duplicateLogic n => "duplicate logic block " ++ quote n
  | .logicCollides n => "logic block " ++ quote n ++ " collides with a signal"
  | .nestedGlobal => "global block must be declared at program level"
  | .nestedComponent n => "component " ++ quote n ++ " cannot be nested"
  | .unexpected d => "unexpected " ++ d.render
  | .duplicateComponent => "duplicate component"

/-- A fault of instantiation or evaluation, with the instance it arose in. -/
inductive CircuitFault
  | reference (component name : String) (issue : ReferenceIssue)
  | connection (component : String) (issue : ConnectionIssue)
  | declaration (component : String) (issue : DeclarationIssue)
deriving Repr

namespace CircuitFault

def renderReference (component name reason : String) : String :=
  "reference error in " ++ component ++ ": " ++ Text.quote name ++ " " ++
    (if reason.isEmpty then "is not declared" else reason)

def renderConnection (component msg : String) : String :=
  "connection error in " ++ component ++ ": " ++ msg

def renderDeclaration (component msg : String) : String :=
  "declaration error in " ++ component ++ ": " ++ msg

/-- The message of a fault. -/
def message : CircuitFault → String
  | .reference c n issue => renderReference c n issue.reason
  | .connection c issue => renderConnection c issue.message
  | .declaration c issue => renderDeclaration c issue.message

def component : CircuitFault → String
  | .reference c _ _ => c
  | .connection c _ => c
  | .declaration c _ => c

end CircuitFault

end Circuitry
