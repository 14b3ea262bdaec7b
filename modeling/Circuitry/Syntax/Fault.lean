import Circuitry.Syntax.Token
import Circuitry.Text.Quote

/-!
# Faults of scanning and parsing

A lexical fault names a byte that starts no token. A structural fault names the token where
the text stops being a program (or the end of the input) and what was wrong there; its label
leads its message and defaults to `error`.
-/

namespace Circuitry

/-- A byte that no token can start, with its place and the character read there. -/
structure LexicalFault where
  pos : Position
  char : Nat
deriving DecidableEq, Repr

/-- The text of a lexical fault at line `line` and column `column`. -/
def LexicalFault.render (line column : Int) : String :=
  "There was an unidentified character @ l" ++ toString line ++ " : p" ++ toString column

/-- The message of a lexical fault. -/
def LexicalFault.message (f : LexicalFault) : String :=
  LexicalFault.render f.pos.line f.pos.column

/-- What the parser found wrong. Words in the variants are token texts or keywords. -/
inductive SyntaxIssue
  | expectedDeclaration
  | unexpected (value : String)
  | expectedName (keyword : String)
  | reservedName (value keyword : String)
  | invalidName (keyword value : String)
  | expectedOpenBrace
  | missingCloseBrace
  | invalidVariableName (value : String)
  | expectedColon (name : String)
  | expectedDatatype (name : String)
  | unknownDatatype (value : String)
  | expectedItemEnd
  | missingLeftOperand (op : String)
  | missingRightOperand (op : String)
  | expectedExpression
  | reservedIdentifier (value : String)
  | unexpectedInExpression (value : String)
  | unterminatedArray
  | emptyArray
  | expectedArrayEnd
deriving DecidableEq, Repr

namespace SyntaxIssue

open Text in
/-- The wording of an issue. -/
def message : SyntaxIssue → String
  | .expectedDeclaration => "expected declaration"
  | .unexpected v => "unexpected " ++ quote v
  | .expectedName k => "expected " ++ k ++ " name"
  | .reservedName v k => "reserved keyword " ++ quote v ++ " cannot name a " ++ k
  | .invalidName k v => "invalid " ++ k ++ " name " ++ quote v
  | .expectedOpenBrace => "expected \x7b"
  | .missingCloseBrace => "missing \x7d"
  | .invalidVariableName v => "invalid variable name " ++ quote v
  | .expectedColon n => "expected : after " ++ quote n
  | .expectedDatatype n => "expected datatype for " ++ quote n
  | .unknownDatatype v => "unknown datatype " ++ quote v
  | .expectedItemEnd => "expected , or \x7d after pipeline item"
  | .missingLeftOperand o => "operator " ++ quote o ++ " is missing its left operand"
  | .missingRightOperand o => "operator " ++ quote o ++ " is missing its right operand"
  | .expectedExpression => "expected expression"
  | .reservedIdentifier v => "reserved keyword " ++ quote v ++ " cannot be used as an identifier"
  | .unexpectedInExpression v => "unexpected " ++ quote v ++ " in expression"
  | .unterminatedArray => "unterminated array literal"
  | .emptyArray => "empty array literal"
  | .expectedArrayEnd => "expected , or ] in array literal"

end SyntaxIssue

def defaultLabel : String := "error"

/-- A structural fault: its label, the issue, and the token where it was found (`none` at the
end of the input). -/
structure StructuralFault where
  label : String
  issue : SyntaxIssue
  token : Option Token
deriving DecidableEq, Repr

namespace StructuralFault

/-- The text of a structural fault: the label (`defaultLabel` when empty), the message, and
the line and column, or `at end of input`. -/
def render (label msg : String) (line column : Int) (atEnd : Bool) : String :=
  let shown := if label.isEmpty then defaultLabel else label
  if atEnd then shown ++ ": " ++ msg ++ " at end of input"
  else shown ++ ": " ++ msg ++ " @ l" ++ toString line ++ " : p" ++ toString column

def atEnd (f : StructuralFault) : Bool := f.token.isNone

def pos (f : StructuralFault) : Position :=
  match f.token with
  | some t => t.pos
  | none => ⟨0, 0, 0⟩

def tokenValue (f : StructuralFault) : String :=
  match f.token with
  | some t => t.value
  | none => ""

/-- The message of a structural fault. -/
def message (f : StructuralFault) : String :=
  render f.label f.issue.message f.pos.line f.pos.column f.atEnd

end StructuralFault

/-- Why a text is not a program: a byte that starts no token, or a structural fault. -/
inductive SyntaxFault
  | lexical (f : LexicalFault)
  | structural (f : StructuralFault)
deriving DecidableEq, Repr

/-- The message of a syntax fault. -/
def SyntaxFault.message : SyntaxFault → String
  | .lexical f => f.message
  | .structural f => f.message

end Circuitry
