import Circuitry.Syntax.Keyword

/-!
# Tokens

A token is a kind, its text and the place where it starts. Scanning yields words, numbers,
punctuation (kind `text`) and braces (kind `brace`); classification then marks every token
whose text is exactly an operator word as an `operator`, and never takes that mark away.
-/

namespace Circuitry

/-- The kind of a token. `other` stands for any kind code outside the three classes, which a
hand-built token may carry; nothing treats such a token specially. -/
inductive TokenKind
  | text
  | brace
  | operator
  | other
deriving DecidableEq, Repr, Inhabited

namespace TokenKind

/-- The kind with the given code: 0 text, 1 brace, 2 operator, anything else `other`. -/
def ofCode : Nat → TokenKind
  | 0 => .text
  | 1 => .brace
  | 2 => .operator
  | _ => .other

/-- The name under which a kind is shown. -/
def name : TokenKind → String
  | .text => "TEXT"
  | .brace => "BRACES"
  | .operator => "OPERATOR"
  | .other => "UNKNOWN"

end TokenKind

/-- A place in the source: byte offset, line (from 1) and column. The column counts bytes
from the start of the text on the first line and from the preceding line feed on later
lines, so the first byte of line two is column 1. -/
structure Position where
  offset : Int
  line : Int
  column : Int
deriving DecidableEq, Repr, Inhabited

/-- A token: its kind, its text and where it starts. -/
structure Token where
  kind : TokenKind
  value : String
  pos : Position
deriving DecidableEq, Repr, Inhabited

namespace Token

/-- Marks the token as an operator when its text is an operator word; keeps it otherwise. -/
def classify (t : Token) : Token :=
  if Keyword.isOperator t.value then { t with kind := .operator } else t

def classifyAll (ts : List Token) : List Token := ts.map classify

@[simp] theorem classify_value (t : Token) : t.classify.value = t.value := by
  unfold classify; split <;> rfl

@[simp] theorem classify_pos (t : Token) : t.classify.pos = t.pos := by
  unfold classify; split <;> rfl

theorem classify_classify (t : Token) : t.classify.classify = t.classify := by
  unfold classify; split <;> simp_all

end Token

end Circuitry
