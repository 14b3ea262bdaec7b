import Circuitry.Syntax.Keyword
import Circuitry.Text.Quote
import Circuitry.Text.Space

/-!
# Signal levels

A signal is undriven (`z`), low or high. A level code outside these three (`unknown`) can be
set from outside; it is shown as `UNKNOWN`, is not undriven, and counts as low wherever a gate
reads it.

A gate combines two levels: an undriven input makes the output undriven, and otherwise the
gate's truth table is applied with `high` as true and every other level as false.
-/

namespace Circuitry

/-- The level of a signal. -/
inductive Level
  | z
  | low
  | high
  | unknown
deriving DecidableEq, Repr, Inhabited

namespace Level

/-- The level with the given code: 0 undriven, 1 low, 2 high, anything else `unknown`. -/
def ofCode : Nat → Level
  | 0 => .z
  | 1 => .low
  | 2 => .high
  | _ => .unknown

/-- The name under which a level is shown. -/
def name : Level → String
  | .z => "Z"
  | .low => "LOW"
  | .high => "HIGH"
  | .unknown => "UNKNOWN"

def ofBool (b : Bool) : Level := if b then .high else .low

def read? (text : String) : Option Level :=
  match Text.foldCase (Text.trimSpace text) with
  | "high" | "1" | "true" => some .high
  | "low" | "0" | "false" => some .low
  | "z" => some .z
  | _ => none

def invalidMessage (text : String) : String := "invalid signal state " ++ Text.quote text

def ofNumeral (digits : String) : Level :=
  if digits = "1" then .high else if digits = "0" then .low else .z

end Level

namespace Gate

def table : Gate → Bool → Bool → Bool
  | .and, a, b => a && b
  | .nand, a, b => !(a && b)
  | .or, a, b => a || b
  | .nor, a, b => !(a || b)
  | .xor, a, b => a != b
  | .xnor, a, b => a == b

/-- The level a gate outputs for two input levels. -/
def apply (g : Gate) (a b : Level) : Level :=
  if a = .z || b = .z then .z else Level.ofBool (g.table (a == .high) (b == .high))

end Gate

def Level.combine (word : String) (a b : Level) : Except String Level :=
  match Gate.ofWord? word with
  | some g => .ok (g.apply a b)
  | none => .error ("unknown gate " ++ Text.quote word)

end Circuitry
