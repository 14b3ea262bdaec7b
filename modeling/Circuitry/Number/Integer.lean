/-!
# Decimal integers and truth words

Reading the integers and truth values that settings are written with. A signed integer is an
optional `+` or `-` followed by decimal digits and must lie in the 64-bit two's complement
range; an unsigned one is decimal digits alone below `2^64`. Narrower fields keep the low bits
of the value read, as two's complement for signed fields.
-/

namespace Circuitry
namespace Number

def digitsValue (cs : List Char) : Option Nat :=
  if cs.isEmpty || !cs.all Char.isDigit then none
  else some (cs.foldl (fun acc c => acc * 10 + (c.toNat - 48)) 0)

def readUnsigned (s : String) : Option Nat :=
  match digitsValue s.toList with
  | some n => if n < Nat.pow 2 64 then some n else none
  | none => none

/-- An optionally signed decimal integer in the 64-bit two's complement range. -/
def readSigned (s : String) : Option Int :=
  let (negative, digits) := match s.toList with
    | '-' :: rest => (true, rest)
    | '+' :: rest => (false, rest)
    | cs => (false, cs)
  match digitsValue digits with
  | some n =>
    let i : Int := if negative then -(n : Int) else n
    if -(Int.pow 2 63) ≤ i && i < Int.pow 2 63 then some i else none
  | none => none

def readTruth : String → Option Bool
  | "1" | "t" | "T" | "TRUE" | "true" | "True" => some true
  | "0" | "f" | "F" | "FALSE" | "false" | "False" => some false
  | _ => none

def wrapSigned (bits : Nat) (i : Int) : Int := i.bmod (Nat.pow 2 bits)

def wrapUnsigned (bits : Nat) (n : Nat) : Nat := n % Nat.pow 2 bits

example : wrapSigned 8 300 = 44 ∧ wrapSigned 8 (-129) = 127 ∧ wrapUnsigned 16 70000 = 4464 := by
  decide

end Number
end Circuitry
