/-!
# Binary64 numbers

The IEEE 754 double format seen as integers: a finite double is `m · 2^e` with `m < 2^53`, and
a positive rational rounds to the double nearest to it, a tie going to the even significand.
Rounding is done in exact natural-number arithmetic, so it is correct for every input.
-/

namespace Circuitry
namespace Binary64

/-- The quotient of `num · 2^shift / den` rounded to nearest, a tie going to even. -/
def roundShifted (num den : Nat) (shift : Int) : Nat :=
  let a := num * Nat.pow 2 shift.toNat
  let b := den * Nat.pow 2 (-shift).toNat
  let q := a / b
  let r := a % b
  if 2 * r > b || (2 * r = b && q % 2 = 1) then q + 1 else q

/-- The exponent of the largest power of two not above `num / den` (for `num, den > 0`). -/
def floorLog2 (num den : Nat) : Int :=
  let guess : Int := (num.log2 : Int) - den.log2
  if num * Nat.pow 2 (-guess).toNat ≥ den * Nat.pow 2 guess.toNat then guess else guess - 1

/-- The bits of the double nearest to `num / den` (with `num, den > 0`), negated when
`negative`; `none` when it rounds beyond the largest finite double. -/
def bitsOfRatio (negative : Bool) (num den : Nat) : Option Nat :=
  let e2 := max (floorLog2 num den - 52) (-1074)
  let q := roundShifted num den (-e2)
  -- rounding may carry into a 54th bit
  let (q, e2) := if q = Nat.pow 2 53 then (Nat.pow 2 52, e2 + 1) else (q, e2)
  let sign := if negative then Nat.pow 2 63 else 0
  if q ≥ Nat.pow 2 52 then
    let biased := e2 + 1075
    if biased ≥ 2047 then none else some (sign + biased.toNat * Nat.pow 2 52 + (q - Nat.pow 2 52))
  else some (sign + q)

def ofRatio (negative : Bool) (num den : Nat) : Option Float :=
  if num = 0 || den = 0 then some (Float.ofBits (if negative then (9223372036854775808 : UInt64) else 0))
  else (bitsOfRatio negative num den).map fun b => Float.ofBits (UInt64.ofNat b)

/-- What a double is: a finite value `(-1)^sign · m · 2^e`, an infinity or not a number. -/
inductive Shape
  | finite (negative : Bool) (m : Nat) (e : Int)
  | infinite (negative : Bool)
  | nan
deriving DecidableEq, Repr

def shape (f : Float) : Shape :=
  let bits : Nat := f.toBits.toNat
  let negative := bits ≥ Nat.pow 2 63
  let biased : Nat := (bits / Nat.pow 2 52) % 2048
  let fraction : Nat := bits % Nat.pow 2 52
  if biased = 2047 then (if fraction = 0 then .infinite negative else .nan)
  else if biased = 0 then .finite negative fraction (-1074)
  else .finite negative (fraction + Nat.pow 2 52) ((biased : Int) - 1075)

end Binary64
end Circuitry
