import Circuitry.Number.Binary64

/-!
# Shortest decimal text of a double

The fewest significant decimal digits that read back as the same double: for each number of
digits from 1 up, the two points of that decimal grid around the value are tested against the
interval of reals that round to the double (its ends included when the significand is even);
the first grid with a point inside wins, and of two points inside the nearer one, a tie going
to the even last digit.

The text then follows the general format: plain decimal notation when the decimal exponent
lies in `-4 ≤ x < 6`, otherwise one digit, the other digits after a point, and `e` with a
signed exponent of at least two digits (`1e+06`, `1.5e-07`). Zeros keep their sign (`-0`),
infinities are `+Inf` and `-Inf`, and not-a-number is `NaN`.
-/

namespace Circuitry
namespace Number

def decimalLength (n : Nat) : Nat := (Nat.toDigits 10 n).length

def floorLog10 (num den : Nat) : Int :=
  (decimalLength (num * Nat.pow 10 400 / den) : Int) - 1 - 400

/-- Shortest digits of the finite positive value `m · 2^e`: the digits as a natural number and
the exponent of its last digit. -/
def shortestDigits (m : Nat) (e : Int) : Nat × Int :=
  -- the value and the ends of its rounding interval, as numerators over one denominator
  let den := 4 * Nat.pow 2 (-e).toNat
  let scale := Nat.pow 2 e.toNat
  let value := 4 * m * scale
  let high := (4 * m + 2) * scale
  let low := (if m = Nat.pow 2 52 && e > -1074 then 4 * m - 1 else 4 * m - 2) * scale
  let inclusive := m % 2 = 0
  let top := floorLog10 value den
  let inside (d : Nat) (p : Int) : Bool :=
    let point := d * Nat.pow 10 p.toNat * den
    let scaledLow := low * Nat.pow 10 (-p).toNat
    let scaledHigh := high * Nat.pow 10 (-p).toNat
    if inclusive then scaledLow ≤ point && point ≤ scaledHigh
    else scaledLow < point && point < scaledHigh
  let rec search (n : Nat) (fuel : Nat) : Nat × Int :=
    let p : Int := top - n + 1
    let v := value * Nat.pow 10 (-p).toNat
    let w := den * Nat.pow 10 p.toNat
    let below := v / w
    let above := below + 1
    let inBelow := inside below p
    let inAbove := inside above p
    match fuel with
    | 0 => (below, p)
    | fuel + 1 =>
      if inBelow && inAbove then
        let fromBelow := v - below * w
        let fromAbove := above * w - v
        if fromBelow < fromAbove || (fromBelow = fromAbove && below % 2 = 0) then (below, p)
        else (above, p)
      else if inBelow then (below, p)
      else if inAbove then (above, p)
      else search (n + 1) fuel
  search 1 17

def trimZeros (d : Nat) (p : Int) (fuel : Nat) : Nat × Int :=
  match fuel with
  | 0 => (d, p)
  | fuel + 1 => if d ≠ 0 && d % 10 = 0 then trimZeros (d / 10) (p + 1) fuel else (d, p)

def exponentText (x : Int) : String :=
  let digits := toString x.natAbs
  (if x < 0 then "-" else "+") ++ (if digits.length < 2 then "0" ++ digits else digits)

/-- The general format of the digits `ds` (no trailing zeros) whose first digit has decimal
exponent `x`. -/
def generalText (ds : String) (x : Int) : String :=
  if x < -4 || x ≥ 6 then
    let rest := ds.toList.drop 1
    String.ofList (ds.toList.take 1) ++ (if rest.isEmpty then "" else "." ++ String.ofList rest) ++
      "e" ++ exponentText x
  else
    let point := x + 1
    if point ≤ 0 then "0." ++ String.ofList (List.replicate (-point).toNat '0') ++ ds
    else if point.toNat ≥ ds.length then ds ++ String.ofList (List.replicate (point.toNat - ds.length) '0')
    else String.ofList (ds.toList.take point.toNat) ++ "." ++ String.ofList (ds.toList.drop point.toNat)

/-- The shortest general text of a double. -/
def shortestText (f : Float) : String :=
  match Binary64.shape f with
  | .nan => "NaN"
  | .infinite negative => if negative then "-Inf" else "+Inf"
  | .finite negative m e =>
    let sign := if negative then "-" else ""
    if m = 0 then sign ++ "0"
    else
      let (d, p) := shortestDigits m e
      let (d, p) := trimZeros d p 400
      let ds := toString d
      sign ++ generalText ds (p + ds.length - 1)

end Number
end Circuitry
