import Circuitry.Number.Binary64

/-!
# Reading real numbers

The text of a real number: an optional sign, then `inf` or `infinity` (any case), or `nan`
(any case, unsigned), or a decimal significand (digits with at most one point, at least one
digit) with an optional exponent `e` or `E` and a signed power of ten, or a hexadecimal
significand after `0x` with a required binary exponent `p`. Underscores may separate digits,
and a base prefix from a digit, but may stand nowhere else. The value is the double nearest
to the exact number written; one beyond the largest finite double is refused.
-/

namespace Circuitry
namespace Number

def lowerAscii (c : Char) : Char := if 'A' ≤ c && c ≤ 'Z' then Char.ofNat (c.toNat + 32) else c

def hexValue (c : Char) : Option Nat :=
  if c.isDigit then some (c.toNat - 48)
  else if 'a' ≤ lowerAscii c && lowerAscii c ≤ 'f' then some ((lowerAscii c).toNat - 87)
  else none

/-- What the check of underscores last saw: the start, a digit (or a base prefix), an
underscore, another character, or a misplaced underscore. -/
inductive Seen
  | start
  | digit
  | underscore
  | other
  | misplaced
deriving DecidableEq

def Seen.next (hex : Bool) (saw : Seen) (c : Char) : Seen :=
  if saw = .misplaced then .misplaced
  else if c.isDigit || (hex && (hexValue c).isSome) then .digit
  else if c = '_' then (if saw = .digit then .underscore else .misplaced)
  else if saw = .underscore then .misplaced
  else .other

/-- Whether the underscores of a number's text separate digits: each follows a digit (or a
base prefix) and is followed by a digit. -/
def underscoresFit (cs : List Char) : Bool :=
  let body := match cs with
    | '-' :: rest | '+' :: rest => rest
    | rest => rest
  let (hex, first, rest) := match body with
    | '0' :: b :: rest =>
      if lowerAscii b = 'x' || lowerAscii b = 'b' || lowerAscii b = 'o' then
        (lowerAscii b == 'x', Seen.digit, rest)
      else (false, Seen.start, body)
    | _ => (false, Seen.start, body)
  let last := rest.foldl (Seen.next hex) first
  last != .underscore && last != .misplaced

/-- A significand read so far: its digits as one natural number, how many digits follow the
point, whether a digit was seen, and whether a point was seen. -/
structure Significand where
  value : Nat
  fractionDigits : Nat
  sawDigit : Bool
  sawPoint : Bool

/-- Reads significand digits (in base `base`), underscores and one point from the front of
`cs`; returns what was read and the rest. -/
def readSignificand (base : Nat) : Significand → List Char → Significand × List Char
  | acc, [] => (acc, [])
  | acc, c :: rest =>
    if c = '_' then readSignificand base acc rest
    else if c = '.' then
      if acc.sawPoint then (acc, c :: rest)
      else readSignificand base { acc with sawPoint := true } rest
    else
      match (if base = 16 then hexValue c else if c.isDigit then some (c.toNat - 48) else none) with
      | some d =>
        readSignificand base
          { acc with value := acc.value * base + d, sawDigit := true,
                     fractionDigits := if acc.sawPoint then acc.fractionDigits + 1 else acc.fractionDigits }
          rest
      | none => (acc, c :: rest)

def readExponentDigits : Nat → List Char → Nat × List Char
  | e, [] => (e, [])
  | e, c :: rest =>
    if c = '_' then readExponentDigits e rest
    else if c.isDigit then readExponentDigits (if e < 10000 then e * 10 + (c.toNat - 48) else e) rest
    else (e, c :: rest)

/-- Reads an exponent after its marker: an optional sign and at least one digit. -/
def readExponent (cs : List Char) : Option (Int × List Char) :=
  let (negative, rest) := match cs with
    | '-' :: r => (true, r)
    | '+' :: r => (false, r)
    | r => (false, r)
  match rest with
  | c :: _ =>
    if c.isDigit then
      let (e, after) := readExponentDigits 0 rest
      some (if negative then -(e : Int) else e, after)
    else none
  | [] => none

def scaledValue (negative : Bool) (m base : Nat) (power : Int) : Option Float :=
  let magnitude : Int := (Nat.toDigits base m).length + power
  let bound : Int := if base = 10 then 400 else 1200
  if m = 0 || magnitude < -bound then Binary64.ofRatio negative 0 1
  else if magnitude > bound then none
  else Binary64.ofRatio negative (m * Nat.pow base power.toNat) (Nat.pow base (-power).toNat)

/-- The double that a text writes, by the rules of this module. -/
def readReal (s : String) : Option Float :=
  let cs := s.toList
  let lower := String.ofList (cs.map lowerAscii)
  if lower = "nan" then some (0.0 / 0.0)
  else if lower = "inf" || lower = "+inf" || lower = "infinity" || lower = "+infinity" then
    some (1.0 / 0.0)
  else if lower = "-inf" || lower = "-infinity" then some (-1.0 / 0.0)
  else
    let (negative, unsigned) := match cs with
      | '-' :: rest => (true, rest)
      | '+' :: rest => (false, rest)
      | rest => (false, rest)
    let (hex, body) := match unsigned with
      | '0' :: x :: rest@(_ :: _) => if lowerAscii x = 'x' then (true, rest) else (false, unsigned)
      | _ => (false, unsigned)
    let (sig, rest) := readSignificand (if hex then 16 else 10) ⟨0, 0, false, false⟩ body
    if !sig.sawDigit || !underscoresFit cs then none
    else
      let marker := if hex then 'p' else 'e'
      let exponent : Option (Int × List Char) := match rest with
        | c :: more => if lowerAscii c = marker then readExponent more else none
        | [] => if hex then none else some (0, [])
      match exponent with
      | some (e, []) =>
        if hex then scaledValue negative sig.value 2 (e - 4 * sig.fractionDigits)
        else scaledValue negative sig.value 10 (e - sig.fractionDigits)
      | _ => none

end Number
end Circuitry
