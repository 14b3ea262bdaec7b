/-!
# Durations

A duration is written as an optional sign and a sequence of decimal numbers, each with an
optional fraction and a unit: `ns`, `us` (or `µs`, `μs`), `ms`, `s`, `m`, `h`, as in `1h2m3.5s`
or `-250ms`; `0` alone needs no unit. The value is a whole number of nanoseconds and must fit
in 64-bit two's complement. A fraction is scaled to its unit in double arithmetic and then
truncated, which keeps hours nanosecond-exact.
-/

namespace Circuitry
namespace Number

def unitNanos : String → Option Nat
  | "ns" => some 1
  | "us" | "µs" | "μs" => some 1000
  | "ms" => some 1000000
  | "s" => some 1000000000
  | "m" => some 60000000000
  | "h" => some 3600000000000
  | _ => none

def leadingWhole : Nat → List Char → Option (Nat × List Char)
  | x, [] => some (x, [])
  | x, c :: rest =>
    if c.isDigit then
      if x > Nat.pow 2 63 / 10 then none
      else
        let y := x * 10 + (c.toNat - 48)
        if y > Nat.pow 2 63 then none else leadingWhole y rest
    else some (x, c :: rest)

/-- Reads the fraction digits of a duration term: their value and the power of ten below it,
digits past what fits being skipped. -/
def leadingFraction : Nat → Float → Bool → List Char → Nat × Float × List Char
  | x, scale, _, [] => (x, scale, [])
  | x, scale, overflow, c :: rest =>
    if c.isDigit then
      if overflow || x > (Nat.pow 2 63 - 1) / 10 then leadingFraction x scale true rest
      else
        let y := x * 10 + (c.toNat - 48)
        if y > Nat.pow 2 63 then leadingFraction x scale true rest
        else leadingFraction y (scale * 10) false rest
    else (x, scale, c :: rest)

/-- Reads the terms of a duration after its sign, adding their nanoseconds to `total`. -/
def durationTerms (total : Nat) (cs : List Char) (fuel : Nat) : Option Nat :=
  match fuel, cs with
  | _, [] => some total
  | 0, _ => none
  | fuel + 1, c :: _ =>
    if !(c = '.' || c.isDigit) then none
    else
      match leadingWhole 0 cs with
      | none => none
      | some (whole, afterWhole) =>
        let pre := afterWhole.length != cs.length
        let (frac, scale, afterFrac, post) := match afterWhole with
          | '.' :: more =>
            let (f, sc, after) := leadingFraction 0 1 false more
            (f, sc, after, after.length != more.length)
          | _ => (0, 1, afterWhole, false)
        if !pre && !post then none
        else
          let unitChars := afterFrac.takeWhile fun ch => !(ch = '.' || ch.isDigit)
          let rest := afterFrac.dropWhile fun ch => !(ch = '.' || ch.isDigit)
          if unitChars.isEmpty then none
          else
            match unitNanos (String.ofList unitChars) with
            | none => none
            | some unit =>
              if whole > Nat.pow 2 63 / unit then none
              else
                let v := whole * unit
                let v := if frac > 0 then
                    v + (Float.ofNat frac * (Float.ofNat unit / scale)).toUInt64.toNat
                  else v
                if v > Nat.pow 2 63 then none
                else
                  let total := total + v
                  if total > Nat.pow 2 63 then none else durationTerms total rest fuel

/-- The nanoseconds a duration text denotes. -/
def readDuration (s : String) : Option Int :=
  let (negative, body) := match s.toList with
    | '-' :: rest => (true, rest)
    | '+' :: rest => (false, rest)
    | cs => (false, cs)
  if body = ['0'] then some 0
  else if body.isEmpty then none
  else
    match durationTerms 0 body (body.length + 1) with
    | none => none
    | some total =>
      if negative then some (-(total : Int))
      else if total > Nat.pow 2 63 - 1 then none
      else some total

end Number
end Circuitry
