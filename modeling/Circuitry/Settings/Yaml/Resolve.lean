import Circuitry.Number.Real

/-!
# What a plain YAML scalar means

A plain scalar is read as null (empty, `~`, `null`), a truth value (`true`, `false` in three
spellings each), a special real (`.nan`, `.inf`, `-.inf`), an integer (decimal, or with a
`0x`, `0o`, `0b` or a leading-zero octal prefix, underscores ignored; first as a 64-bit signed
integer, then as an unsigned one), a real in the YAML style (digits with an optional point and
exponent), an integer with a sign after a `0b` or `0o` prefix, a date (`2006-1-2`, with an
optional time and zone), or else text. Only texts that start
with a sign, a digit, a point, or one of the letters `yYnNtTfFoO~` are looked at more closely;
all others are text at once.

An explicit tag asks for one of these readings: the text must then resolve to that tag (an
integer may stand for a real), or the document is refused.
-/

namespace Circuitry
namespace Settings
namespace Yaml

/-- The value a scalar resolves to. -/
inductive Resolved
  | null
  | bool (b : Bool)
  | int (i : Int)
  | uint (n : Nat)
  | float (f : Float)
  | str (s : String)
  | timestamp
deriving Inhabited

def shortTag (t : String) : String :=
  if t.startsWith "tag:yaml.org,2002:" then "!!" ++ String.ofList (t.toList.drop 18) else t

def fixedReading : String → Option (String × Resolved)
  | "true" | "True" | "TRUE" => some ("!!bool", .bool true)
  | "false" | "False" | "FALSE" => some ("!!bool", .bool false)
  | "" | "~" | "null" | "Null" | "NULL" => some ("!!null", .null)
  | ".nan" | ".NaN" | ".NAN" => some ("!!float", .float (0.0 / 0.0))
  | ".inf" | ".Inf" | ".INF" | "+.inf" | "+.Inf" | "+.INF" => some ("!!float", .float (1.0 / 0.0))
  | "-.inf" | "-.Inf" | "-.INF" => some ("!!float", .float (-1.0 / 0.0))
  | "<<" => some ("!!merge", .str "<<")
  | _ => none

def hintOf (s : String) : Option Char :=
  match s.toList with
  | [] => some 'N'
  | c :: _ =>
    if c = '+' || c = '-' then some 'S'
    else if c.isDigit then some 'D'
    else if "yYnNtTfFoO~".contains c then some 'M'
    else if c = '.' then some '.'
    else none

def digitsIn (base : Nat) (cs : List Char) : Option Nat :=
  let digit (c : Char) : Option Nat :=
    if c.isDigit then some (c.toNat - 48)
    else if 'a' ≤ c && c ≤ 'z' then some (c.toNat - 87)
    else if 'A' ≤ c && c ≤ 'Z' then some (c.toNat - 55)
    else none
  if cs.isEmpty then none
  else cs.foldl (fun acc c => acc.bind fun v => (digit c).bind fun d => if d < base then some (v * base + d) else none) (some 0)

/-- An unsigned integer with its base read from its prefix: `0b`, `0o`, `0x`, or a leading
zero for octal; it must be below `2^64`. -/
def readUnsignedAnyBase (cs : List Char) : Option Nat :=
  let value := match cs with
    | '0' :: b :: rest@(_ :: _) =>
      if b = 'b' || b = 'B' then digitsIn 2 rest
      else if b = 'o' || b = 'O' then digitsIn 8 rest
      else if b = 'x' || b = 'X' then digitsIn 16 rest
      else digitsIn 8 (b :: rest)
    | ['0'] => some 0
    | ['0', d] => digitsIn 8 [d]
    | cs => digitsIn 10 cs
  value.bind fun n => if n < Nat.pow 2 64 then some n else none

def readSignedAnyBase (cs : List Char) : Option Int :=
  let (negative, rest) := match cs with
    | '-' :: rest => (true, rest)
    | '+' :: rest => (false, rest)
    | rest => (false, rest)
  (readUnsignedAnyBase rest).bind fun n =>
    if negative then (if n ≤ Nat.pow 2 63 then some (-(n : Int)) else none)
    else if n < Nat.pow 2 63 then some n else none

/-- Whether a text is a real in the YAML style: an optional sign, digits with an optional
point and fraction or a point and digits, and an optional exponent. -/
def yamlStyleReal (cs : List Char) : Bool :=
  let cs := match cs with
    | '-' :: rest | '+' :: rest => rest
    | rest => rest
  let mantissa : Option (List Char) := match cs with
    | '.' :: rest =>
      let ds := rest.takeWhile Char.isDigit
      if ds.isEmpty then none else some (rest.drop ds.length)
    | _ =>
      let ds := cs.takeWhile Char.isDigit
      if ds.isEmpty then none
      else
        match cs.drop ds.length with
        | '.' :: rest => some (rest.dropWhile Char.isDigit)
        | rest => some rest
  match mantissa with
  | none => false
  | some [] => true
  | some (e :: rest) =>
    if e = 'e' || e = 'E' then
      let rest := match rest with
        | '-' :: r | '+' :: r => r
        | r => r
      !rest.isEmpty && rest.all Char.isDigit
    else false

def shortNumber (cs : List Char) : Option (Nat × List Char) :=
  match cs with
  | a :: b :: rest =>
    if a.isDigit && b.isDigit then some ((a.toNat - 48) * 10 + (b.toNat - 48), rest)
    else if a.isDigit then some (a.toNat - 48, b :: rest)
    else none
  | [a] => if a.isDigit then some (a.toNat - 48, []) else none
  | [] => none

def twoDigits : List Char → Option (Nat × List Char)
  | a :: b :: rest =>
    if a.isDigit && b.isDigit then some ((a.toNat - 48) * 10 + (b.toNat - 48), rest) else none
  | _ => none

def daysIn (year month : Nat) : Nat :=
  if month = 2 then (if year % 4 = 0 && (year % 100 ≠ 0 || year % 400 = 0) then 29 else 28)
  else if month = 4 || month = 6 || month = 9 || month = 11 then 30
  else 31

/-- The text after a literal character of a layout. -/
def literal (c : Char) : List Char → Option (List Char)
  | d :: rest => if c = d then some rest else none
  | [] => none

def spaces (cs : List Char) : Option (List Char) :=
  match cs with
  | c :: _ => if c = ' ' then some (cs.dropWhile (· = ' ')) else none
  | [] => some []

/-- A date `YYYY-M-D` (month and day of one or two digits, the month from 1 to 12) and the
rest; the year and month are returned for the check of the day. -/
def readDate (cs : List Char) : Option (Nat × Nat × Nat × List Char) :=
  let year := cs.take 4
  if year.length = 4 && year.all Char.isDigit then
    let y := year.foldl (fun acc c => acc * 10 + (c.toNat - 48)) 0
    (literal '-' (cs.drop 4)).bind fun rest =>
      (shortNumber rest).bind fun (m, rest) =>
        if m < 1 || 12 < m then none
        else
          (literal '-' rest).bind fun rest =>
            (shortNumber rest).bind fun (d, rest) => some (y, m, d, rest)
  else none

/-- A clock `H:M:S` (each of one or two digits, in range) with an optional fraction of a
second after a point or a comma, and the rest. -/
def readClock (cs : List Char) : Option (List Char) :=
  (shortNumber cs).bind fun (h, rest) =>
    if 24 ≤ h then none
    else
      (literal ':' rest).bind fun rest =>
        (shortNumber rest).bind fun (m, rest) =>
          if 60 ≤ m then none
          else
            (literal ':' rest).bind fun rest =>
              (shortNumber rest).bind fun (s, rest) =>
                if 60 ≤ s then none
                else
                  match rest with
                  | p :: d :: more =>
                    if (p = '.' || p = ',') && d.isDigit then some (more.dropWhile Char.isDigit)
                    else some rest
                  | _ => some rest

/-- Whether a zone is `Z` or a signed `hh:mm` offset of at most 24 hours and 60 minutes, with
nothing after it. -/
def readZone : List Char → Bool
  | ['Z'] => true
  | sign :: rest =>
    match twoDigits rest with
    | some (h, ':' :: rest) =>
      match twoDigits rest with
      | some (m, []) => h ≤ 24 && m ≤ 60 && (sign = '+' || sign = '-')
      | _ => false
    | _ => false
  | [] => false

/-- Whether a text reads as a date in one of the four layouts `YYYY-M-DTH:M:S.fZ07:00` (also
with a small `t`), `YYYY-M-D H:M:S.f` and `YYYY-M-D`, with a day that the month has. -/
def isTimestamp (s : String) : Bool :=
  match readDate s.toList with
  | none => false
  | some (y, m, d, rest) =>
    let dayFits := 1 ≤ d && d ≤ daysIn y m
    let zoned (sep : Char) : Bool :=
      match (literal sep rest).bind readClock with
      | some zone => readZone zone
      | none => false
    let spaced : Bool :=
      match (spaces rest).bind readClock with
      | some [] => true
      | _ => false
    dayFits && (zoned 'T' || zoned 't' || spaced || rest.isEmpty)

def signedInBase (base : Nat) (cs : List Char) : Option Int :=
  let (negative, rest) := match cs with
    | '-' :: rest => (true, rest)
    | '+' :: rest => (false, rest)
    | rest => (false, rest)
  (digitsIn base rest).bind fun n =>
    if negative then (if n ≤ Nat.pow 2 63 then some (-(n : Int)) else none)
    else if n < Nat.pow 2 63 then some n else none

def unsignedInBase (base : Nat) (cs : List Char) : Option Nat :=
  (digitsIn base cs).bind fun n => if n < Nat.pow 2 64 then some n else none

/-- The readings of a `0b` or `0o` prefix that the general integer reading refuses: a sign
after the prefix, or a minus sign before it. -/
def prefixedInteger (plain : List Char) : Option Resolved :=
  let branch (letter : Char) (base : Nat) : Option Resolved :=
    match plain with
    | '0' :: l :: rest =>
      if l ≠ letter then none
      else
        match signedInBase base rest with
        | some i => some (.int i)
        | none => (unsignedInBase base rest).map Resolved.uint
    | '-' :: '0' :: l :: rest =>
      if l ≠ letter then none else (signedInBase base ('-' :: rest)).map Resolved.int
    | _ => none
  match branch 'b' 2 with
  | some r => some r
  | none => branch 'o' 8

/-- The tag and value a plain scalar resolves to when read as `tag` asks, before the check
that they agree. -/
def resolveLoose (tag value : String) : String × Resolved :=
  let text := ("!!str", Resolved.str value)
  match hintOf value with
  | some hint =>
    if tag = "!!str" || tag = "!!binary" then text
    else
      match fixedReading value with
      | some r => r
      | none =>
        if hint = 'M' then text
        else if hint = '.' then
          match Number.readReal value with
          | some f => ("!!float", .float f)
          | none => text
        else if (tag = "" || tag = "!!timestamp") && isTimestamp value then ("!!timestamp", .timestamp)
        else
          let plain := value.toList.filter (· ≠ '_')
          match readSignedAnyBase plain with
          | some i => ("!!int", .int i)
          | none =>
            match readUnsignedAnyBase plain with
            | some n => ("!!int", .uint n)
            | none =>
              let real : Option Float :=
                if yamlStyleReal plain then Number.readReal (String.ofList plain) else none
              match real with
              | some f => ("!!float", .float f)
              | none =>
                match prefixedInteger plain with
                | some r => ("!!int", r)
                | none => text
  | none => text

def resolvableTag (tag : String) : Bool :=
  tag = "" || tag = "!!str" || tag = "!!bool" || tag = "!!int" || tag = "!!float" || tag = "!!timestamp" ||
    tag = "!!null"

/-- The tag and value of a scalar read as `tag` asks; the fault when the text does not
resolve to that tag. -/
def resolve (tag value : String) : Except String (String × Resolved) :=
  let tag := shortTag tag
  if !resolvableTag tag then .ok (tag, .str value)
  else
    let (rtag, r) := resolveLoose tag value
    if tag = "" || tag = rtag || tag = "!!str" || tag = "!!binary" then .ok (rtag, r)
    else
      match tag, r with
      | "!!float", .int i => .ok ("!!float", .float (Float.ofInt i))
      | _, _ => .error ("cannot decode " ++ rtag ++ " `" ++ value ++ "` as a " ++ tag)

end Yaml
end Settings
end Circuitry
