import Circuitry.Text.Printable
import Circuitry.Text.Utf8

/-!
# Quoted text

A text in double quotes, as fault messages show names and values: the quote and the backslash
are escaped with a backslash, printable characters stand as they are, the seven C control
escapes (`\a \b \f \n \r \t \v`) are used where they apply, and any other character becomes a
hexadecimal escape: `\xHH` below the space and for DEL, `\uHHHH` in the basic plane and
`\UHHHHHHHH` above it, with lower-case digits. A byte string is quoted the same way, one UTF-8
sequence at a time, and a byte that starts no well-formed sequence is written `\xHH`.
-/

namespace Circuitry
namespace Text

def hexDigits (width n : Nat) : String :=
  let digits := Nat.toDigits 16 n
  String.ofList (List.replicate (width - digits.length) '0' ++ digits)

/-- How one character is written inside a quoted text. -/
def escapeChar (c : Char) : String :=
  if c = '"' then "\\\""
  else if c = '\\' then "\\\\"
  else if isPrintable c.toNat then c.toString
  else if c.toNat = 7 then "\\a"
  else if c.toNat = 8 then "\\b"
  else if c.toNat = 12 then "\\f"
  else if c = '\n' then "\\n"
  else if c = '\r' then "\\r"
  else if c = '\t' then "\\t"
  else if c.toNat = 11 then "\\v"
  else if c.toNat < 0x20 || c.toNat = 0x7F then "\\x" ++ hexDigits 2 c.toNat
  else if c.toNat < 0x10000 then "\\u" ++ hexDigits 4 c.toNat
  else "\\U" ++ hexDigits 8 c.toNat

def quote (s : String) : String :=
  "\"" ++ String.join (s.toList.map escapeChar) ++ "\""

def escapeBytes : Nat → List UInt8 → String
  | 0, _ => ""
  | _ + 1, [] => ""
  | fuel + 1, b :: rest =>
    if Utf8.startsWell (b :: rest) then
      escapeChar (Char.ofNat (Utf8.firstCode (b :: rest))) ++
        escapeBytes fuel ((b :: rest).drop (Utf8.leadLength b))
    else "\\x" ++ hexDigits 2 b.toNat ++ escapeBytes fuel rest

def quoteBytes (bytes : List UInt8) : String :=
  "\"" ++ escapeBytes bytes.length bytes ++ "\""

end Text
end Circuitry
