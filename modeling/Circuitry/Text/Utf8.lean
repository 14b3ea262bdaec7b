/-!
# Reading characters from UTF-8 bytes

The code point that a byte sequence starts with, by the UTF-8 rules: the lead byte fixes the
length, every further byte must be a continuation byte, the second byte's range is narrowed
where that excludes overlong forms, surrogates and code points above U+10FFFF, and a sequence
that breaks a rule or is cut short reads as the replacement character U+FFFD.

A whole byte string reads as text the same way, one sequence at a time; a byte that starts no
well-formed sequence reads as one replacement character and the reading goes on at the next
byte.
-/

namespace Circuitry
namespace Text
namespace Utf8

def replacement : Nat := 0xFFFD

def inRange (lo hi : Nat) (b : UInt8) : Bool := lo ≤ b.toNat && b.toNat ≤ hi

def isContinuation (b : UInt8) : Bool := inRange 0x80 0xBF b

/-- The code point at the start of `bytes`; `replacement` when it is not a well-formed
sequence (or when there are no bytes). -/
def firstCode (bytes : List UInt8) : Nat :=
  match bytes with
  | [] => replacement
  | b0 :: rest =>
    let n0 := b0.toNat
    if n0 < 0x80 then n0
    else if n0 < 0xC2 then replacement
    else if n0 < 0xE0 then
      match rest with
      | b1 :: _ =>
        if isContinuation b1 then (n0 % 32) * 64 + b1.toNat % 64 else replacement
      | [] => replacement
    else if n0 < 0xF0 then
      let lo := if n0 = 0xE0 then 0xA0 else 0x80
      let hi := if n0 = 0xED then 0x9F else 0xBF
      match rest with
      | b1 :: b2 :: _ =>
        if inRange lo hi b1 && isContinuation b2 then
          (n0 % 16) * 4096 + (b1.toNat % 64) * 64 + b2.toNat % 64
        else replacement
      | _ => replacement
    else if n0 < 0xF5 then
      let lo := if n0 = 0xF0 then 0x90 else 0x80
      let hi := if n0 = 0xF4 then 0x8F else 0xBF
      match rest with
      | b1 :: b2 :: b3 :: _ =>
        if inRange lo hi b1 && isContinuation b2 && isContinuation b3 then
          (n0 % 8) * 262144 + (b1.toNat % 64) * 4096 + (b2.toNat % 64) * 64 + b3.toNat % 64
        else replacement
      | _ => replacement
    else replacement

def leadLength (b : UInt8) : Nat :=
  if b.toNat < 0x80 then 1 else if b.toNat < 0xE0 then 2 else if b.toNat < 0xF0 then 3 else 4

def startsWell (bytes : List UInt8) : Bool :=
  firstCode bytes ≠ replacement || bytes.take 3 == [0xEF, 0xBF, 0xBD]

def decodeLossy : Nat → List UInt8 → List Char
  | 0, _ => []
  | _, [] => []
  | fuel + 1, b :: rest =>
    if startsWell (b :: rest) then
      Char.ofNat (firstCode (b :: rest)) :: decodeLossy fuel ((b :: rest).drop (leadLength b))
    else Char.ofNat replacement :: decodeLossy fuel rest

def encode (c : Char) : List UInt8 := (String.singleton c).toUTF8.data.toList

def width (c : Char) : Nat :=
  if c.toNat < 0x80 then 1 else if c.toNat < 0x800 then 2 else if c.toNat < 0x10000 then 3 else 4

example : firstCode [0xC3, 0xA9] = 0xE9 := by decide
example : firstCode [0xE2, 0x82] = replacement := by decide

end Utf8
end Text
end Circuitry
