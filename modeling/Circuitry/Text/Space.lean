/-!
# White space and letter case

The white space of Unicode (the `White_Space` property: the six ASCII blanks, NEL, no-break
space and the wide spaces), trimming it from both ends of a text, and the fold of letter case
that settles whether a text spells a given ASCII word.
-/

namespace Circuitry
namespace Text

def wideSpaces : List Nat :=
  [0x85, 0xA0, 0x1680, 0x2000, 0x2001, 0x2002, 0x2003, 0x2004, 0x2005, 0x2006, 0x2007,
   0x2008, 0x2009, 0x200A, 0x2028, 0x2029, 0x202F, 0x205F, 0x3000]

def isSpace (c : Char) : Bool :=
  c = ' ' || (9 ≤ c.toNat && c.toNat ≤ 13) || wideSpaces.contains c.toNat

def trimSpaceChars (s : List Char) : List Char :=
  ((s.dropWhile isSpace).reverse.dropWhile isSpace).reverse

def trimSpace (s : String) : String :=
  String.ofList (trimSpaceChars s.toList)

def foldAsciiCase (c : Char) : Char :=
  if 'A' ≤ c && c ≤ 'Z' then Char.ofNat (c.toNat + 32)
  else if c.toNat = 0x130 then 'i'
  else if c.toNat = 0x212A then 'k'
  else c

def foldCase (s : String) : String :=
  String.ofList (s.toList.map foldAsciiCase)

end Text
end Circuitry
