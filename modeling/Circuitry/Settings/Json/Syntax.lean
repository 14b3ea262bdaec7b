import Circuitry.Text.Quote
import Circuitry.Text.Space

/-!
# Reading a JSON document

The first JSON value of a text, read left to right; whatever follows that value is not looked
at. A text with nothing but white space has no value; a text that ends inside the value is cut
short; otherwise the first character that cannot continue the value is the fault, named with
what was expected there. Numbers keep their text, so that each field reads them by its own
rules; strings are unescaped, a lone surrogate escape giving U+FFFD.

A fault names the offending character in single quotes, escaped as in a quoted text when it is
not printable. Any character that cannot go on in a number, wherever in the number it stands,
is a fault in a numeric literal. A control character in a string is a fault in the string. A
bad escape is shown by its bytes: the backslash and the next byte, or for `\u` the six bytes
from the backslash (fewer at the end of the text, where four hexadecimal digits that could
still come make the text cut short instead).
-/

namespace Circuitry
namespace Settings

/-- A JSON value. -/
inductive JsonNode
  | null
  | bool (b : Bool)
  | number (text : String)
  | string (s : String)
  | array (items : List JsonNode)
  | object (members : List (String × JsonNode))
deriving Inhabited, Repr

/-- Where a character was found that cannot continue a JSON value: what the reader expected. -/
inductive JsonPlace
  | valueStart
  | keyStart
  | afterKey
  | afterMember
  | afterElement
  | inString
  | inNumber
  | inLiteral (word : String) (expected : Char)
deriving DecidableEq, Repr

def JsonPlace.text : JsonPlace → String
  | .valueStart => "looking for beginning of value"
  | .keyStart => "looking for beginning of object key string"
  | .afterKey => "after object key"
  | .afterMember => "after object key:value pair"
  | .afterElement => "after array element"
  | .inString => "in string"
  | .inNumber => "in numeric literal"
  | .inLiteral word c => "in literal " ++ word ++ " (expecting '" ++ String.singleton c ++ "')"

/-- Why a text holds no JSON value. -/
inductive JsonSyntaxIssue
  | empty
  | cutShort
  | invalid (c : Char) (place : JsonPlace)
  | badEscape (bytes : List UInt8)
deriving DecidableEq, Repr

def quoteChar (c : Char) : String :=
  if c = '\'' then "'\\''"
  else if c = '"' then "'\"'"
  else
    let q := Text.quote (String.singleton c)
    "'" ++ String.ofList ((q.toList.drop 1).dropLast) ++ "'"

def escapeNeedsQuotes (bytes : List UInt8) : Bool :=
  (Text.Utf8.decodeLossy bytes.length bytes).any fun c =>
    c.toNat = 0x60 || c.toNat = Text.Utf8.replacement || Text.isSpace c || !Text.isPrintable c.toNat

def showEscape (bytes : List UInt8) : String :=
  if escapeNeedsQuotes bytes then Text.quoteBytes bytes
  else "`" ++ String.ofList (Text.Utf8.decodeLossy bytes.length bytes) ++ "`"

/-- The message of a JSON syntax issue. -/
def JsonSyntaxIssue.message : JsonSyntaxIssue → String
  | .empty => "EOF"
  | .cutShort => "unexpected EOF"
  | .invalid c place => "invalid character " ++ quoteChar c ++ " " ++ place.text
  | .badEscape bytes => "invalid escape sequence " ++ showEscape bytes ++ " in string"

def isJsonSpace (c : Char) : Bool := c = ' ' || c = '\t' || c = '\n' || c = '\r'

def skipJsonSpace (cs : List Char) : List Char := cs.dropWhile isJsonSpace

def hexDigitValue (c : Char) : Option Nat :=
  if '0' ≤ c && c ≤ '9' then some (c.toNat - 48)
  else if 'a' ≤ c && c ≤ 'f' then some (c.toNat - 87)
  else if 'A' ≤ c && c ≤ 'F' then some (c.toNat - 55)
  else none

def readHex4 (cs : List Char) : Option (Nat × List Char) :=
  let rec go : Nat → Nat → List Char → Option (Nat × List Char)
    | 0, acc, rest => some (acc, rest)
    | k + 1, acc, c :: rest => (hexDigitValue c).bind fun d => go k (acc * 16 + d) rest
    | _ + 1, _, [] => none
  go 4 0 cs

def escapePrefix (bytes : List UInt8) : Bool :=
  bytes.zipIdx.all fun (b, i) =>
    if i = 0 then b = 0x5C
    else if i = 1 then b = 0x75
    else (hexDigitValue (Char.ofNat b.toNat)).isSome

def unicodeEscapeFault (cs : List Char) : JsonSyntaxIssue :=
  let head := (cs.take 6).flatMap Text.Utf8.encode
  if head.length < 6 then
    if escapePrefix head then .cutShort else .badEscape head
  else .badEscape (head.take 6)

def charOfCode (n : Nat) : Char :=
  if (0xD800 ≤ n && n < 0xE000) || n ≥ 0x110000 then Char.ofNat 0xFFFD else Char.ofNat n

/-- The character of a `\u` escape whose value is `high`, taking a second escape from `rest`
when the two form a surrogate pair. -/
def unicodeEscape (high : Nat) (rest : List Char) : Char × List Char :=
  if 0xD800 ≤ high && high < 0xDC00 then
    match rest with
    | '\\' :: 'u' :: more =>
      match readHex4 more with
      | some (low, after) =>
        if 0xDC00 ≤ low && low < 0xE000 then
          (Char.ofNat (0x10000 + (high - 0xD800) * 0x400 + (low - 0xDC00)), after)
        else (Char.ofNat 0xFFFD, rest)
      | none => (Char.ofNat 0xFFFD, rest)
    | _ => (Char.ofNat 0xFFFD, rest)
  else (charOfCode high, rest)

/-- The body of a string after its opening quote: its characters (reversed in `acc`) and the
text after the closing quote. Each step reads at least one character, so a fuel of one more
than the length of the text is never used up. -/
def readStringBody : Nat → List Char → List Char → Except JsonSyntaxIssue (String × List Char)
  | 0, _, _ => .error .cutShort
  | _ + 1, _, [] => .error .cutShort
  | _ + 1, acc, '"' :: rest => .ok (String.ofList acc.reverse, rest)
  | fuel + 1, acc, '\\' :: rest =>
    match rest with
    | [] => .error .cutShort
    | e :: more =>
      let simple : Option Char := match e with
        | '"' => some '"'
        | '\\' => some '\\'
        | '/' => some '/'
        | 'b' => some (Char.ofNat 8)
        | 'f' => some (Char.ofNat 12)
        | 'n' => some '\n'
        | 'r' => some '\r'
        | 't' => some '\t'
        | _ => none
      match simple with
      | some c => readStringBody fuel (c :: acc) more
      | none =>
        if e = 'u' then
          match readHex4 more with
          | some (high, after) =>
            let (c, after) := unicodeEscape high after
            readStringBody fuel (c :: acc) after
          | none => .error (unicodeEscapeFault ('\\' :: rest))
        else .error (.badEscape (0x5C :: (Text.Utf8.encode e).take 1))
  | fuel + 1, acc, c :: rest =>
    if c.toNat < 0x20 then .error (.invalid c .inString)
    else readStringBody fuel (c :: acc) rest

/-- The digits of a number text after its sign: `0` or a digit from 1 to 9 and more digits,
then an optional fraction and an optional exponent. Returns the text read and the rest; the
number ends at the first character that cannot continue it. -/
def readUnsignedNumber (cs : List Char) : Except JsonSyntaxIssue (List Char × List Char) :=
  let whole : Except JsonSyntaxIssue (List Char × List Char) := match cs with
    | '0' :: rest => .ok (['0'], rest)
    | c :: rest =>
      if '1' ≤ c && c ≤ '9' then .ok (c :: rest.takeWhile Char.isDigit, rest.dropWhile Char.isDigit)
      else .error (.invalid c .inNumber)
    | [] => .error .cutShort
  match whole with
  | .error e => .error e
  | .ok (w, rest) =>
    let fraction : Except JsonSyntaxIssue (List Char × List Char) := match rest with
      | '.' :: more =>
        match more with
        | c :: _ =>
          if c.isDigit then .ok ('.' :: more.takeWhile Char.isDigit, more.dropWhile Char.isDigit)
          else .error (.invalid c .inNumber)
        | [] => .error .cutShort
      | _ => .ok ([], rest)
    match fraction with
    | .error e => .error e
    | .ok (f, rest) =>
      match rest with
      | e :: more =>
        if e = 'e' || e = 'E' then
          let (sign, digits) : List Char × List Char := match more with
            | '+' :: d => (['+'], d)
            | '-' :: d => (['-'], d)
            | d => ([], d)
          match digits with
          | c :: _ =>
            if c.isDigit then
              .ok (w ++ f ++ e :: sign ++ digits.takeWhile Char.isDigit, digits.dropWhile Char.isDigit)
            else .error (.invalid c .inNumber)
          | [] => .error .cutShort
        else .ok (w ++ f, rest)
      | [] => .ok (w ++ f, [])

def readNumber : List Char → Except JsonSyntaxIssue (String × List Char)
  | '-' :: rest =>
    match readUnsignedNumber rest with
    | .ok (ds, after) => .ok (String.ofList ('-' :: ds), after)
    | .error e => .error e
  | cs =>
    match readUnsignedNumber cs with
    | .ok (ds, after) => .ok (String.ofList ds, after)
    | .error e => .error e

def readLiteral (word : String) : List Char → List Char → Except JsonSyntaxIssue (List Char)
  | [], rest => .ok rest
  | _ :: _, [] => .error .cutShort
  | w :: ws, c :: rest => if c = w then readLiteral word ws rest else .error (.invalid c (.inLiteral word w))

mutual

/-- A JSON value after optional white space, and the rest of the text. Every call uses one
unit of fuel; twice the length of the text and two more is enough. -/
def readValue : Nat → List Char → Except JsonSyntaxIssue (JsonNode × List Char)
  | 0, _ => .error .cutShort
  | fuel + 1, cs =>
    match skipJsonSpace cs with
    | [] => .error .cutShort
    | '\x7b' :: rest => readMembers fuel [] true rest
    | '[' :: rest => readElements fuel [] true rest
    | '"' :: rest =>
      match readStringBody (rest.length + 1) [] rest with
      | .ok (s, after) => .ok (.string s, after)
      | .error e => .error e
    | 't' :: rest =>
      match readLiteral "true" ['r', 'u', 'e'] rest with
      | .ok after => .ok (.bool true, after)
      | .error e => .error e
    | 'f' :: rest =>
      match readLiteral "false" ['a', 'l', 's', 'e'] rest with
      | .ok after => .ok (.bool false, after)
      | .error e => .error e
    | 'n' :: rest =>
      match readLiteral "null" ['u', 'l', 'l'] rest with
      | .ok after => .ok (.null, after)
      | .error e => .error e
    | c :: rest =>
      if c = '-' || c.isDigit then
        match readNumber (c :: rest) with
        | .ok (text, after) => .ok (.number text, after)
        | .error e => .error e
      else .error (.invalid c .valueStart)

/-- The elements of an array after its `[` (or after a comma, when not `first`), reversed in
`acc`, and the rest after the closing `]`. -/
def readElements : Nat → List JsonNode → Bool → List Char →
    Except JsonSyntaxIssue (JsonNode × List Char)
  | 0, _, _, _ => .error .cutShort
  | fuel + 1, acc, first, cs =>
    match skipJsonSpace cs with
    | ']' :: rest =>
      if first then .ok (.array [], rest) else .error (.invalid ']' .valueStart)
    | text =>
      match readValue fuel text with
      | .ok (v, rest) =>
        match skipJsonSpace rest with
        | ',' :: more => readElements fuel (v :: acc) false more
        | ']' :: more => .ok (.array (v :: acc).reverse, more)
        | c :: _ => .error (.invalid c .afterElement)
        | [] => .error .cutShort
      | .error e => .error e

/-- The members of an object after its `{` (or after a comma, when not `first`), reversed in
`acc`, and the rest after the closing brace. -/
def readMembers : Nat → List (String × JsonNode) → Bool → List Char →
    Except JsonSyntaxIssue (JsonNode × List Char)
  | 0, _, _, _ => .error .cutShort
  | fuel + 1, acc, first, cs =>
    match skipJsonSpace cs with
    | [] => .error .cutShort
    | '"' :: more =>
      match readStringBody (more.length + 1) [] more with
      | .ok (key, rest) =>
        match skipJsonSpace rest with
        | ':' :: after =>
          match readValue fuel after with
          | .ok (v, rest) =>
            match skipJsonSpace rest with
            | ',' :: more => readMembers fuel ((key, v) :: acc) false more
            | '\x7d' :: more => .ok (.object ((key, v) :: acc).reverse, more)
            | c :: _ => .error (.invalid c .afterMember)
            | [] => .error .cutShort
          | .error e => .error e
        | c :: _ => .error (.invalid c .afterKey)
        | [] => .error .cutShort
      | .error e => .error e
    | c :: rest =>
      if c = '\x7d' && first then .ok (.object [], rest) else .error (.invalid c .keyStart)

end

def readJson (text : String) : Except JsonSyntaxIssue JsonNode :=
  let cs := text.toList
  if (skipJsonSpace cs).isEmpty then .error .empty
  else
    match readValue (2 * cs.length + 2) cs with
    | .ok (v, _) => .ok v
    | .error e => .error e

end Settings
end Circuitry
