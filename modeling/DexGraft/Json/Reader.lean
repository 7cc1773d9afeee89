import DexGraft.Json.Value
import DexGraft.Text.Digit
import DexGraft.Text.Number

/-!
Reading structured data from text. A control character inside a string is
refused, `NaN` and the two infinities are numbers, and a whole number of more
than `digitLimit` digits is refused.
-/
namespace DexGraft.Json

def isSpace (c : Char) : Bool :=
  c == ' ' || c == '\t' || c == '\n' || c == '\r'

def skipSpace (text : List Char) : List Char :=
  text.dropWhile isSpace

def hexValue? (c : Char) : Option Nat :=
  if '0' ≤ c && c ≤ '9' then some (c.toNat - '0'.toNat)
  else if 'a' ≤ c && c ≤ 'f' then some (c.toNat - 'a'.toNat + 10)
  else if 'A' ≤ c && c ≤ 'F' then some (c.toNat - 'A'.toNat + 10)
  else none

def readUnit : List Char → Option (Nat × List Char)
  | a :: b :: c :: d :: rest => do
      let value := (((← hexValue? a) * 16 + (← hexValue? b)) * 16 + (← hexValue? c)) * 16 +
        (← hexValue? d)
      return (value, rest)
  | _ => none

def isHighHalf (value : Nat) : Bool :=
  0xd800 ≤ value && value < 0xdc00

def isLowHalf (value : Nat) : Bool :=
  0xdc00 ≤ value && value < 0xe000

/-- Half of a pair that stands alone is no character; the replacement character takes its place. -/
def loneHalf : Char := Char.ofNat 0xfffd

def readCodePoint (text : List Char) : Option (Char × List Char) := do
  let (first, rest) ← readUnit text
  if isHighHalf first then
    match rest with
    | '\\' :: 'u' :: more =>
        let (second, after) ← readUnit more
        if isLowHalf second then
          return (Char.ofNat (0x10000 + (first - 0xd800) * 1024 + (second - 0xdc00)), after)
        else return (loneHalf, rest)
    | _ => return (loneHalf, rest)
  else if isLowHalf first then return (loneHalf, rest)
  else return (Char.ofNat first, rest)

def readEscape : List Char → Option (Char × List Char)
  | '"' :: rest => some ('"', rest)
  | '\\' :: rest => some ('\\', rest)
  | '/' :: rest => some ('/', rest)
  | 'b' :: rest => some (Char.ofNat 8, rest)
  | 'f' :: rest => some (Char.ofNat 12, rest)
  | 'n' :: rest => some ('\n', rest)
  | 'r' :: rest => some ('\r', rest)
  | 't' :: rest => some ('\t', rest)
  | 'u' :: rest => readCodePoint rest
  | _ => none

/-- What follows an opening quote; `sofar` holds the characters read, last first. -/
def readText : (fuel : Nat) → (sofar : List Char) → List Char → Option (String × List Char)
  | 0, _, _ => none
  | _ + 1, _, [] => none
  | _ + 1, sofar, '"' :: rest => some (String.ofList sofar.reverse, rest)
  | fuel + 1, sofar, '\\' :: rest => do
      let (c, after) ← readEscape rest
      readText fuel (c :: sofar) after
  | fuel + 1, sofar, c :: rest =>
      if c.toNat < 32 then none else readText fuel (c :: sofar) rest

def naturalOf (digits : List Char) : Nat :=
  digits.foldl (fun value c => value * 10 + (c.toNat - '0'.toNat)) 0

def readFraction : List Char → Option (List Char × List Char)
  | '.' :: rest =>
      let digits := rest.takeWhile Text.isAsciiDigit
      if digits.isEmpty then none else some (digits, rest.dropWhile Text.isAsciiDigit)
  | _ => none

def readExponent : List Char → Option (Int × List Char)
  | c :: rest =>
      if c == 'e' || c == 'E' then
        let (negative, unsigned) := match rest with
          | '-' :: more => (true, more)
          | '+' :: more => (false, more)
          | more => (false, more)
        let digits := unsigned.takeWhile Text.isAsciiDigit
        let size := Int.ofNat (naturalOf digits)
        if digits.isEmpty then none
        else some (if negative then -size else size, unsigned.dropWhile Text.isAsciiDigit)
      else none
  | [] => none

/-- A nought begins no longer whole part. -/
def readWhole : List Char → Option (List Char × List Char)
  | '0' :: rest => some (['0'], rest)
  | text =>
      let digits := text.takeWhile Text.isAsciiDigit
      if digits.isEmpty then none else some (digits, text.dropWhile Text.isAsciiDigit)

def readUnsigned (negative : Bool) (text : List Char) : Option (Json × List Char) := do
  let (whole, rest) ← readWhole text
  let fraction := readFraction rest
  let (places, rest) := fraction.getD ([], rest)
  let power := readExponent rest
  let (exponent, rest) := power.getD (0, rest)
  if fraction.isNone && power.isNone then
    if whole.length ≤ Text.digitLimit then
      let size := Int.ofNat (naturalOf whole)
      return (.integer (if negative then -size else size), rest)
    else none
  else return (.decimal negative (naturalOf (whole ++ places)) (exponent - places.length), rest)

def words : List (List Char × Json) :=
  [("null".toList, .null), ("true".toList, .boolean true), ("false".toList, .boolean false),
    ("NaN".toList, .notNumber), ("Infinity".toList, .infinite false),
    ("-Infinity".toList, .infinite true)]

def readWord (text : List Char) : Option (Json × List Char) :=
  (words.find? fun word => word.1.isPrefixOf text).map fun word =>
    (word.2, text.drop word.1.length)

def readNumber : List Char → Option (Json × List Char)
  | '-' :: rest => readUnsigned true rest
  | text => readUnsigned false text

mutual

def readValue : (fuel : Nat) → List Char → Option (Json × List Char)
  | 0, _ => none
  | fuel + 1, text =>
      match text with
      | '"' :: rest => (readText (rest.length + 1) [] rest).map fun read => (.string read.1, read.2)
      | '[' :: rest =>
          match skipSpace rest with
          | ']' :: after => some (.list [], after)
          | items => readItems fuel [] items
      | '\x7b' :: rest =>
          match skipSpace rest with
          | '\x7d' :: after => some (.object [], after)
          | members => readMembers fuel [] members
      | _ => (readWord text).or (readNumber text)

def readItems : (fuel : Nat) → (sofar : List Json) → List Char → Option (Json × List Char)
  | 0, _, _ => none
  | fuel + 1, sofar, text => do
      let (item, rest) ← readValue fuel text
      match skipSpace rest with
      | ',' :: more => readItems fuel (item :: sofar) (skipSpace more)
      | ']' :: after => return (.list (item :: sofar).reverse, after)
      | _ => none

def readMembers : (fuel : Nat) → (sofar : List (String × Json)) → List Char →
    Option (Json × List Char)
  | 0, _, _ => none
  | fuel + 1, sofar, text =>
      match text with
      | '"' :: quoted => do
          let (key, rest) ← readText (quoted.length + 1) [] quoted
          match skipSpace rest with
          | ':' :: beyond =>
              let (value, rest) ← readValue fuel (skipSpace beyond)
              match skipSpace rest with
              | ',' :: more => readMembers fuel ((key, value) :: sofar) (skipSpace more)
              | '\x7d' :: after => return (.object ((key, value) :: sofar).reverse, after)
              | _ => none
          | _ => none
      | _ => none

end

def read (text : String) : Option Json := do
  let chars := text.toList
  let (value, rest) ← readValue (2 * chars.length + 2) (skipSpace chars)
  if (skipSpace rest).isEmpty then some value else none

end DexGraft.Json
