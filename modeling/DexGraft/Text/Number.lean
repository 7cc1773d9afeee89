import DexGraft.Text.Blank
import DexGraft.Text.Digit

/-!
Whole numbers in text. A sign may stand in front, single underscores may stand
between digits, blanks may surround the whole, and digits of any script count.
The four information separators are no padding, unlike elsewhere. A numeral of
more than `digitLimit` digits is refused.
-/
namespace DexGraft.Text

def digitLimit : Nat := 4300

def isPadding (c : Char) : Bool :=
  isBlank c && !(28 ≤ c.toNat && c.toNat ≤ 31)

def stripPadding (text : List Char) : List Char :=
  ((text.dropWhile isPadding).reverse.dropWhile isPadding).reverse

def digitsFrom (value count : Nat) : List Char → Option (Nat × Nat)
  | [] => some (value, count)
  | '_' :: c :: rest => (decimalValue? c).bind fun d => digitsFrom (value * 10 + d) (count + 1) rest
  | c :: rest => (decimalValue? c).bind fun d => digitsFrom (value * 10 + d) (count + 1) rest

def readNatural (text : List Char) : Option Nat :=
  match text with
  | [] => none
  | c :: rest => do
      let d ← decimalValue? c
      let (value, count) ← digitsFrom d 1 rest
      if count ≤ digitLimit then some value else none

def readInteger (text : List Char) : Option Int :=
  match stripPadding text with
  | '-' :: rest => (readNatural rest).map fun n => -(Int.ofNat n)
  | '+' :: rest => (readNatural rest).map Int.ofNat
  | bare => (readNatural bare).map Int.ofNat

end DexGraft.Text
