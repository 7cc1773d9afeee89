/-!
Capital forms that consist of ASCII letters. A few letters outside ASCII have
such a form, some of them of several letters; every other character stands for
itself, which no ASCII text can match.
-/
namespace DexGraft.Text

def asciiCapital (c : Char) : List Char :=
  if 'a' ≤ c && c ≤ 'z' then [Char.ofNat (c.toNat - 32)]
  else match c.toNat with
    | 0xdf => ['S', 'S']
    | 0x131 => ['I']
    | 0x17f => ['S']
    | 0xfb00 => ['F', 'F']
    | 0xfb01 => ['F', 'I']
    | 0xfb02 => ['F', 'L']
    | 0xfb03 => ['F', 'F', 'I']
    | 0xfb04 => ['F', 'F', 'L']
    | 0xfb05 => ['S', 'T']
    | 0xfb06 => ['S', 'T']
    | _ => [c]

def asciiCapitals (text : List Char) : List Char :=
  text.flatMap asciiCapital

/-- Equality of one letter with an ASCII capital when case does not count; the long s is an s. -/
def isLetter (capital c : Char) : Bool :=
  c == capital || c.toNat == capital.toNat + 32 || (capital == 'S' && c.toNat == 0x17f)

def spells : List Char → List Char → Bool
  | [], [] => true
  | w :: word, c :: text => isLetter w c && spells word text
  | _, _ => false

end DexGraft.Text
