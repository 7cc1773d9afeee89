/-!
Blank characters, and the trimming, indentation and emptiness that rest on
them. The set is that of the Unicode property White_Space together with the
four ASCII information separators.
-/
namespace DexGraft.Text

def isBlank (c : Char) : Bool :=
  let n := c.toNat
  (9 ≤ n && n ≤ 13) || (28 ≤ n && n ≤ 32) || n == 0x85 || n == 0xa0 || n == 0x1680 ||
    (0x2000 ≤ n && n ≤ 0x200a) || n == 0x2028 || n == 0x2029 || n == 0x202f || n == 0x205f ||
    n == 0x3000

def trimStart (text : List Char) : List Char :=
  text.dropWhile isBlank

def trimEnd (text : List Char) : List Char :=
  (text.reverse.dropWhile isBlank).reverse

def trim (text : List Char) : List Char :=
  trimEnd (trimStart text)

def indent (line : List Char) : List Char :=
  line.takeWhile isBlank

def trimmed (text : String) : String :=
  String.ofList (trim text.toList)

def isAllBlank (text : String) : Bool :=
  text.toList.all isBlank

theorem indent_append_trimStart (line : List Char) : indent line ++ trimStart line = line :=
  List.takeWhile_append_dropWhile

theorem isAllBlank_append (first second : String) :
    isAllBlank (first ++ second) = (isAllBlank first && isAllBlank second) := by
  simp [isAllBlank]

end DexGraft.Text
