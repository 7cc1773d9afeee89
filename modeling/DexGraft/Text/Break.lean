/-!
Two rules for breaking text into lines. `lines` breaks at CR LF, CR and LF
only and keeps what follows the last break, even when it is empty. `paragraphs`
breaks at every Unicode line boundary and opens no line after a final break.
-/
namespace DexGraft.Text

def isBreak (c : Char) : Bool :=
  c == '\n' || c == '\r'

/-- `current` is the open line, last character first. -/
def linesFrom (current : List Char) : List Char → List (List Char)
  | [] => [current.reverse]
  | '\r' :: '\n' :: rest => current.reverse :: linesFrom [] rest
  | c :: rest =>
      if isBreak c then current.reverse :: linesFrom [] rest else linesFrom (c :: current) rest

def lines (text : List Char) : List (List Char) :=
  linesFrom [] text

def firstBreak : List Char → Option (List Char)
  | [] => none
  | '\r' :: '\n' :: _ => some ['\r', '\n']
  | c :: rest => if isBreak c then some [c] else firstBreak rest

def isBoundary (c : Char) : Bool :=
  let n := c.toNat
  (10 ≤ n && n ≤ 13) || (28 ≤ n && n ≤ 30) || n == 0x85 || n == 0x2028 || n == 0x2029

def paragraphsFrom (current : List Char) : List Char → List (List Char)
  | [] => if current.isEmpty then [] else [current.reverse]
  | '\r' :: '\n' :: rest => current.reverse :: paragraphsFrom [] rest
  | c :: rest =>
      if isBoundary c then current.reverse :: paragraphsFrom [] rest
      else paragraphsFrom (c :: current) rest

def paragraphs (text : List Char) : List (List Char) :=
  paragraphsFrom [] text

def unifyBreaks : List Char → List Char
  | [] => []
  | '\r' :: '\n' :: rest => '\n' :: unifyBreaks rest
  | c :: rest => (if c == '\r' then '\n' else c) :: unifyBreaks rest

end DexGraft.Text
