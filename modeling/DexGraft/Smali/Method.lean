import DexGraft.Fault
import DexGraft.Text.Blank
import DexGraft.Text.Break
import DexGraft.Text.Split

/-!
Methods in the text of a class. A method's block runs from the line that spells
its signature to the next line that spells the end marker, blanks around them
aside. `patch` puts a replacement in the place of the first such block and
leaves every other line as it is.
-/
namespace DexGraft.Smali

open Text

abbrev Line := List Char

def endMarker : String := ".end method"

/-- A text by its lines, the break between them and whether one follows the last line. -/
structure Broken where
  lines : List Line
  newline : Line
  trailing : Bool
  deriving DecidableEq

/-- Every break counts as one of the first kind; a text without breaks takes line feeds. -/
def Broken.ofText (text : List Char) : Broken :=
  let pieces := Text.lines text
  let newline := (firstBreak text).getD ['\n']
  if 1 < pieces.length && pieces.getLastD [] == [] then ⟨pieces.dropLast, newline, true⟩
  else ⟨pieces, newline, false⟩

def Broken.toText (broken : Broken) : List Char :=
  joinWith broken.newline broken.lines ++ if broken.trailing then broken.newline else []

def spellsTrimmed (words : Line) (line : Line) : Bool :=
  trim line == words

def findBlock (lines : List Line) (signature marker : Line) : Option (Nat × Nat) := do
  let start ← lines.findIdx? (spellsTrimmed (trim signature))
  let size ← (lines.drop (start + 1)).findIdx? (spellsTrimmed marker)
  return (start, start + 1 + size)

def reindent (indentation line : Line) : Line :=
  let words := trim line
  if words.isEmpty then [] else indentation ++ words

def replacementLines (opening : Line) (replacement : List Char) : List Line :=
  (paragraphs replacement).map (reindent (indent opening))

def spliceBlock (lines : List Line) (opening : Line) (start stop : Nat)
    (replacement : List Char) : List Line :=
  lines.take start ++ replacementLines opening replacement ++ lines.drop (stop + 1)

/-- A position in a list of `length` items, counted from the end if negative and never outside. -/
def position (length : Nat) (index : Int) : Nat :=
  if index < 0 then (length + index).toNat else min index.toNat length

/-- The same for positions of any sign; there has to be a line at `start`. -/
def splice (lines : List Line) (start stop : Int) (replacement : List Char) :
    Except Cause (List Line) :=
  let opening? := if start + lines.length < 0 then none else lines[position lines.length start]?
  match opening? with
  | none => .error .lineOutOfRange
  | some opening =>
      .ok (lines.take (position lines.length start) ++ replacementLines opening replacement ++
        lines.drop (position lines.length (stop + 1)))

structure Patched where
  text : List Char
  first : Nat
  last : Nat
  /-- How many lines stand in the place of the old ones. -/
  size : Nat

def patch (text signature replacement marker : List Char) : Option Patched := do
  let broken := Broken.ofText text
  let (start, stop) ← findBlock broken.lines signature marker
  let opening ← broken.lines[start]?
  let lines := spliceBlock broken.lines opening start stop replacement
  return {
    text := { broken with lines }.toText
    first := start
    last := stop
    size := (replacementLines opening replacement).length }

end DexGraft.Smali
