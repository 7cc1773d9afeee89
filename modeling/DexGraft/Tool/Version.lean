import DexGraft.Fault
import DexGraft.Text.Digit
import DexGraft.Text.Number
import DexGraft.Text.Split

/-!
Version names by the numbers in them. Dots and hyphens part the numbers, and
whatever is no number counts as nought.
-/
namespace DexGraft.Tool

open Text

def hyphenToDot (c : Char) : Char :=
  if c == '-' then '.' else c

def versionPart (part : List Char) : Except Cause Nat :=
  if part.isEmpty || !part.all isDigit then .ok 0
  else match readNatural part with
    | some number => .ok number
    | none => .error (.numeral (String.ofList part))

def versionKey (name : String) : Except Cause (List Nat) :=
  (splitAt '.' (name.toList.map hyphenToDot)).mapM versionPart

/-- Part by part; a version that goes on is newer than one that ends there. -/
def notNewer : List Nat → List Nat → Bool
  | [], _ => true
  | _ :: _, [] => false
  | a :: rest, b :: others => a < b || (a == b && notNewer rest others)

def newestFirst {α : Type} (key : α → List Nat) (items : List α) : List α :=
  items.mergeSort fun first second => notNewer (key second) (key first)

end DexGraft.Tool
