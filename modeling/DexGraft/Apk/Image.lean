import DexGraft.Fault
import DexGraft.Text.Digit
import DexGraft.Text.Number
import DexGraft.Text.Split

/-!
Bytecode images: entries named by a base, an optional number and an extension.
The number is the image's priority, and the plain name counts as number one.
Images are tried in descending priority; images of one priority keep the order
of the archive.
-/
namespace DexGraft.Apk

open Text

structure Image where
  entry : String
  priority : Nat
  deriving DecidableEq

def Image.stem (image : Image) : String :=
  (Path.ofText image.entry).stem

def defaultBase : String := "classes"

def defaultExtension : String := ".dex"

/-- The digits in front of `ending`, if there is nothing else in front of it. -/
def digitsBefore? (ending text : List Char) : Option (List Char) :=
  (dropEnd? ending text).filter fun digits => digits.all isAsciiDigit

/-- The number part of an image name; a final line feed is passed over. -/
def imageDigits? (base ending name : String) : Option (List Char) := do
  let numbered ← dropStart? base.toList name.toList
  (digitsBefore? ending.toList numbered).or (digitsBefore? (ending.toList ++ ['\n']) numbered)

def priorityOfDigits (digits : List Char) : Except Fault (Option Nat) :=
  if digits.isEmpty then .ok (some 1)
  else match readNatural digits with
    | none => .error (.cause (.numeral (String.ofList digits)))
    | some number => .ok (if number = 0 then none else some number)

/-- None for a name that is no image's; a number too long to be read is an error. -/
def imagePriority (name base ending : String) : Except Fault (Option Nat) :=
  match imageDigits? base ending name with
  | none => .ok none
  | some digits => priorityOfDigits digits

def candidates (names : List String) (base ending : String) : Except Fault (List Image) :=
  match names with
  | [] => .ok []
  | name :: rest => do
      let priority? ← imagePriority name base ending
      let others ← candidates rest base ending
      return match priority? with
        | some priority => ⟨name, priority⟩ :: others
        | none => others

def selectImages (names : List String) (base ending : String) : Except Fault (List Image) := do
  let images ← candidates names base ending
  if images.isEmpty then throw (.noImages base ending)
  return images.mergeSort fun first second => second.priority ≤ first.priority

end DexGraft.Apk
