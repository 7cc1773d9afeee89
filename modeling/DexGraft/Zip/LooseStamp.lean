import DexGraft.Fault
import DexGraft.Json.Value
import DexGraft.Text.Number
import DexGraft.Zip.Stamp

/-!
Stamps from loosely given times: six numbers, or whatever can be read as such.
What cannot be read so gives the earliest stamp.
-/
namespace DexGraft.Zip

/-- Digits times a power of ten, rounded to the nearest double and cut to a whole number. -/
def wholePart? (negative : Bool) (digits : Nat) (exponent : Int) : Option Int :=
  let value := Float.ofScientific digits (exponent < 0) exponent.natAbs
  let bits := value.toBits.toNat
  let power := bits >>> 52 % 2048
  let fraction := bits % Nat.pow 2 52
  if power = 2047 then none
  else
    let significand := if power = 0 then fraction else fraction + Nat.pow 2 52
    let scale := max power 1
    let whole := if 1075 ≤ scale then significand <<< (scale - 1075)
      else significand >>> (1075 - scale)
    some (if negative then -(Int.ofNat whole) else Int.ofNat whole)

inductive Reading
  | whole (value : Int)
  | unbounded
  | unreadable

def readWhole : Json → Reading
  | .integer value => .whole value
  | .boolean value => .whole (if value then 1 else 0)
  | .decimal negative digits exponent =>
      match wholePart? negative digits exponent with
      | some value => .whole value
      | none => .unbounded
  | .infinite _ => .unbounded
  | .string text =>
      match Text.readInteger text.toList with
      | some value => .whole value
      | none => .unreadable
  | _ => .unreadable

/-- The items of a list, the characters of a text, or the keys of an object. -/
def itemsOf? : Json → Option (List Json)
  | .list items => some items
  | .string text => some (text.toList.map fun c => .string (String.singleton c))
  | .object members => some ((members.map (·.1)).eraseDups.map .string)
  | _ => none

def readAll : List Json → Except Cause (Option (List Int))
  | [] => .ok (some [])
  | item :: rest =>
      match readWhole item with
      | .unbounded => .error .unbounded
      | .unreadable => .ok none
      | .whole value => do return (← readAll rest).map (value :: ·)

def Stamp.ofLoose (value : Json) : Except Cause Stamp :=
  match itemsOf? value with
  | none => .ok Stamp.earliest
  | some items => do
      return match ← readAll (items.take 7) with
        | some [year, month, day, hour, minute, second] =>
            (Calendar.mk year month day hour minute second).toStamp
        | _ => Stamp.earliest

end DexGraft.Zip
