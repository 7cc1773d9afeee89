/-!
Byte strings as lists, little-endian numbers in them, and their UTF-8 reading.
-/
namespace DexGraft

abbrev Bytes := List UInt8

namespace Bytes

def number : (width value : Nat) → Bytes
  | 0, _ => []
  | width + 1, value => UInt8.ofNat (value % 256) :: number width (value / 256)

def value : Bytes → Nat
  | [] => 0
  | byte :: rest => byte.toNat + 256 * value rest

/-- The number of `width` bytes at `offset`; bytes beyond the end count as zero. -/
def field (bytes : Bytes) (offset width : Nat) : Nat :=
  value ((bytes.drop offset).take width)

def fields (numbers : List (Nat × Nat)) : Bytes :=
  numbers.flatMap fun entry => number entry.1 entry.2

def ofText (text : String) : Bytes :=
  text.toUTF8.data.toList

/-- Refuses everything that is not strict UTF-8. -/
def toText? (bytes : Bytes) : Option String :=
  String.fromUTF8? ⟨bytes.toArray⟩

theorem number_length (width value : Nat) : (number width value).length = width := by
  induction width generalizing value with
  | zero => rfl
  | succ width ih => simp [number, ih]

theorem fields_length (numbers : List (Nat × Nat)) :
    (fields numbers).length = (numbers.map (·.1)).foldr (· + ·) 0 := by
  induction numbers with
  | nil => rfl
  | cons entry rest ih => simp_all [fields, number_length]

theorem value_number (width n : Nat) (fits : n < Nat.pow 256 width) :
    value (number width n) = n := by
  induction width generalizing n with
  | zero =>
      have one : Nat.pow 256 0 = 1 := rfl
      simp only [number, value]
      omega
  | succ width ih =>
      have smaller : n / 256 < Nat.pow 256 width := by
        have grown : Nat.pow 256 (width + 1) = Nat.pow 256 width * 256 := rfl
        exact Nat.div_lt_of_lt_mul (by omega)
      simp [number, value, ih _ smaller]
      omega

end Bytes
end DexGraft
