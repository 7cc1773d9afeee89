import DexGraft.Zip.Writer
import Mathlib.Tactic.Common

/-!
Numbers in byte strings. A number that fits its width is read back where it was
written, whatever follows it, and what stands before a field is passed over.
-/
namespace DexGraft.Bytes

theorem fields_nil : fields [] = [] := rfl

theorem fields_cons (width value : Nat) (rest : List (Nat × Nat)) :
    fields ((width, value) :: rest) = number width value ++ fields rest := rfl

theorem fields_append (first second : List (Nat × Nat)) :
    fields (first ++ second) = fields first ++ fields second := by
  simp [fields]

theorem field_drop (bytes : Bytes) (skipped offset width : Nat) :
    Bytes.field (bytes.drop skipped) offset width = bytes.field (skipped + offset) width := by
  simp [field]

theorem field_skip (first rest : Bytes) (offset width : Nat) (beyond : first.length ≤ offset) :
    Bytes.field (first ++ rest) offset width = rest.field (offset - first.length) width := by
  simp [field, List.drop_append, List.drop_eq_nil_of_le beyond]

theorem field_here (width value : Nat) (rest : Bytes) (fits : value < Nat.pow 256 width) :
    Bytes.field (number width value ++ rest) 0 width = value := by
  have front : (number width value ++ rest).take width = number width value := by
    rw [List.take_append_of_le_length (by simp [number_length]), List.take_of_length_le]
    simp [number_length]
  simp [field, front, value_number width value fits]

theorem value_take (bytes : Bytes) (width : Nat) :
    value (bytes.take width) = value bytes % Nat.pow 256 width := by
  induction width generalizing bytes with
  | zero => simp [value, Nat.mod_one]
  | succ width ih =>
      cases bytes with
      | nil => simp [value]
      | cons byte rest =>
          have small : byte.toNat < 256 := byte.toNat_lt
          have grown : Nat.pow 256 (width + 1) = 256 * Nat.pow 256 width := Nat.pow_succ'
          have above : (byte.toNat + 256 * value rest) / 256 = value rest := by omega
          rw [List.take_succ_cons, value, value, ih, grown, Nat.mod_mul, above]
          omega

theorem value_drop (bytes : Bytes) (width : Nat) :
    value (bytes.drop width) = value bytes / Nat.pow 256 width := by
  induction width generalizing bytes with
  | zero => simp
  | succ width ih =>
      cases bytes with
      | nil => simp [value]
      | cons byte rest =>
          have small : byte.toNat < 256 := byte.toNat_lt
          have grown : Nat.pow 256 (width + 1) = 256 * Nat.pow 256 width := Nat.pow_succ'
          rw [List.drop_succ_cons, ih, value, grown, ← Nat.div_div_eq_div_mul]
          congr 1
          omega

theorem field_lt (bytes : Bytes) (offset width : Nat) :
    bytes.field offset width < Nat.pow 256 width := by
  rw [field, value_take]
  exact Nat.mod_lt _ (Nat.pow_pos (by decide))

theorem field_narrow (bytes : Bytes) (offset width wide : Nat) (within : width ≤ wide) :
    bytes.field offset width = bytes.field offset wide % Nat.pow 256 width := by
  rw [field, field, ← value_take, List.take_take, Nat.min_eq_left within]

theorem field_inside (bytes : Bytes) (offset skipped width : Nat) :
    bytes.field (offset + skipped) width =
      bytes.field offset (skipped + width) / Nat.pow 256 skipped := by
  rw [field, field, ← value_drop, List.drop_take, List.drop_drop, Nat.add_sub_cancel_left]

end DexGraft.Bytes
