import DexGraft.Text.Number
import Mathlib.Data.Nat.Digits.Defs

/-!
Numerals of ASCII digits. They are read as the decimal number that they spell, leading
zeros or not, as long as there are not too many of them.
-/
namespace DexGraft.Text

def decimal (digits : List Char) : Nat :=
  Nat.ofDigits 10 (digits.reverse.map fun c => c.toNat - '0'.toNat)

theorem isAsciiDigit_iff (c : Char) : isAsciiDigit c = true ↔ 48 ≤ c.toNat ∧ c.toNat ≤ 57 := by
  simp only [isAsciiDigit, Bool.and_eq_true, decide_eq_true_eq]
  rfl

theorem decimalValue_ascii (c : Char) (digit : isAsciiDigit c = true) :
    decimalValue? c = some (c.toNat - '0'.toNat) := by
  obtain ⟨low, high⟩ := (isAsciiDigit_iff c).mp digit
  have first : decimalZeros = 0x30 :: decimalZeros.tail := rfl
  have within : (decide (0x30 ≤ c.toNat) && decide (c.toNat < 0x30 + 10)) = true := by
    simp only [Bool.and_eq_true, decide_eq_true_eq]
    omega
  rw [decimalValue?, first, List.find?_cons, within]
  rfl

theorem decimal_nil : decimal [] = 0 := rfl

theorem decimal_cons (c : Char) (rest : List Char) :
    decimal (c :: rest) = (c.toNat - '0'.toNat) * 10 ^ rest.length + decimal rest := by
  simp only [decimal, List.reverse_cons, List.map_append, List.map_cons, List.map_nil,
    Nat.ofDigits_append, Nat.ofDigits_singleton, List.length_map, List.length_reverse]
  rw [Nat.mul_comm, Nat.add_comm]

theorem decimal_eq_zero (digits : List Char) (ascii : ∀ c ∈ digits, isAsciiDigit c = true) :
    decimal digits = 0 ↔ ∀ c ∈ digits, c = '0' := by
  induction digits with
  | nil => simp [decimal_nil]
  | cons c rest ih =>
      obtain ⟨digit, others⟩ := List.forall_mem_cons.mp ascii
      obtain ⟨low, _⟩ := (isAsciiDigit_iff c).mp digit
      have zero : c.toNat - '0'.toNat = 0 ↔ c = '0' := by
        constructor
        · intro none
          apply Char.toNat_inj.mp
          change c.toNat - 48 = 0 at none
          change c.toNat = 48
          omega
        · rintro rfl
          rfl
      rw [decimal_cons, Nat.add_eq_zero_iff, ih others, List.forall_mem_cons, Nat.mul_eq_zero, zero,
        or_iff_left (by positivity)]

-- The digits read so far stand before the others.
theorem digitsFrom_ascii (value count : Nat) (digits : List Char)
    (ascii : ∀ c ∈ digits, isAsciiDigit c = true) :
    digitsFrom value count digits =
      some (value * 10 ^ digits.length + decimal digits, count + digits.length) := by
  induction digits generalizing value count with
  | nil => simp [digitsFrom, decimal_nil]
  | cons c rest ih =>
      obtain ⟨digit, others⟩ := List.forall_mem_cons.mp ascii
      have plain : c ≠ '_' := by
        rintro rfl
        exact absurd digit (by decide)
      rw [digitsFrom, decimalValue_ascii c digit, Option.bind_some, ih _ _ others, decimal_cons,
        List.length_cons]
      · congr 2
        · ring
        · omega
      · simp [plain]

theorem readNatural_ascii (digits : List Char) (ascii : ∀ c ∈ digits, isAsciiDigit c = true)
    (filled : digits ≠ []) :
    readNatural digits = if digits.length ≤ digitLimit then some (decimal digits) else none := by
  obtain ⟨c, rest, rfl⟩ := List.exists_cons_of_ne_nil filled
  obtain ⟨digit, others⟩ := List.forall_mem_cons.mp ascii
  simp only [readNatural, decimalValue_ascii c digit, digitsFrom_ascii _ _ rest others,
    Option.bind_eq_bind, Option.bind_some, decimal_cons, List.length_cons, Nat.add_comm]

end DexGraft.Text
