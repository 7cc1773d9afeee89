import DexGraft.Proofs.Text.Encoding
import DexGraft.Zip.Writer
import Mathlib.Data.List.TakeWhile
import Mathlib.Tactic.Common

/-!
Names of entries. Names that were read have no NUL in them, so their bytes are
never nought, and a written name is read as it was given: as UTF-8 if its flag
says so, and else as ASCII, where the code page agrees with UTF-8.
-/
namespace DexGraft.Zip

def NulFree (name : String) : Prop :=
  ∀ c ∈ name.toList, c.toNat ≠ 0

instance (name : String) : Decidable (NulFree name) :=
  List.decidableBAll (fun c : Char => c.toNat ≠ 0) name.toList

theorem cutAtNul_nulFree (name : String) : NulFree (cutAtNul name) := by
  intro c member
  simp only [cutAtNul, String.toList_ofList] at member
  simpa using List.mem_takeWhile_imp member

theorem cutAtNul_self (name : String) (free : NulFree name) : cutAtNul name = name := by
  have whole : name.toList.takeWhile (fun c => c.toNat != 0) = name.toList :=
    List.takeWhile_eq_self_iff.mpr fun c member => by simpa using free c member
  rw [cutAtNul, whole, String.ofList_toList]

-- Every byte of a longer encoding has its highest bit set.
theorem utf8EncodeChar_no_zero (c : Char) (filled : c.toNat ≠ 0) :
    ∀ byte ∈ String.utf8EncodeChar c, byte ≠ 0 := by
  intro byte member zero
  subst zero
  have value : c.val.toNat ≠ 0 := filled
  unfold String.utf8EncodeChar at member
  simp only at member
  split at member
  · rename_i short
    simp only [List.mem_singleton, ← UInt8.toNat_inj, UInt8.toNat_ofNat'] at member
    simp at member short
    omega
  all_goals
    repeat' split at member
    all_goals
      simp only [List.mem_cons, List.not_mem_nil, or_false, ← UInt8.toNat_inj,
        UInt8.toNat_ofNat'] at member
      simp at member
      omega

theorem ofText_no_zero (name : String) (free : NulFree name) :
    ∀ byte ∈ Bytes.ofText name, byte ≠ 0 := by
  intro byte member
  rw [Bytes.ofText_eq, List.mem_flatMap] at member
  obtain ⟨c, inName, inChar⟩ := member
  exact utf8EncodeChar_no_zero c (free c inName) byte inChar

theorem ofCodePage_ascii (name : String) (plain : ∀ c ∈ name.toList, c.toNat < 128) :
    Text.ofCodePage (Bytes.ofText name) = name := by
  have same : ∀ text : List Char, (∀ c ∈ text, c.toNat < 128) →
      (text.flatMap String.utf8EncodeChar).map Text.codePageChar = text := by
    intro text
    induction text with
    | nil => intro _; rfl
    | cons c rest ih =>
        intro all
        have small : c.toNat < 128 := all c List.mem_cons_self
        have value : c.val.toNat < 128 := small
        have one : String.utf8EncodeChar c = [c.val.toUInt8] := by
          apply String.utf8EncodeChar_eq_singleton
          rw [Char.utf8Size_eq_one_iff, UInt32.le_iff_toNat_le]
          simpa using Nat.le_of_lt_succ value
        have back : Text.codePageChar c.val.toUInt8 = c := by
          have number : c.val.toUInt8.toNat = c.toNat := by
            rw [UInt32.toNat_toUInt8]
            exact Nat.mod_eq_of_lt (by omega)
          rw [Text.codePageChar, number, if_pos small, Char.ofNat_toNat]
        rw [List.flatMap_cons, one, List.singleton_append, List.map_cons, back,
          ih fun d member => all d (List.mem_cons_of_mem _ member)]
  rw [Text.ofCodePage, Bytes.ofText_eq, same _ plain, String.ofList_toList]

theorem decodeName_written (name : String) (flags : Nat) :
    decodeName ((writtenFlags name flags).testBit unicodeBit) (Bytes.ofText name) = .ok name := by
  cases unicode : (writtenFlags name flags).testBit unicodeBit with
  | true => simp [decodeName, Bytes.toText_ofText]
  | false =>
      have plain : ∀ c ∈ name.toList, c.toNat < 128 := by
        by_contra wide
        have set : (writtenFlags name flags).testBit unicodeBit = true := by
          have marked : ¬(name.toList.all fun c => c.toNat < 128) = true := by
            simpa using wide
          rw [writtenFlags, if_neg marked, Nat.testBit_or, Nat.shiftLeft_eq, Nat.one_mul,
            Nat.testBit_two_pow_self, Bool.or_true]
        rw [unicode] at set
        cases set
      simp [decodeName, ofCodePage_ascii name plain]

end DexGraft.Zip
