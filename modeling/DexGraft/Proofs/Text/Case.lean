import DexGraft.Text.Capital
import Mathlib.Tactic.Common
import Mathlib.Data.List.Infix
import Mathlib.Data.List.Basic

/-!
Texts that are compared with no regard to case. Besides the letters of ASCII four more are
taken for letters of ASCII: the i without a dot, the long s, and the two ligatures of s and t.
With plain letters in their place the comparison is one up to the case of ASCII alone.
-/
namespace DexGraft.Text

def plainLetters (c : Char) : List Char :=
  match c with
  | '\u0131' => ['i']
  | '\u017f' => ['s']
  | '\ufb05' => ['s', 't']
  | '\ufb06' => ['s', 't']
  | other => [other]

def oddLetters : List Char := ['\u0131', '\u017f', '\ufb05', '\ufb06']

def plain (text : List Char) : List Char :=
  text.flatMap plainLetters

/-- Equality up to the case of ASCII letters; the first text has no lower case letters. -/
def SameLetters (capitals text : List Char) : Prop :=
  text.map Char.toUpper = capitals

theorem toUpper_toNat (c : Char) :
    c.toUpper.toNat = if 97 ≤ c.toNat ∧ c.toNat ≤ 122 then c.toNat - 32 else c.toNat := by
  unfold Char.toUpper
  split
  · rename_i lower
    obtain ⟨low, high⟩ : 97 ≤ c.toNat ∧ c.toNat ≤ 122 := lower
    have added : (c.val + ('A'.val - 'a'.val)).toNat =
        (c.toNat + ('A'.val - 'a'.val).toNat) % 2 ^ 32 :=
      UInt32.toNat_add ..
    have shift : ('A'.val - 'a'.val).toNat = 2 ^ 32 - 32 := by decide
    rw [if_pos ⟨low, high⟩, Char.toNat, added, shift]
    omega
  · rename_i other
    exact (if_neg other).symm

theorem plainLetters_other {c : Char} (other : c ∉ oddLetters) : plainLetters c = [c] := by
  unfold plainLetters
  split <;> simp_all [oddLetters]

theorem plainLetters_cases (c : Char) : c ∈ oddLetters ∨ plainLetters c = [c] :=
  (Decidable.em (c ∈ oddLetters)).imp_right plainLetters_other

theorem plain_self {text : List Char} (other : ∀ c ∈ text, c ∉ oddLetters) : plain text = text := by
  induction text with
  | nil => rfl
  | cons c rest ih =>
      obtain ⟨here, later⟩ := List.forall_mem_cons.mp other
      have same : plain rest = rest := ih later
      rw [plain, List.flatMap_cons, plainLetters_other here, List.singleton_append]
      exact congrArg _ same

theorem plain_append (front back : List Char) : plain (front ++ back) = plain front ++ plain back :=
  List.flatMap_append ..

theorem plain_cons (c : Char) (rest : List Char) :
    plain (c :: rest) = plainLetters c ++ plain rest :=
  List.flatMap_cons ..

theorem dot_plainLetters {c : Char} (dot : '.' ∈ plainLetters c) : c = '.' := by
  rcases plainLetters_cases c with odd | single
  · -- Decided as a conjunction over the list: a statement for each `c` goes through all characters.
    have all : ∀ c ∈ oddLetters, '.' ∉ plainLetters c :=
      List.forall_iff_forall_mem.mp (by decide)
    exact absurd dot (all c odd)
  · rw [single, List.mem_singleton] at dot
    exact dot.symm

-- A dot among plain letters is a dot of the text, since no other letter gives one.
theorem plain_dot {text front back : List Char} (same : plain text = front ++ '.' :: back) :
    ∃ stem ending, text = stem ++ '.' :: ending ∧ plain stem = front ∧ plain ending = back := by
  induction text generalizing front with
  | nil => simp [plain] at same
  | cons c rest ih =>
      rw [plain_cons, List.append_eq_append_iff] at same
      rcases same with ⟨more, rfl, later⟩ | ⟨cut, letters, later⟩
      · obtain ⟨stem, ending, rfl, rfl, rfl⟩ := ih later
        exact ⟨c :: stem, ending, rfl, rfl, rfl⟩
      · cases cut with
        | nil =>
            have behind : plain rest = [] ++ '.' :: back := later.symm
            obtain ⟨stem, ending, rfl, none, rfl⟩ := ih behind
            refine ⟨c :: stem, ending, rfl, ?_, rfl⟩
            rw [plain_cons, none, letters, List.append_nil, List.append_nil]
        | cons first cut =>
            obtain ⟨rfl, onward⟩ := List.cons.inj later
            have dot : '.' ∈ plainLetters c := by simp [letters]
            obtain rfl := dot_plainLetters dot
            rw [plainLetters_other (by decide)] at letters
            have size := congrArg List.length letters
            simp only [List.length_append, List.length_cons, List.length_nil] at size
            obtain rfl := List.length_eq_zero_iff.mp (show front.length = 0 by omega)
            obtain rfl := List.length_eq_zero_iff.mp (show cut.length = 0 by omega)
            exact ⟨[], rest, rfl, rfl, onward.symm⟩

theorem plain_of_sameLetters {capitals text : List Char} (same : SameLetters capitals text)
    (ascii : ∀ c ∈ oddLetters, c ∉ capitals) : plain text = text := by
  refine plain_self fun c member odd => ascii c odd ?_
  have kept : ∀ c ∈ oddLetters, c.toUpper = c := List.forall_iff_forall_mem.mp (by decide)
  rw [← same, ← kept c odd]
  exact List.mem_map_of_mem member

theorem isLetter_iff {capital : Char} (low : 65 ≤ capital.toNat) (high : capital.toNat ≤ 90)
    (c : Char) : isLetter capital c = true ↔
      c.toUpper = capital ∨ capital = 'S' ∧ c = '\u017f' := by
  have upper : c.toUpper = capital ↔ c = capital ∨ c.toNat = capital.toNat + 32 := by
    rw [← Char.toNat_inj, ← Char.toNat_inj, toUpper_toNat]
    split <;> omega
  have long : c.toNat = 0x17f ↔ c = '\u017f' := by
    rw [← Char.toNat_inj]
    rfl
  simp [isLetter, upper, long, or_assoc]

-- By recursion on the text; each of its letters stands for one of the word.
theorem spells_iff (word text : List Char)
    (capitals : ∀ c ∈ word, 65 ≤ c.toNat ∧ c.toNat ≤ 90) (noI : 'I' ∉ word) (noT : 'T' ∉ word) :
    spells word text = true ↔ SameLetters word (plain text) := by
  induction text generalizing word with
  | nil => cases word <;> simp [spells, SameLetters, plain]
  | cons c rest ih =>
      cases word with
      | nil =>
          have filled : plain (c :: rest) ≠ [] := by
            rw [plain, List.flatMap_cons]
            unfold plainLetters
            split <;> simp
          simp [spells, SameLetters, filled]
      | cons w word =>
          obtain ⟨⟨low, high⟩, later⟩ := List.forall_mem_cons.mp capitals
          obtain ⟨notI, noI⟩ := List.ne_and_not_mem_of_not_mem_cons noI
          obtain ⟨notT, noT⟩ := List.ne_and_not_mem_of_not_mem_cons noT
          rw [spells, Bool.and_eq_true, isLetter_iff low high, ih word later noI noT]
          rcases plainLetters_cases c with odd | same
          · have apart : c ≠ w := by
              have beyond : ∀ c ∈ oddLetters, 90 < c.toNat :=
                List.forall_iff_forall_mem.mp (by decide)
              rintro rfl
              exact absurd high (Nat.not_le.mpr (beyond c odd))
            simp only [oddLetters, List.mem_cons, List.not_mem_nil, or_false] at odd
            rcases odd with rfl | rfl | rfl | rfl
            · simp [SameLetters, plain, plainLetters, apart, notI]
            · simp [SameLetters, plain, plainLetters, apart, eq_comm]
            · cases word <;> simp_all [SameLetters, plain, plainLetters]
            · cases word <;> simp_all [SameLetters, plain, plainLetters]
          · have other : c ≠ '\u017f' := by
              rintro rfl
              simp [plainLetters] at same
            simp [SameLetters, plain, same, other]

def ligatures : List Char := ['\u00df', '\ufb00', '\ufb01', '\ufb02', '\ufb03', '\ufb04']

theorem asciiCapital_plain {c : Char} (single : c ∉ ligatures) :
    asciiCapital c = (plainLetters c).map Char.toUpper := by
  by_cases odd : c ∈ oddLetters
  · have all : ∀ c ∈ oddLetters, asciiCapital c = (plainLetters c).map Char.toUpper :=
      List.forall_iff_forall_mem.mp (by decide)
    exact all c odd
  · rw [plainLetters_other odd, List.map_singleton, ← Char.ofNat_toNat c.toUpper, toUpper_toNat]
    by_cases lower : 97 ≤ c.toNat ∧ c.toNat ≤ 122
    · have within : ('a' ≤ c && c ≤ 'z') = true := by
        simp only [Bool.and_eq_true, decide_eq_true_eq]
        exact lower
      rw [asciiCapital, if_pos within, if_pos lower]
    · have beyond : ¬('a' ≤ c && c ≤ 'z') = true := by
        simp only [Bool.and_eq_true, decide_eq_true_eq]
        exact lower
      have lone : ∀ other ∈ ligatures ++ oddLetters, c.toNat ≠ other.toNat := by
        intro other member equal
        rw [← Char.toNat_inj.mp equal, List.mem_append] at member
        exact member.elim single odd
      simp only [ligatures, oddLetters, List.cons_append, List.nil_append, List.forall_mem_cons] at lone
      rw [asciiCapital, if_neg beyond, if_neg lower, Char.ofNat_toNat]
      split <;> simp_all

theorem asciiCapitals_iff (word text : List Char)
    (apart : ∀ c ∈ ligatures, ¬asciiCapital c <:+: word ∧ c ∉ word) :
    asciiCapitals text = word ↔ SameLetters word (plain text) := by
  by_cases single : ∀ c ∈ text, c ∉ ligatures
  · have same : asciiCapitals text = (plain text).map Char.toUpper := by
      rw [plain, List.map_flatMap]
      exact List.flatMap_congr fun c member => asciiCapital_plain (single c member)
    rw [same, SameLetters]
  · obtain ⟨c, member, several⟩ : ∃ c ∈ text, c ∈ ligatures := by simpa using single
    obtain ⟨among, stray⟩ := apart c several
    have kept : ∀ c ∈ ligatures, c.toUpper = c ∧ plainLetters c = [c] :=
      List.forall_iff_forall_mem.mp (by decide)
    obtain ⟨upper, alone⟩ := kept c several
    refine iff_of_false ?_ ?_
    · rintro rfl
      exact among (List.infix_flatMap_of_mem member asciiCapital)
    · rintro rfl
      refine stray ?_
      rw [← upper]
      exact List.mem_map_of_mem (List.mem_flatMap.mpr ⟨c, member, by simp [alone]⟩)

end DexGraft.Text
