import DexGraft.Proofs.Apk.Image
import DexGraft.Proofs.Text.Numeral

/-!
The names that stand for images. They are the base, ASCII digits and the extension, and the
digits are the priority in decimal; but a line feed may stand behind them all, and a number
of too many digits is refused.
-/
namespace DexGraft.Apk

open Text

/-- The name is the base, ASCII digits and the extension, and nothing else. -/
structure Numbered (base ending : String) (digits : List Char) (name : String) : Prop where
  ascii : ∀ c ∈ digits, '0' ≤ c ∧ c ≤ '9'
  spelled : name = base ++ String.ofList digits ++ ending

def NumberedLine (base ending : String) (digits : List Char) (name : String) : Prop :=
  Numbered base ending digits name ∨
    ∃ line, name = line ++ "\n" ∧ Numbered base ending digits line

def Ranks (digits : List Char) (priority : Nat) : Prop :=
  digits = [] ∧ priority = 1 ∨ priority = decimal digits ∧ 0 < priority

theorem ascii_iff (digits : List Char) :
    (∀ c ∈ digits, '0' ≤ c ∧ c ≤ '9') ↔ ∀ c ∈ digits, isAsciiDigit c = true := by
  simp [isAsciiDigit]

theorem numbered_iff (base ending : String) (digits : List Char) (name : String) :
    Numbered base ending digits name ↔
      (∀ c ∈ digits, isAsciiDigit c = true) ∧
        name.toList = base.toList ++ (digits ++ ending.toList) := by
  constructor
  · rintro ⟨ascii, rfl⟩
    exact ⟨(ascii_iff digits).mp ascii, by simp⟩
  · rintro ⟨ascii, spelled⟩
    refine ⟨(ascii_iff digits).mpr ascii, String.toList_inj.mp ?_⟩
    rw [spelled]
    simp

theorem numberedLine_iff (base ending : String) (digits : List Char) (name : String) :
    NumberedLine base ending digits name ↔
      (∀ c ∈ digits, isAsciiDigit c = true) ∧
        (name.toList = base.toList ++ (digits ++ ending.toList) ∨
          name.toList = base.toList ++ (digits ++ (ending.toList ++ ['\n']))) := by
  have line : (∃ line, name = line ++ "\n" ∧ Numbered base ending digits line) ↔
      (∀ c ∈ digits, isAsciiDigit c = true) ∧
        name.toList = base.toList ++ (digits ++ (ending.toList ++ ['\n'])) := by
    constructor
    · rintro ⟨line, rfl, numbered⟩
      obtain ⟨ascii, spelled⟩ := (numbered_iff ..).mp numbered
      exact ⟨ascii, by simp [spelled]⟩
    · rintro ⟨ascii, spelled⟩
      refine ⟨base ++ String.ofList digits ++ ending, String.toList_inj.mp ?_,
        (ascii_iff digits).mpr ascii, rfl⟩
      rw [spelled]
      simp
  rw [NumberedLine, numbered_iff, line, and_or_left]

-- Digits are no line feeds, so what is behind them decides which of the two endings it is.
theorem digitsBefore_line (ending digits : List Char)
    (ascii : ∀ c ∈ digits, isAsciiDigit c = true) :
    digitsBefore? ending (digits ++ (ending ++ ['\n'])) = none := by
  have few : ∀ found : List Char, (∀ c ∈ found, isAsciiDigit c = true) → found.count '\n' = 0 := by
    intro found all
    rw [List.count_eq_zero]
    exact fun member => absurd (all _ member) (by decide)
  rw [Option.eq_none_iff_forall_not_mem]
  intro found shorter
  obtain ⟨all, same⟩ := (digitsBefore_eq_some ..).mp shorter
  have counted := congrArg (List.count '\n') same
  simp only [List.count_append, few _ ascii, few _ all, List.count_singleton_self] at counted
  omega

theorem imageDigits_eq_some (base ending name : String) (digits : List Char) :
    imageDigits? base ending name = some digits ↔ NumberedLine base ending digits name := by
  rw [numberedLine_iff]
  constructor
  · exact imageDigits_shape base ending name digits
  · rintro ⟨ascii, spelled⟩
    simp only [imageDigits?, Option.bind_eq_bind, Option.bind_eq_some_iff, dropStart_eq_some]
    rcases spelled with plain | line
    · refine ⟨_, plain, ?_⟩
      rw [(digitsBefore_eq_some ..).mpr ⟨ascii, rfl⟩]
      rfl
    · refine ⟨_, line, ?_⟩
      rw [digitsBefore_line _ _ ascii, Option.none_or]
      exact (digitsBefore_eq_some ..).mpr ⟨ascii, rfl⟩

theorem NumberedLine.same {base ending name : String} {digits others : List Char}
    (first : NumberedLine base ending digits name)
    (second : NumberedLine base ending others name) : digits = others := by
  rw [← imageDigits_eq_some] at first second
  exact Option.some.inj (first.symm.trans second)

theorem priorityOfDigits_ascii (digits : List Char)
    (ascii : ∀ c ∈ digits, isAsciiDigit c = true) :
    priorityOfDigits digits =
      if digits = [] then .ok (some 1)
      else if digits.length ≤ digitLimit then
        .ok (if decimal digits = 0 then none else some (decimal digits))
      else .error (.cause (.numeral (String.ofList digits))) := by
  unfold priorityOfDigits
  by_cases empty : digits = []
  · simp [empty]
  · rw [readNatural_ascii digits ascii empty]
    by_cases short : digits.length ≤ digitLimit <;> simp [empty, short]

theorem imagePriority_of_numbered {name base ending : String} {digits : List Char}
    (numbered : NumberedLine base ending digits name) :
    imagePriority name base ending =
      if digits = [] then .ok (some 1)
      else if digits.length ≤ digitLimit then
        .ok (if decimal digits = 0 then none else some (decimal digits))
      else .error (.cause (.numeral (String.ofList digits))) := by
  rw [imagePriority, (imageDigits_eq_some ..).mpr numbered]
  exact priorityOfDigits_ascii digits ((numberedLine_iff ..).mp numbered).1

theorem imagePriority_of_other {name base ending : String}
    (other : ∀ digits, ¬NumberedLine base ending digits name) :
    imagePriority name base ending = .ok none := by
  have without : imageDigits? base ending name = none :=
    Option.eq_none_iff_forall_ne_some.mpr fun digits found =>
      other digits ((imageDigits_eq_some ..).mp found)
  rw [imagePriority, without]

theorem ranks_iff (digits : List Char) (priority : Nat) :
    Ranks digits priority ↔
      if digits = [] then priority = 1 else priority = decimal digits ∧ decimal digits ≠ 0 := by
  unfold Ranks
  split
  · rename_i empty
    simp only [empty, true_and, decimal_nil]
    omega
  · rename_i filled
    simp only [filled, false_and, false_or]
    exact and_congr_right fun same => by rw [same, Nat.pos_iff_ne_zero]

/-- A name has a priority just where it is the base, digits and the extension, with or without a
line feed at the end: one without digits, their number otherwise. Zero is no priority, and a number
of more digits than can be read is refused; every other name has none. -/
theorem imagePriority_accepts (name base ending : String) :
    (∀ priority, imagePriority name base ending = .ok (some priority) ↔
      ∃ digits, NumberedLine base ending digits name ∧ digits.length ≤ digitLimit ∧
        Ranks digits priority) ∧
      (imagePriority name base ending = .ok none ↔
        ∀ digits, NumberedLine base ending digits name →
          digits.length ≤ digitLimit ∧ digits ≠ [] ∧ ∀ c ∈ digits, c = '0') ∧
      ∀ fault, imagePriority name base ending = .error fault ↔
        ∃ digits, NumberedLine base ending digits name ∧ digitLimit < digits.length ∧
          fault = .cause (.numeral (String.ofList digits)) := by
  by_cases named : ∃ digits, NumberedLine base ending digits name
  · obtain ⟨digits, numbered⟩ := named
    have only : ∀ others, NumberedLine base ending others name ↔ others = digits :=
      fun others => ⟨fun other => other.same numbered, fun same => same ▸ numbered⟩
    have zero := decimal_eq_zero digits ((numberedLine_iff ..).mp numbered).1
    simp only [imagePriority_of_numbered numbered, only, exists_eq_left, forall_eq, ranks_iff,
      ← zero]
    -- None, few and too many digits; few digits may spell zero.
    by_cases empty : digits = []
    · simp [empty, eq_comm, digitLimit]
    · by_cases short : digits.length ≤ digitLimit
      · by_cases none : decimal digits = 0 <;>
          simp [empty, short, none, eq_comm, Nat.not_lt.mpr short]
      · simp [empty, short, Nat.lt_of_not_le short, eq_comm]
  · rw [not_exists] at named
    simp [imagePriority_of_other named, named]

/-- A name with a line feed behind the extension is an image's, and one whose number has too many
digits breaks off, though the first is not of the form and the second is. -/
theorem imagePriority_strays :
    let digits := List.replicate 4301 '1'
    let name := defaultBase ++ String.ofList digits ++ defaultExtension
    imagePriority "classes.dex\n" defaultBase defaultExtension = .ok (some 1) ∧
      (∀ digits, ¬Numbered defaultBase defaultExtension digits "classes.dex\n") ∧
      Numbered defaultBase defaultExtension digits name ∧ Ranks digits (decimal digits) ∧
      imagePriority name defaultBase defaultExtension =
        .error (.cause (.numeral (String.ofList digits))) := by
  intro digits name
  have ascii : ∀ c ∈ digits, isAsciiDigit c = true := by
    intro c member
    rw [(List.mem_replicate.mp member).2]
    rfl
  have numbered : Numbered defaultBase defaultExtension digits name :=
    ⟨(ascii_iff _).mpr ascii, rfl⟩
  have many : decimal digits ≠ 0 := by
    rw [Ne, decimal_eq_zero _ ascii]
    exact fun all => absurd (all '1' (List.mem_replicate.mpr ⟨by decide, rfl⟩)) (by decide)
  have refused := imagePriority_of_numbered (Or.inl numbered)
  rw [if_neg (by simp [digits]), if_neg (by rw [List.length_replicate]; decide)] at refused
  refine ⟨rfl, fun other shorter => ?_, numbered, Or.inr ⟨rfl, Nat.pos_of_ne_zero many⟩, refused⟩
  have last := congrArg List.getLast? ((numbered_iff ..).mp shorter).2
  simp [defaultExtension] at last

end DexGraft.Apk
