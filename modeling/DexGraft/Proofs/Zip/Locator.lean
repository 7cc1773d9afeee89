import DexGraft.Proofs.Zip.DataPlaces
import Mathlib.Data.List.Infix

/-!
When a written archive can be read. In front of the end record the reader looks
for the locator of a 64-bit record. There the last directory record ends, and its
attributes, its offset and its name are taken for a locator if they spell its mark.
-/
namespace DexGraft.Zip

open DexGraft.Bytes

def recordEnding (attributes offset : Nat) (name : String) : Bytes :=
  number 4 attributes ++ (number 4 offset ++ ofText name)

/-- The last bytes of the record have the mark of a locator where a locator has it. -/
def Mistaken (attributes offset : Nat) (name : String) : Prop :=
  let ending := recordEnding attributes offset name
  wideLocatorSize ≤ ending.length ∧
    wideLocatorMark <+: ending.drop (ending.length - wideLocatorSize)

instance (attributes offset : Nat) (name : String) : Decidable (Mistaken attributes offset name) :=
  inferInstanceAs (Decidable (_ ∧ _))

example : Mistaken 0x07064B50 0 "classes2.dex" := by decide

def Placed.Mistaken (placed : Placed) : Prop :=
  Zip.Mistaken placed.attributes placed.offset placed.name

theorem recordEnding_length (attributes offset : Nat) (name : String) :
    (recordEnding attributes offset name).length = 8 + (ofText name).length := by
  simp [recordEnding, number_length]
  omega

theorem centralRecord_ending (placed : Placed) (rest : Bytes) :
    (placed.centralRecord ++ rest).drop 38 =
      recordEnding placed.attributes placed.offset placed.name ++ rest := by
  have whole : placed.centralRecord ++ rest =
      (centralMark ++ (number 2 madeBy ++ (fields placed.sharedFields ++ (number 2 0 ++
        (number 2 0 ++ (number 2 0 ++ number 2 0)))))) ++
        (recordEnding placed.attributes placed.offset placed.name ++ rest) := by
    rw [centralRecord_append]
    simp [recordEnding, Placed.nameBytes]
  rw [whole, List.drop_left']
  simp [sharedFields_length, number_length, centralMark_length]

/-- The reader finds the mark of a locator exactly where the last record is mistaken for one. -/
theorem locator_iff (front : List Placed) (last : Placed) (fits : last.Fits) :
    wideLocatorMark <+:
        (archiveBytes (front ++ [last])).drop (endPlace (front ++ [last]) - wideLocatorSize) ↔
      last.Mistaken := by
  obtain ⟨before, after, parts, place⟩ := archiveBytes_last front last
  have sizes : centralHeaderSize = 46 ∧ wideLocatorSize = 20 := ⟨rfl, rfl⟩
  have size := recordEnding_length last.attributes last.offset last.name
  have name : last.nameBytes.length = (ofText last.name).length := rfl
  -- With a name of twelve bytes or more the place is within the end of the record.
  have there (long : 12 ≤ last.nameBytes.length) :
      wideLocatorMark <+:
          (archiveBytes (front ++ [last])).drop (endPlace (front ++ [last]) - wideLocatorSize) ↔
        wideLocatorMark <+: (recordEnding last.attributes last.offset last.name).drop
          ((recordEnding last.attributes last.offset last.name).length - wideLocatorSize) := by
    have spot : before.length + (centralHeaderSize + last.nameBytes.length) - wideLocatorSize =
        before.length + (38 + (last.nameBytes.length - 12)) := by omega
    have inside : (recordEnding last.attributes last.offset last.name).length - wideLocatorSize =
        last.nameBytes.length - 12 := by omega
    rw [parts, place, spot, ← List.drop_drop, List.drop_left' rfl, ← List.drop_drop,
      centralRecord_ending, List.drop_append_of_le_length (by omega), inside]
    apply List.isPrefix_append_of_length
    rw [List.length_drop, show wideLocatorMark.length = 4 from rfl]
    omega
  constructor
  · intro marked
    have long := locator_long front last fits marked
    exact ⟨by omega, (there long).mp marked⟩
  · rintro ⟨long, marked⟩
    exact (there (by omega)).mpr marked

section

variable {decoders : Decoders} (front : List Placed) (last : Placed)

theorem endPlace_far : ¬(writtenEnd (front ++ [last])).place < wideLocatorSize := by
  obtain ⟨before, after, _, place⟩ := archiveBytes_last front last
  have sizes : centralHeaderSize = 46 ∧ wideLocatorSize = 20 := ⟨rfl, rfl⟩
  change ¬endPlace (front ++ [last]) < wideLocatorSize
  omega

theorem read_mistaken (fits : last.Fits) (named : last.Named) (mistaken : last.Mistaken)
    (few : (front ++ [last]).length < Nat.pow 256 2)
    (size : (directoryBytes (front ++ [last])).length < Nat.pow 256 4)
    (offset : (localBytes (front ++ [last])).length < Nat.pow 256 4) :
    readWith decoders (archiveBytes (front ++ [last])) = .error (.malformed .severalDisks) := by
  have marked := (locator_iff front last fits).mpr mistaken
  have disks := locator_refused front last fits named.free marked
  rw [← field_drop] at disks
  have refused : widen (archiveBytes (front ++ [last])) (writtenEnd (front ++ [last])) =
      .error (.malformed .severalDisks) := by
    unfold widen
    rw [if_neg (endPlace_far front last)]
    dsimp only
    rw [if_neg (by simpa [writtenEnd] using marked)]
    exact if_pos (Or.inr disks)
  simp only [readWith, findEndRecord_written _ few size offset, refused]
  rfl

theorem read_clear (fits : ∀ entry ∈ front ++ [last], entry.Fits)
    (named : ∀ entry ∈ front ++ [last], entry.Named) (clear : ¬last.Mistaken)
    (few : (front ++ [last]).length < Nat.pow 256 2)
    (size : (directoryBytes (front ++ [last])).length < Nat.pow 256 4)
    (offset : (localBytes (front ++ [last])).length < Nat.pow 256 4) :
    readWith decoders (archiveBytes (front ++ [last])) =
      .ok { file := archiveBytes (front ++ [last])
            entries := (front ++ [last]).map Placed.entry
            directoryStart := (localBytes (front ++ [last])).length
            decoders } := by
  have unmarked : (!wideLocatorMark.isPrefixOf ((archiveBytes (front ++ [last])).drop
      (endPlace (front ++ [last]) - wideLocatorSize))) = true := by
    rw [Bool.not_eq_true', Bool.eq_false_iff, ne_eq, List.isPrefixOf_iff_prefix]
    exact mt (locator_iff front last (fits last (by simp))).mp clear
  have widened : widen (archiveBytes (front ++ [last])) (writtenEnd (front ++ [last])) =
      .ok (writtenEnd (front ++ [last])) := by
    unfold widen
    rw [if_neg (endPlace_far front last)]
    exact if_pos unmarked
  exact read_widened (front ++ [last]) fits named few size offset widened

end

end DexGraft.Zip
