import DexGraft.Proofs.Deflate.Room
import DexGraft.Proofs.Zip.DataPlaces
import DexGraft.Proofs.Zip.Placing

/-!
The contents of written entries. The tolerant reader may refuse an entry for its
flags, but the data it opens are those that were placed, and it unpacks them to
what they were made of, whatever the size of its window.
-/
namespace DexGraft.Zip

structure Readable (flags : Nat) : Prop where
  plain : flags.testBit patchedBit = false
  weak : flags.testBit strongEncryptionBit = false
  clear : flags.testBit encryptedBit = false

theorem fromPlace_placed (archive : Archive) (placed : Placed) (rest : Bytes) (fits : placed.Fits)
    (there : archive.file.drop placed.offset = placed.localRecord ++ rest) :
    archive.fromPlace placed.entry.offset = .ok (placed.localRecord ++ rest) := by
  have narrow : placed.offset < 4294967296 := fits.offset
  have limit : Int.ofNat positionLimit = 9223372036854775808 := rfl
  have spot : placed.entry.offset = (placed.offset : Int) := rfl
  rw [Archive.fromPlace, limit, spot, if_neg (by omega), if_neg (by omega), if_neg (by omega),
    Int.toNat_natCast, there]

theorem localRecord_long (placed : Placed) (rest : Bytes) :
    ¬(placed.localRecord ++ rest).length < localHeaderSize := by
  rw [List.length_append, localRecord_length]
  omega

theorem localRecord_marked (placed : Placed) (rest : Bytes) :
    (!localMark.isPrefixOf (placed.localRecord ++ rest)) = false := by
  rw [localRecord_mark]
  rfl

/-- An entry as the reader cannot handle it, for the two flags that bar it. -/
def Barred (flags : Nat) : Prop :=
  flags.testBit patchedBit = true ∨ flags.testBit strongEncryptionBit = true

instance (flags : Nat) : Decidable (Barred flags) :=
  inferInstanceAs (Decidable (_ ∨ _))

theorem openEntry_barred (archive : Archive) (index : Nat) (placed : Placed) (rest : Bytes)
    (fits : placed.Fits)
    (there : archive.file.drop placed.offset = placed.localRecord ++ rest)
    (barred : Barred placed.flags) :
    ∃ what, archive.openEntry index placed.entry = .error (.unsupported what) := by
  have front := fromPlace_placed archive placed rest fits there
  have long := localRecord_long placed rest
  have marked := localRecord_marked placed rest
  have patched : placed.entry.flag patchedBit = placed.flags.testBit patchedBit := rfl
  have strong : placed.entry.flag strongEncryptionBit = placed.flags.testBit strongEncryptionBit :=
    rfl
  simp only [Archive.openEntry, front, bind, Except.bind, long, if_false, marked, patched, strong,
    Bool.false_eq_true]
  cases first : placed.flags.testBit patchedBit with
  | true => exact ⟨_, rfl⟩
  | false =>
      rcases barred with set | set
      · rw [first] at set
        cases set
      · rw [set]
        exact ⟨_, rfl⟩

theorem readable_of_unbarred {flags : Nat} (open_ : ¬Barred flags)
    (clear : flags.testBit encryptedBit = false) : Readable flags :=
  ⟨Bool.eq_false_iff.mpr fun set => open_ (Or.inl set),
    Bool.eq_false_iff.mpr fun set => open_ (Or.inr set), clear⟩

theorem Readable.unbarred {flags : Nat} (readable : Readable flags) : ¬Barred flags := by
  rintro (set | set)
  · rw [readable.plain] at set
    cases set
  · rw [readable.weak] at set
    cases set

theorem openEntry_placed (archive : Archive) (index : Nat) (placed : Placed) (rest data : Bytes)
    (fits : placed.Fits) (named : placed.Named)
    (there : archive.file.drop placed.offset = placed.localRecord ++ rest) :
    archive.openEntry index placed.entry = .ok data ↔
      data = placed.data ++ rest ∧ Readable placed.flags ∧
        (placed.offset + placed.localRecord.length : Nat) ≤ archive.bound index placed.entry := by
  obtain ⟨flags, nameSize, extraSize, _⟩ := localRecord_fields placed rest fits
  have front := fromPlace_placed archive placed rest fits there
  have long := localRecord_long placed rest
  have name : decodeName (placed.flags.testBit unicodeBit)
      (((placed.localRecord ++ rest).drop localHeaderSize).take placed.nameBytes.length) =
        .ok placed.name := by
    rw [localRecord_drop, List.take_left' rfl]
    exact named.decoded
  have behind : (placed.localRecord ++ rest).drop
      (localHeaderSize + placed.nameBytes.length + placed.padding) = placed.data ++ rest := by
    rw [← List.drop_drop, ← List.drop_drop, localRecord_drop, List.drop_left' rfl,
      List.drop_left' (by simp)]
  -- The data end where the record does.
  have stop : ((archive.file.length - (placed.data ++ rest).length : Nat) : Int) +
      placed.entry.packedSize = (placed.offset + placed.localRecord.length : Nat) := by
    have whole := congrArg List.length there
    have size := localRecord_length placed
    have same : placed.entry.packedSize = placed.data.length := rfl
    rw [List.length_drop, List.length_append] at whole
    rw [List.length_append, same]
    simp only [localHeaderSize] at size
    omega
  have marked := localRecord_marked placed rest
  have recorded : placed.entry.recordedName = placed.name := rfl
  simp only [Archive.openEntry, front, Checked.bind_eq_ok, Checked.guard_eq_ok, long, marked, flags,
    nameSize, extraSize, name, recorded, behind, stop, Except.ok.injEq, exists_eq_left',
    not_false_eq_true, true_and, ne_eq, not_true_eq_false, Bool.false_eq_true]
  have known : archive.decodes placed.entry.method = true := by
    rcases fits.method with stored | deflated
    · rw [show placed.entry.method = .stored from stored]
      rfl
    · rw [show placed.entry.method = .deflated from deflated]
      rfl
  constructor
  · rintro ⟨plain, weak, room, clear, _, same⟩
    refine ⟨(Except.ok.inj same).symm, ⟨?_, ?_, ?_⟩, Int.not_lt.mp room⟩
    · exact Bool.eq_false_iff.mpr plain
    · exact Bool.eq_false_iff.mpr weak
    · exact Bool.eq_false_iff.mpr clear
  · rintro ⟨rfl, ⟨plain, weak, clear⟩, room⟩
    exact ⟨Bool.eq_false_iff.mp plain, Bool.eq_false_iff.mp weak, Int.not_lt.mpr room,
      Bool.eq_false_iff.mp clear, by simp [known], rfl⟩

theorem writtenFlags_clear (name : String) (flags : Nat) :
    (writtenFlags name flags).testBit encryptedBit = false := by
  have kept : keptFlags.testBit encryptedBit = false := by decide
  have unicode : (1 <<< unicodeBit).testBit encryptedBit = false := by decide
  unfold writtenFlags
  simp only
  split
  · rw [Nat.testBit_and, kept, Bool.and_false]
  · rw [Nat.testBit_or, Nat.testBit_and, kept, unicode, Bool.and_false, Bool.or_false]

theorem barred_written (name : String) (flags : Nat) (narrow : flags < Nat.pow 256 2) :
    Barred (writtenFlags name flags) ↔ Barred flags := by
  unfold Barred
  rw [writtenFlags_testBit name flags narrow, writtenFlags_testBit name flags narrow]
  simp [patchedBit, strongEncryptionBit, unicodeBit]

theorem windows_reach (size window : Nat) (positive : 0 < window) :
    size ≤ window * max 1 ((size + window - 1) / window) := by
  have parts := Nat.div_add_mod (size + window - 1) window
  have small := Nat.mod_lt (size + window - 1) positive
  have grown := Nat.mul_le_mul_left window (Nat.le_max_right 1 ((size + window - 1) / window))
  omega

theorem deflatedData_made (window : Nat) (entry : Entry) (data content : Bytes)
    (made : deflatedData window entry data = .ok content) :
    entry.packedSize = 0 ∧ content = [] ∨ entry.packedSize ≠ 0 ∧
      content = (Deflate.inflate (window * max 1 ((entry.size + window - 1) / window))
        (data.take entry.packedSize)).output.take entry.size := by
  unfold deflatedData at made
  by_cases nothing : entry.packedSize = 0
  · rw [if_pos nothing] at made
    exact Or.inl ⟨nothing, (Except.ok.inj made).symm⟩
  · refine Or.inr ⟨nothing, ?_⟩
    rw [if_neg nothing] at made
    split at made
    · cases made
    · dsimp only at made
      split at made
      · cases made
      · split at made
        · cases made
        · exact (Except.ok.inj made).symm
      · exact (Except.ok.inj made).symm

theorem deflatedData_windows (entry : Entry) (data : Bytes) (window other : Nat)
    (content made : Bytes) (positive : 0 < window) (positive' : 0 < other)
    (one : deflatedData window entry data = .ok content)
    (two : deflatedData other entry data = .ok made) : made = content := by
  rcases deflatedData_made window entry data content one with ⟨nothing, rfl⟩ | ⟨some, rfl⟩
  · rcases deflatedData_made other entry data made two with ⟨_, rfl⟩ | ⟨some, _⟩
    · rfl
    · exact absurd nothing some
  · rcases deflatedData_made other entry data made two with ⟨nothing, _⟩ | ⟨_, rfl⟩
    · exact absurd nothing some
    · have reach := windows_reach entry.size window positive
      have reach' := windows_reach entry.size other positive'
      rcases Nat.le_total (window * max 1 ((entry.size + window - 1) / window))
        (other * max 1 ((entry.size + other - 1) / other)) with more | less
      · exact Deflate.inflate_take entry.size _ _ _ reach more
      · exact (Deflate.inflate_take entry.size _ _ _ reach' less).symm

/-- What undoes a compression comes to one content, whatever the size of the windows. -/
def Steady (decoders : Decoders) : Prop :=
  ∀ number decode, decoders number = some decode →
    ∀ entry data window other content made, 0 < window → 0 < other →
      decode window entry data = .ok content → decode other entry data = .ok made → made = content

theorem noDecoders_steady : Steady noDecoders := by
  intro number decode known
  cases known

theorem unpack_windows (archive : Archive) (entry : Entry) (data : Bytes) (window other : Nat)
    (content made : Bytes) (positive : 0 < window) (positive' : 0 < other)
    (steady : Steady archive.decoders)
    (one : archive.unpack window entry data = .ok content)
    (two : archive.unpack other entry data = .ok made) : made = content := by
  unfold Archive.unpack at one two
  cases method : entry.method with
  | stored =>
      rw [method] at one two
      exact Except.ok.inj (two.symm.trans one)
  | deflated =>
      rw [method] at one two
      exact deflatedData_windows entry data window other content made positive positive' one two
  | other number =>
      simp only [method] at one two
      cases known : archive.decoders number with
      | none =>
          rw [known] at one
          cases one
      | some decode =>
          rw [known] at one two
          exact steady number decode known entry data window other content made positive positive'
            one two

theorem contentOf_eq_ok (archive : Archive) (window : Nat) (entry : Entry) (data content : Bytes) :
    archive.contentOf window entry data = .ok content ↔
      archive.unpack window entry data = .ok content ∧ Crc32.checksum content = entry.crc := by
  simp only [Archive.contentOf, Checked.bind_eq_ok, Checked.guard_eq_ok, ne_eq, Decidable.not_not]
  constructor
  · rintro ⟨_, unpacked, sound, same⟩
    cases same
    exact ⟨unpacked, sound⟩
  · rintro ⟨unpacked, sound⟩
    exact ⟨content, unpacked, sound, rfl⟩

theorem contentAt_windows (archive : Archive) (index : Nat) (entry : Entry) (window other : Nat)
    (content made : Bytes) (positive : 0 < window) (positive' : 0 < other)
    (steady : Steady archive.decoders)
    (one : archive.contentAt window index entry = .ok content)
    (two : archive.contentAt other index entry = .ok made) : made = content := by
  simp only [Archive.contentAt, Checked.bind_eq_ok, contentOf_eq_ok] at one two
  obtain ⟨data, opened, unpacked, _⟩ := one
  obtain ⟨_, opened', unpacked', _⟩ := two
  cases opened.symm.trans opened'
  exact unpack_windows archive entry data window other _ _ positive positive' steady unpacked
    unpacked'

theorem openEntry_suffix (archive : Archive) (index : Nat) (entry : Entry) (data : Bytes)
    (opened : archive.openEntry index entry = .ok data) : data <:+ archive.file := by
  simp only [Archive.openEntry, Archive.fromPlace, Checked.bind_eq_ok, Checked.guard_eq_ok]
    at opened
  obtain ⟨header, front, _, _, _, _, _, _, _, _, _, _, same⟩ := opened
  cases same
  split at front
  · cases front
  · split at front
    · cases front
    · split at front
      · cases front
      · cases front
        rw [List.drop_drop]
        exact List.drop_suffix _ _

theorem dataAfter_same (reader : Reader) (archive : Archive) (entry : Entry) (data : Bytes)
    (tail : data <:+ archive.file) :
    reader.dataAfter archive entry data archive.file = data := by
  obtain ⟨front, whole⟩ := tail
  have place : archive.file.length - data.length = front.length := by
    rw [← whole, List.length_append, Nat.add_sub_cancel]
  simp only [Reader.dataAfter, place, ← List.drop_drop]
  rw [← whole, List.drop_left' rfl, List.take_append_drop]

theorem contentAt_emptied (archive : Archive) (window index : Nat) (entry : Entry)
    (content : Bytes) :
    { archive with file := [] }.contentAt window index entry ≠ .ok content := by
  intro read
  simp only [Archive.contentAt, Archive.openEntry, Archive.fromPlace, Checked.bind_eq_ok,
    Checked.guard_eq_ok, List.drop_nil] at read
  obtain ⟨_, ⟨header, front, long, _⟩, _⟩ := read
  split at front
  · cases front
  · split at front
    · cases front
    · split at front
      · cases front
      · cases front
        exact long (by decide)

theorem openEntry_readable (archive : Archive) (index : Nat) (entry : Entry) (data : Bytes)
    (opened : archive.openEntry index entry = .ok data) : Readable entry.flags := by
  simp only [Archive.openEntry, Checked.bind_eq_ok, Checked.guard_eq_ok] at opened
  obtain ⟨_, _, _, _, plain, weak, _, _, _, _, clear, _⟩ := opened
  exact ⟨Bool.eq_false_iff.mpr plain, Bool.eq_false_iff.mpr weak, Bool.eq_false_iff.mpr clear⟩

section

variable {deflate : Bytes → Bytes} {alignment : Int} {offset : Nat} {item : Item} {placed : Placed}

theorem PlacedAs.storedData (done : PlacedAs deflate alignment offset item placed)
    (plain : item.packed = false) (rest : Bytes) :
    storedData placed.entry (placed.data ++ rest) = .ok item.content := by
  have data : placed.data = item.content := by rw [done.data, plain]; rfl
  have packedSize : placed.entry.packedSize = item.content.length := by rw [← data]; rfl
  have size : placed.entry.size = item.content.length := done.size
  rw [Zip.storedData, packedSize, size, data, Nat.min_self]
  cases content : item.content with
  | nil => rfl
  | cons byte others => simp

theorem PlacedAs.deflatedData (done : PlacedAs deflate alignment offset item placed)
    (inverts : Deflate.Inverts deflate) (packed : item.packed = true) (window : Nat)
    (positive : 0 < window) (rest : Bytes) :
    deflatedData window placed.entry (placed.data ++ rest) = .ok item.content := by
  have data : placed.data = deflate item.content := by rw [done.data, packed]; rfl
  have packedSize : placed.entry.packedSize = placed.data.length := rfl
  have size : placed.entry.size = item.content.length := done.size
  have whole := inverts item.content
  -- Nothing at all is not a complete stream.
  have filled : placed.data ≠ [] := by
    intro none
    rw [← data, none] at whole
    have starved : (Deflate.inflate item.content.length []).ending = .starved := rfl
    rw [whole] at starved
    cases starved
  have reach := windows_reach item.content.length window positive
  have inflated := Deflate.inflate_room _ _ (deflate item.content) reach (by simp [whole])
  have there : ¬(placed.data ++ rest).isEmpty = true := by simp [filled]
  rw [Zip.deflatedData, packedSize, size, if_neg (by simpa using filled), if_neg there,
    List.take_left' rfl, data]
  simp only [inflated, whole, List.take_length]

theorem PlacedAs.contentOf (done : PlacedAs deflate alignment offset item placed)
    (inverts : item.packed = true → Deflate.Inverts deflate) (archive : Archive) (window : Nat)
    (positive : 0 < window) (rest : Bytes) :
    archive.contentOf window placed.entry (placed.data ++ rest) = .ok item.content := by
  have crc : placed.entry.crc = Crc32.checksum item.content := done.crc
  have method : placed.entry.method = if item.packed then .deflated else .stored := done.method
  refine (contentOf_eq_ok ..).mpr ⟨?_, crc.symm⟩
  unfold Archive.unpack
  rw [method]
  cases packed : item.packed with
  | true => exact done.deflatedData (inverts packed) packed window positive rest
  | false => exact done.storedData packed rest

theorem PlacedAs.contentAt (done : PlacedAs deflate alignment offset item placed)
    (inverts : item.packed = true → Deflate.Inverts deflate) (archive : Archive)
    (window index : Nat) (positive : 0 < window) (rest : Bytes)
    (opened : archive.openEntry index placed.entry = .ok (placed.data ++ rest)) :
    archive.contentAt window index placed.entry = .ok item.content :=
  Checked.bind_eq_ok.mpr ⟨_, opened, done.contentOf inverts archive window positive rest⟩

end

end DexGraft.Zip
