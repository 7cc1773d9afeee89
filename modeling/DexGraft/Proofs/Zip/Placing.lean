import DexGraft.Proofs.Deflate.Stored
import DexGraft.Proofs.Zip.ReadBack

/-!
What becomes of an item that is placed. Its numbers fit, its name reads as it was
given, and its data are padded by the fewest bytes that bring them into line.
-/
namespace DexGraft.Zip

theorem writtenFlags_lt (name : String) (flags : Nat) :
    writtenFlags name flags < Nat.pow 256 2 := by
  have kept : flags &&& keptFlags < 2 ^ 16 :=
    Nat.lt_of_le_of_lt Nat.and_le_right (by decide)
  have both : flags &&& keptFlags ||| 1 <<< unicodeBit < 2 ^ 16 :=
    Nat.or_lt_two_pow kept (by decide)
  unfold writtenFlags
  simp only
  split <;> simpa using ‹_›

theorem writtenFlags_again (name : String) (flags : Nat) :
    writtenFlags name (writtenFlags name flags) = writtenFlags name flags := by
  have unicode : 1 <<< unicodeBit &&& keptFlags = 1 <<< unicodeBit := by decide
  have once : flags &&& keptFlags &&& keptFlags = flags &&& keptFlags := by
    rw [Nat.and_assoc, Nat.and_self]
  unfold writtenFlags
  dsimp only
  split
  · exact once
  · rw [Nat.and_or_distrib_right, once, unicode, Nat.or_assoc, Nat.or_self]

theorem writtenFlags_testBit (name : String) (flags : Nat) (narrow : flags < Nat.pow 256 2)
    (bit : Nat) :
    (writtenFlags name flags).testBit bit = true ↔
      (flags.testBit bit = true ∧ bit ≠ 0 ∧ bit ≠ 3) ∨
        (bit = unicodeBit ∧ ∃ c ∈ name.toList, 128 ≤ c.toNat) := by
  have kept : (flags &&& keptFlags).testBit bit = true ↔
      flags.testBit bit = true ∧ bit ≠ 0 ∧ bit ≠ 3 := by
    rw [Nat.testBit_and, Bool.and_eq_true]
    refine and_congr_right fun set => ?_
    -- A flag that is set is one of the sixteen.
    have low : bit < 16 := by
      by_contra high
      have few : flags < 2 ^ bit := calc
        flags < 2 ^ 16 := narrow
        _ ≤ 2 ^ bit := Nat.pow_le_pow_right Nat.zero_lt_two (Nat.le_of_not_lt high)
      rw [Nat.testBit_lt_two_pow few] at set
      cases set
    have all : ∀ place < 16, keptFlags.testBit place = true ↔ place ≠ 0 ∧ place ≠ 3 := by decide
    exact all bit low
  unfold writtenFlags
  by_cases ascii : name.toList.all (fun c => c.toNat < 128) = true
  · have none : ¬∃ c ∈ name.toList, 128 ≤ c.toNat := by simpa using ascii
    rw [if_pos ascii, kept]
    simp only [none, and_false, or_false]
  · have some : ∃ c ∈ name.toList, 128 ≤ c.toNat := by simpa using ascii
    rw [if_neg ascii, Nat.testBit_or, Bool.or_eq_true, kept, Nat.shiftLeft_eq, Nat.one_mul,
      Nat.testBit_two_pow]
    simp only [some, and_true, decide_eq_true_eq, @eq_comm _ unicodeBit]

/-- A placed entry is the item at an offset, with its data in line. -/
structure PlacedAs (deflate : Bytes → Bytes) (alignment : Int) (offset : Nat) (item : Item)
    (placed : Placed) : Prop where
  name : placed.name = item.name
  flags : placed.flags = writtenFlags item.name item.flags
  method : placed.method = if item.packed then .deflated else .stored
  stamp : placed.stamp = item.stamp
  time : 0 ≤ item.stamp.time
  date : 0 ≤ item.stamp.date
  attributes : placed.attributes = item.attributes % 0x100000000
  crc : placed.crc = Crc32.checksum item.content
  size : placed.size = item.content.length
  data : placed.data = if item.packed then deflate item.content else item.content
  padding : (placed.padding, placed.padded) =
    if item.packed then (0, false)
    else paddingFor alignment (offset + localHeaderSize + (Bytes.ofText item.name).length)
  offset : placed.offset = offset
  fits : placed.Fits

theorem place_ok (deflate : Bytes → Bytes) (alignment : Int) (offset : Nat) (item : Item)
    (placed : Placed) (done : place deflate alignment offset item = .ok placed) :
    PlacedAs deflate alignment offset item placed := by
  rcases padding : (if item.packed then (0, false) else paddingFor alignment
    (offset + localHeaderSize + (Bytes.ofText item.name).length)) with ⟨fill, padded⟩
  simp only [place, padding, Checked.guard_eq_ok, pure, Except.pure, Except.ok.injEq] at done
  obtain ⟨sizes, near, _, narrow, rfl⟩ := done
  simp only [fits, stampFits, Bool.or_eq_true, Bool.not_eq_true', decide_eq_false_iff_not,
    not_or, Decidable.not_not, Bool.not_eq_false, Bool.and_eq_true, decide_eq_true_eq]
    at sizes near narrow
  obtain ⟨size, packedSize⟩ := sizes
  obtain ⟨⟨name, filled⟩, ⟨⟨early, late⟩, old⟩, new⟩ := narrow
  refine ⟨rfl, rfl, rfl, rfl, early, old, rfl, rfl, rfl, rfl, padding.symm, rfl, ?_⟩
  exact {
    flags := writtenFlags_lt item.name item.flags
    method := by
      dsimp only
      split
      · exact Or.inr rfl
      · exact Or.inl rfl
    time := by
      have bound : Nat.pow 256 2 = 65536 := rfl
      dsimp only
      omega
    date := by
      have bound : Nat.pow 256 2 = 65536 := rfl
      dsimp only
      omega
    crc := Crc32.checksum_lt item.content
    packedSize
    size
    name
    padding := filled
    attributes := Nat.mod_lt _ (by decide)
    offset := near }

-- The remainder is never negative here, so the padding is what is missing to the next multiple.
theorem paddingFor_inLine (alignment : Int) (start : Nat) (positive : 1 ≤ alignment) :
    alignment ∣ ((start + (paddingFor alignment start).1 : Nat) : Int) ∧
      ((paddingFor alignment start).1 : Int) < alignment ∧
      ((paddingFor alignment start).2 = true ↔ (paddingFor alignment start).1 ≠ 0) ∧
      ∀ fewer : Nat, alignment ∣ ((start + fewer : Nat) : Int) →
        (paddingFor alignment start).1 ≤ fewer := by
  have same : Int.fmod start alignment = start % alignment :=
    Int.fmod_eq_emod_of_nonneg _ (by omega)
  have low : 0 ≤ (start : Int) % alignment := Int.emod_nonneg _ (by omega)
  have high : (start : Int) % alignment < alignment := Int.emod_lt_of_pos _ (by omega)
  unfold paddingFor
  rw [same]
  by_cases even : (start : Int) % alignment = 0
  · simp only [even, if_true]
    refine ⟨?_, by omega, by simp, fun _ _ => Nat.zero_le _⟩
    simpa using Int.dvd_of_emod_eq_zero even
  · simp only [even, if_false]
    have missing : (((alignment - start % alignment).toNat : Nat) : Int) =
        alignment - start % alignment := Int.toNat_of_nonneg (by omega)
    refine ⟨?_, by omega, by simp; omega, fun fewer aligned => ?_⟩
    · have parts := Int.emod_add_mul_ediv start alignment
      refine ⟨start / alignment + 1, ?_⟩
      rw [Int.natCast_add, missing, Int.mul_add, Int.mul_one]
      omega
    -- With fewer bytes the sum would lie strictly between two multiples.
    · by_contra less
      have rest := Int.emod_eq_zero_of_dvd aligned
      rw [Int.natCast_add, Int.add_emod, Int.emod_eq_of_lt (a := (fewer : Int)) (by omega)
        (by omega)] at rest
      have whole : (start : Int) % alignment + fewer = 0 := by
        rw [← Int.emod_eq_of_lt (a := (start : Int) % alignment + fewer) (b := alignment)
          (by omega) (by omega)]
        exact rest
      omega

section

variable {deflate : Bytes → Bytes} {alignment : Int} {offset : Nat} {item : Item} {placed : Placed}

theorem PlacedAs.nameBytes (done : PlacedAs deflate alignment offset item placed) :
    placed.nameBytes = Bytes.ofText item.name := by
  rw [Placed.nameBytes, done.name]

theorem PlacedAs.decoded (done : PlacedAs deflate alignment offset item placed) :
    decodeName (placed.flags.testBit unicodeBit) placed.nameBytes = .ok item.name := by
  rw [done.nameBytes, done.flags]
  exact decodeName_written item.name item.flags

theorem PlacedAs.named (done : PlacedAs deflate alignment offset item placed)
    (free : NulFree item.name) : placed.Named := by
  constructor
  · rw [done.name]
    exact free
  · rw [done.name]
    exact done.decoded

theorem PlacedAs.holds (done : PlacedAs deflate alignment offset item placed)
    (inverts : Deflate.Inverts deflate) : placed.localEntry.Holds item.name item.content := by
  refine ⟨done.decoded, ?_, done.crc, rfl, done.size⟩
  have method := done.method
  have data := done.data
  cases packed : item.packed with
  | true =>
      right
      simp only [packed, if_true] at method data
      refine ⟨congrArg Method.number method, ?_⟩
      change Deflate.inflate item.content.length placed.data = _
      rw [data, inverts]
  | false =>
      left
      simp only [packed, Bool.false_eq_true, if_false] at method data
      exact ⟨congrArg Method.number method, data⟩

theorem PlacedAs.padded (done : PlacedAs deflate alignment offset item placed)
    (positive : 1 ≤ alignment) :
    (placed.localEntry.header.method = Method.stored.number →
        placed.localEntry.InLine alignment ∧ placed.data = item.content) ∧
      (placed.localEntry.header.method = Method.deflated.number → placed.localEntry.extra = []) ∧
      (placed.padded = true ↔ placed.localEntry.extra ≠ []) ∧
      (placed.localEntry.header.method = Method.stored.number ↔ item.packed = false) := by
  have method : placed.localEntry.header.method = placed.method.number := rfl
  have extra : placed.localEntry.extra = List.replicate placed.padding 0 := rfl
  have padding := done.padding
  have kind := done.method
  have data := done.data
  cases packed : item.packed with
  | true =>
      simp only [packed, if_true, Prod.mk.injEq] at padding kind
      rw [method, extra, kind, padding.1, padding.2]
      simp [Method.number]
  | false =>
      simp only [packed, Bool.false_eq_true, if_false] at padding kind data
      obtain ⟨aligned, short, needed, least⟩ := paddingFor_inLine alignment
        (offset + localHeaderSize + (Bytes.ofText item.name).length) positive
      rw [← padding] at aligned short needed least
      have front : placed.localEntry.place + localHeaderSize + placed.localEntry.name.length =
          offset + localHeaderSize + (Bytes.ofText item.name).length := by
        rw [← done.nameBytes, ← done.offset]
        rfl
      refine ⟨fun _ => ⟨⟨?_, ?_, ?_, ?_⟩, data⟩, ?_, ?_, ?_⟩
      · rw [LocalEntry.dataPlace, front, extra, List.length_replicate]
        exact aligned
      · rw [extra]
        exact fun byte member => List.eq_of_mem_replicate member
      · rw [extra, List.length_replicate]
        exact short
      · rw [front, extra, List.length_replicate]
        exact least
      · rw [method, kind]
        intro same
        cases same
      · rw [extra, needed]
        simp
      · rw [method, kind]
        simp

end

end DexGraft.Zip
