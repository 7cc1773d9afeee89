import DexGraft.Proofs.Checked
import DexGraft.Proofs.Zip.Names
import DexGraft.Proofs.Zip.Written

/-!
What the tolerant reader makes of a written archive. It finds the end record at
the very end, takes nothing before it for a record of the 64-bit form, and reads
exactly the entries that were placed.
-/
namespace DexGraft.Zip

open Bytes

/-- A directory record, whatever may follow it, and the entry that it is read as. -/
structure Recorded (record : Bytes) (entry : Entry) : Prop where
  mark : centralMark <+: record
  whole : centralHeaderSize ≤ record.length
  name : ∃ recordedName,
    decodeName ((record.field 8 2).testBit unicodeBit)
      ((record.drop centralHeaderSize).take (record.field 28 2)) = .ok recordedName ∧
    entry.name = cutAtNul recordedName
  flags : entry.flags = record.field 8 2
  method : entry.method = Method.ofNumber (record.field 10 2)
  time : entry.stamp.time = record.field 12 2
  date : entry.stamp.date = record.field 14 2
  attributes : entry.attributes = record.field 38 4

theorem readEntry_recorded (shift : Int) (directory rest : Bytes) (entry : Entry)
    (done : readEntry shift directory = .ok (entry, rest)) :
    Recorded directory entry ∧ rest <:+ directory := by
  simp only [readEntry, Checked.guard_eq_ok, Checked.bind_eq_ok] at done
  obtain ⟨whole, marked, recordedName, decoded, _, _, _, same⟩ := done
  cases same
  constructor
  · refine ⟨?_, by omega, ⟨recordedName, decoded, rfl⟩, rfl, rfl, rfl, rfl, rfl⟩
    simpa [List.isPrefixOf_iff_prefix] using marked
  · exact (List.drop_suffix _ _).trans ((List.drop_suffix _ _).trans
      ((List.drop_suffix _ _).trans (List.drop_suffix _ _)))

theorem readEntries_recorded (shift : Int) (fuel : Nat) (directory : Bytes) (entries : List Entry)
    (done : readEntries shift fuel directory = .ok entries) :
    ∀ entry ∈ entries, ∃ record, record <:+ directory ∧ Recorded record entry := by
  induction fuel generalizing directory entries with
  | zero =>
      cases done
      simp
  | succ fuel ih =>
      unfold readEntries at done
      split at done
      · cases done
        simp
      · obtain ⟨⟨first, rest⟩, read, others⟩ := Checked.bind_eq_ok.mp done
        obtain ⟨tail, more, same⟩ := Checked.bind_eq_ok.mp others
        cases same
        obtain ⟨recorded, left⟩ := readEntry_recorded shift directory rest first read
        intro entry member
        rcases List.mem_cons.mp member with rfl | later
        · exact ⟨directory, List.suffix_refl directory, recorded⟩
        · obtain ⟨record, inside, here⟩ := ih rest tail more entry later
          exact ⟨record, inside.trans left, here⟩

theorem read_given (decoders : Decoders) (file : Bytes) (archive : Archive)
    (done : readWith decoders file = .ok archive) :
    archive.file = file ∧ archive.decoders = decoders := by
  unfold readWith at done
  cases found : findEndRecord? file with
  | none =>
      rw [found] at done
      exact absurd done Checked.throw_ne_ok
  | some narrow =>
      simp only [found, Checked.guard_eq_ok, Checked.bind_eq_ok] at done
      obtain ⟨_, _, _, _, _, same⟩ := done
      cases same
      exact ⟨rfl, rfl⟩

theorem read_recorded {decoders : Decoders} (file : Bytes) (archive : Archive)
    (done : readWith decoders file = .ok archive) :
    ∀ entry ∈ archive.entries, ∃ record, record <:+: file ∧ Recorded record entry := by
  unfold readWith at done
  cases found : findEndRecord? file with
  | none =>
      rw [found] at done
      exact absurd done Checked.throw_ne_ok
  | some narrow =>
      simp only [found, Checked.guard_eq_ok, Checked.bind_eq_ok] at done
      obtain ⟨_, _, _, entries, listed, same⟩ := done
      cases same
      intro entry member
      obtain ⟨record, inside, here⟩ := readEntries_recorded _ _ _ entries listed entry member
      exact ⟨record, inside.isInfix.trans
        ((List.take_prefix _ _).isInfix.trans (List.drop_suffix _ _).isInfix), here⟩

/-- What holds of an entry for the way it was read: its name was cut at the first NUL, and its
numbers came out of fields of so many bytes. -/
structure Entry.Plain (entry : Entry) : Prop where
  free : NulFree entry.name
  flags : entry.flags < Nat.pow 256 2
  time : 0 ≤ entry.stamp.time
  date : 0 ≤ entry.stamp.date
  attributes : entry.attributes < Nat.pow 256 4

theorem Recorded.plain {record : Bytes} {entry : Entry} (recorded : Recorded record entry) :
    entry.Plain := by
  obtain ⟨recordedName, _, cut⟩ := recorded.name
  constructor
  · rw [cut]
    exact cutAtNul_nulFree recordedName
  · rw [recorded.flags]
    exact field_lt record 8 2
  · rw [recorded.time]
    exact Int.natCast_nonneg _
  · rw [recorded.date]
    exact Int.natCast_nonneg _
  · rw [recorded.attributes]
    exact field_lt record 38 4

theorem read_plain {decoders : Decoders} (file : Bytes) (archive : Archive)
    (done : readWith decoders file = .ok archive) :
    ∀ entry ∈ archive.entries, entry.Plain := by
  intro entry member
  obtain ⟨_, _, recorded⟩ := read_recorded file archive done entry member
  exact recorded.plain

theorem read_names {decoders : Decoders} (file : Bytes) (archive : Archive)
    (done : readWith decoders file = .ok archive) :
    ∀ entry ∈ archive.entries, NulFree entry.name :=
  fun entry member => (read_plain file archive done entry member).free

structure Placed.Named (placed : Placed) : Prop where
  free : NulFree placed.name
  decoded : decodeName (placed.flags.testBit unicodeBit) placed.nameBytes = .ok placed.name

def Placed.entry (placed : Placed) : Entry :=
  { name := placed.name
    recordedName := placed.name
    flags := placed.flags
    method := placed.method
    stamp := ⟨placed.stamp.time.toNat, placed.stamp.date.toNat⟩
    crc := placed.crc
    packedSize := placed.data.length
    size := placed.size
    attributes := placed.attributes
    offset := placed.offset }

theorem readEntry_record (placed : Placed) (rest : Bytes) (fits : placed.Fits)
    (named : placed.Named) :
    readEntry 0 (placed.centralRecord ++ rest) = .ok (placed.entry, rest) := by
  obtain ⟨header, _, nameSize, zeros, attributes, offset⟩ := centralRecord_fields placed rest fits
  simp only [Header.ofBytes, Placed.header, field_drop, Header.mk.injEq] at header
  obtain ⟨version, flags, method, time, date, crc, packedSize, size⟩ := header
  have oneByte : (placed.centralRecord ++ rest).field 6 1 = formatVersion := by
    rw [field_narrow _ 6 1 2 (by decide), version]
    rfl
  have noExtra : (placed.centralRecord ++ rest).field 30 2 = 0 := by
    rw [field_narrow _ 30 2 8 (by decide), zeros, Nat.zero_mod]
  have noComment : (placed.centralRecord ++ rest).field 32 2 = 0 := by
    rw [field_inside _ 30 2 2, field_narrow _ 30 4 8 (by decide), zeros, Nat.zero_mod,
      Nat.zero_div]
  have long : ¬(placed.centralRecord ++ rest).length < centralHeaderSize := by
    rw [List.length_append, centralRecord_length]
    omega
  have known : Method.ofNumber placed.method.number = placed.method := by
    rcases fits.method with same | same <;> rw [same] <;> rfl
  simp only [readEntry, long, centralRecord_mark, flags, method, time, date, crc, packedSize, size,
    nameSize, oneByte, noExtra, noComment, attributes, offset, centralRecord_drop, known]
  simp [named.decoded, cutAtNul_self _ named.free, readExtra, newestVersion, formatVersion,
    Placed.entry, bind, Except.bind, pure, Except.pure]

theorem readEntries_records (placed : List Placed) (fuel : Nat) (enough : placed.length ≤ fuel)
    (fits : ∀ entry ∈ placed, entry.Fits) (named : ∀ entry ∈ placed, entry.Named) :
    readEntries 0 fuel (directoryBytes placed) = .ok (placed.map Placed.entry) := by
  induction placed generalizing fuel with
  | nil => cases fuel <;> rfl
  | cons first others ih =>
      cases fuel with
      | zero => simp at enough
      | succ fuel =>
          have there : (directoryBytes (first :: others)).isEmpty = false := by
            have long := centralRecord_length first
            rw [directoryBytes, List.flatMap_cons, List.isEmpty_eq_false_iff, ne_eq,
              List.append_eq_nil_iff, ← List.length_eq_zero_iff]
            simp only [centralHeaderSize] at long
            omega
          have read := readEntry_record first (directoryBytes others)
            (fits first List.mem_cons_self) (named first List.mem_cons_self)
          have more := ih fuel (by simpa using enough)
            (fun entry member => fits entry (List.mem_cons_of_mem _ member))
            (fun entry member => named entry (List.mem_cons_of_mem _ member))
          rw [readEntries, there]
          simp only [directoryBytes, List.flatMap_cons] at read more ⊢
          simp [read, more, bind, Except.bind, pure, Except.pure]

def endPlace (placed : List Placed) : Nat :=
  (localBytes placed).length + (directoryBytes placed).length

def writtenEnd (placed : List Placed) : EndRecord :=
  { place := endPlace placed
    directorySize := (directoryBytes placed).length
    directoryOffset := (localBytes placed).length
    wide := false }

theorem findEndRecord_written (placed : List Placed) (few : placed.length < Nat.pow 256 2)
    (size : (directoryBytes placed).length < Nat.pow 256 4)
    (offset : (localBytes placed).length < Nat.pow 256 4) :
    findEndRecord? (archiveBytes placed) = some (writtenEnd placed) := by
  obtain ⟨whole, mark, _, _, _, extent, start, comment⟩ :=
    closed_archiveBytes placed few size offset
  have final : (archiveBytes placed).length - endRecordSize = endPlace placed := by
    rw [← whole, Nat.add_sub_cancel]
    rfl
  have long : ¬(archiveBytes placed).length < endRecordSize := by omega
  have marked : (endMark.isPrefixOf ((archiveBytes placed).drop (endPlace placed)) &&
      Bytes.field ((archiveBytes placed).drop (endPlace placed)) 20 2 == 0) = true := by
    rw [field_drop, Bool.and_eq_true, List.isPrefixOf_iff_prefix, beq_iff_eq]
    exact ⟨mark, comment⟩
  unfold findEndRecord?
  rw [if_neg long, final, if_pos marked, narrowEndRecord, writtenEnd]
  simp only [endPlace, extent, start, Nat.add_sub_cancel_left]

theorem archiveBytes_last (front : List Placed) (last : Placed) :
    ∃ before after, archiveBytes (front ++ [last]) = before ++ (last.centralRecord ++ after) ∧
      endPlace (front ++ [last]) =
        before.length + (centralHeaderSize + last.nameBytes.length) := by
  refine ⟨localBytes (front ++ [last]) ++ directoryBytes front,
    endRecord (front ++ [last]).length (directoryBytes (front ++ [last])).length
      (localBytes (front ++ [last])).length, ?_, ?_⟩
  · simp [archiveBytes, directoryBytes]
  · simp [endPlace, directoryBytes, centralRecord_length, Nat.add_assoc]

-- From the high byte of the name's length to the attributes all is nought, and no byte of the mark is.
theorem locator_long (front : List Placed) (last : Placed) (fits : last.Fits)
    (marked : wideLocatorMark <+:
      (archiveBytes (front ++ [last])).drop (endPlace (front ++ [last]) - wideLocatorSize)) :
    12 ≤ last.nameBytes.length := by
  obtain ⟨before, after, parts, place⟩ := archiveBytes_last front last
  rw [parts, place] at marked
  have sizes : centralHeaderSize = 46 ∧ wideLocatorSize = 20 := ⟨rfl, rfl⟩
  obtain ⟨_, _, nameSize, zeros, _⟩ := centralRecord_fields last after fits
  by_contra short
  have nought : ∀ place, 29 ≤ place → place < 38 →
      Bytes.field (last.centralRecord ++ after) place 1 = 0 := by
    intro place late early
    rcases Nat.lt_or_ge 29 place with inside | start
    · obtain ⟨skipped, rfl⟩ := Nat.exists_eq_add_of_le inside
      have whole : Bytes.field (last.centralRecord ++ after) 30 (skipped + 1) = 0 := by
        rw [field_narrow _ 30 (skipped + 1) 8 (by omega), zeros, Nat.zero_mod]
      rw [field_inside, whole, Nat.zero_div]
    · obtain rfl : place = 28 + 1 := by omega
      rw [field_inside, nameSize, Nat.div_eq_zero_iff]
      exact Or.inr (Nat.lt_trans (Nat.lt_of_not_le short) (by decide))
  obtain ⟨beyond, shape⟩ := marked
  have filled : ∀ place, place < 4 → Bytes.field (wideLocatorMark ++ beyond) place 1 ≠ 0 := by
    intro place inMark
    match place, inMark with
    | 0, _ | 1, _ | 2, _ | 3, _ => exact Nat.succ_ne_zero _
  have onMark := filled (3 - last.nameBytes.length) (by omega)
  have spot : before.length + (centralHeaderSize + last.nameBytes.length) - wideLocatorSize +
      (3 - last.nameBytes.length) = before.length + (26 + last.nameBytes.length +
        (3 - last.nameBytes.length)) := by omega
  rw [shape, field_drop, spot, ← field_drop, List.drop_left' rfl] at onMark
  exact onMark (nought _ (by omega) (by omega))

-- The number of disks is read from the last four bytes of the name, none of which is nought.
theorem locator_refused (front : List Placed) (last : Placed) (fits : last.Fits)
    (free : NulFree last.name)
    (marked : wideLocatorMark <+:
      (archiveBytes (front ++ [last])).drop (endPlace (front ++ [last]) - wideLocatorSize)) :
    1 < (archiveBytes (front ++ [last])).field
      (endPlace (front ++ [last]) - wideLocatorSize + 16) 4 := by
  have long := locator_long front last fits marked
  obtain ⟨before, after, parts, place⟩ := archiveBytes_last front last
  rw [parts, place]
  have sizes : centralHeaderSize = 46 ∧ wideLocatorSize = 20 := ⟨rfl, rfl⟩
  have spot : before.length + (centralHeaderSize + last.nameBytes.length) - wideLocatorSize + 16 =
      before.length + (centralHeaderSize + (last.nameBytes.length - 4)) := by omega
  have ending : Bytes.field (before ++ (last.centralRecord ++ after))
      (before.length + (centralHeaderSize + (last.nameBytes.length - 4))) 4 =
        value (last.nameBytes.drop (last.nameBytes.length - 4)) := by
    rw [← field_drop, ← field_drop, List.drop_left' rfl, centralRecord_drop]
    simp only [field]
    rw [List.drop_append_of_le_length (by omega), List.take_left' (by simp; omega)]
  rw [spot, ending]
  have four : (last.nameBytes.drop (last.nameBytes.length - 4)).length = 4 := by
    rw [List.length_drop]
    omega
  have filled : ∀ byte ∈ last.nameBytes.drop (last.nameBytes.length - 4), byte ≠ 0 :=
    fun byte member => ofText_no_zero last.name free byte (List.mem_of_mem_drop member)
  rcases final : last.nameBytes.drop (last.nameBytes.length - 4) with _ | ⟨low, _ | ⟨next, rest⟩⟩
  · simp [final] at four
  · simp [final] at four
  · rw [final] at filled
    have there : next.toNat ≠ 0 := by
      intro zero
      exact filled next (by simp) (UInt8.toNat_inj.mp zero)
    simp only [value]
    omega

theorem widen_written (placed : List Placed) (record : EndRecord)
    (fits : ∀ entry ∈ placed, entry.Fits) (named : ∀ entry ∈ placed, entry.Named)
    (done : widen (archiveBytes placed) (writtenEnd placed) = .ok record) :
    record = writtenEnd placed := by
  unfold widen at done
  split at done
  · cases done
    rfl
  · rename_i far
    simp only at done
    split at done
    · cases done
      rfl
    · rename_i marked
      split at done
      · cases done
      · rename_i single
        -- An archive without entries is too short for a locator.
        rcases List.eq_nil_or_concat placed with rfl | ⟨front, last, rfl⟩
        · exact absurd (by decide) far
        · rw [List.concat_eq_append] at *
          have bound := locator_refused front last (fits last (by simp)) (named last (by simp)).free
            (List.isPrefixOf_iff_prefix.mp (by simpa [writtenEnd] using marked))
          rw [← field_drop] at bound
          exact absurd (Or.inr bound) single

theorem directoryBytes_long (placed : List Placed) :
    placed.length ≤ (directoryBytes placed).length := by
  induction placed with
  | nil => exact Nat.zero_le _
  | cons first others ih =>
      have long : 1 ≤ first.centralRecord.length := by
        rw [centralRecord_length]
        exact Nat.le_trans (by decide) (Nat.le_add_right centralHeaderSize _)
      rw [directoryBytes, List.flatMap_cons, List.length_append, List.length_cons, Nat.add_comm]
      exact Nat.add_le_add long ih

section

variable {decoders : Decoders} (placed : List Placed) (fits : ∀ entry ∈ placed, entry.Fits)
  (named : ∀ entry ∈ placed, entry.Named) (few : placed.length < Nat.pow 256 2)
  (size : (directoryBytes placed).length < Nat.pow 256 4)
  (offset : (localBytes placed).length < Nat.pow 256 4)

include fits named few size offset

theorem read_widened
    (widened : widen (archiveBytes placed) (writtenEnd placed) = .ok (writtenEnd placed)) :
    readWith decoders (archiveBytes placed) =
      .ok { file := archiveBytes placed
            entries := placed.map Placed.entry
            directoryStart := (localBytes placed).length
            decoders } := by
  have start : ((endPlace placed : Int) - (directoryBytes placed).length - (0 : Nat)) =
      (localBytes placed).length := by
    simp [endPlace]
  have there : ((archiveBytes placed).drop (localBytes placed).length).take
      (directoryBytes placed).length = directoryBytes placed := by
    rw [archiveBytes, List.append_assoc, List.drop_left' rfl, List.take_left' rfl]
  have listed := readEntries_records placed _ (directoryBytes_long placed) fits named
  have within : ¬((localBytes placed).length : Int) < 0 := by omega
  simp only [readWith, findEndRecord_written placed few size offset, widened, bind, Except.bind]
  simp only [writtenEnd, Bool.false_eq_true, if_false, start, within, Int.toNat_natCast, there,
    Int.sub_self, listed, pure, Except.pure]

/-- If a written archive can be read at all, it reads as the entries that were placed. -/
theorem read_archiveBytes (archive : Archive)
    (done : readWith decoders (archiveBytes placed) = .ok archive) :
    archive = { file := archiveBytes placed
                entries := placed.map Placed.entry
                directoryStart := (localBytes placed).length
                decoders } := by
  have whole := done
  simp only [readWith, findEndRecord_written placed few size offset, Checked.bind_eq_ok] at done
  obtain ⟨record, widened, _⟩ := done
  obtain rfl := widen_written placed record fits named widened
  rw [read_widened placed fits named few size offset widened] at whole
  exact (Except.ok.inj whole).symm

end

end DexGraft.Zip
