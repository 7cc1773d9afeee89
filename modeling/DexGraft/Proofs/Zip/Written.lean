import DexGraft.Proofs.Zip.Fields
import DexGraft.Proofs.Zip.Strict

/-!
The writer's records under the strict reading. Records whose numbers fit their
fields are read back as they were written, and entries that were put one right
behind the other make a file without gaps.
-/
namespace DexGraft.Zip

open Bytes

structure Placed.Fits (placed : Placed) : Prop where
  flags : placed.flags < Nat.pow 256 2
  method : placed.method = .stored ∨ placed.method = .deflated
  time : placed.stamp.time.toNat < Nat.pow 256 2
  date : placed.stamp.date.toNat < Nat.pow 256 2
  crc : placed.crc < Nat.pow 256 4
  packedSize : placed.data.length < Nat.pow 256 4
  size : placed.size < Nat.pow 256 4
  name : placed.nameBytes.length < Nat.pow 256 2
  padding : placed.padding < Nat.pow 256 2
  attributes : placed.attributes < Nat.pow 256 4
  offset : placed.offset < Nat.pow 256 4

theorem Placed.Fits.methodNumber {placed : Placed} (fits : placed.Fits) :
    placed.method.number < Nat.pow 256 2 := by
  rcases fits.method with same | same <;> rw [same] <;> decide

def Placed.header (placed : Placed) : Header :=
  { version := formatVersion, flags := placed.flags, method := placed.method.number,
    time := placed.stamp.time.toNat, date := placed.stamp.date.toNat, crc := placed.crc,
    packedSize := placed.data.length, size := placed.size }

def Placed.localEntry (placed : Placed) : LocalEntry :=
  { place := placed.offset, header := placed.header, name := placed.nameBytes,
    extra := List.replicate placed.padding 0, data := placed.data }

def Placed.centralEntry (place : Nat) (placed : Placed) : CentralEntry :=
  { place, madeBy, header := placed.header, name := placed.nameBytes,
    attributes := placed.attributes, offset := placed.offset }

theorem sharedFields_length (placed : Placed) : (fields placed.sharedFields).length = 24 := by
  rw [fields_length]
  rfl

theorem localHeader_length (placed : Placed) : placed.localHeader.length = localHeaderSize := by
  rw [Placed.localHeader, fields_append, List.length_append, List.length_append,
    sharedFields_length]
  rfl

theorem localRecord_length (placed : Placed) :
    placed.localRecord.length =
      localHeaderSize + placed.nameBytes.length + placed.padding + placed.data.length := by
  simp [Placed.localRecord, localHeader_length, Nat.add_assoc]

theorem centralRecord_length (placed : Placed) :
    placed.centralRecord.length = centralHeaderSize + placed.nameBytes.length := by
  simp only [Placed.centralRecord, List.cons_append, fields_cons, fields_append,
    List.length_append, sharedFields_length, number_length]
  rfl

theorem endRecord_length (count size offset : Nat) :
    (endRecord count size offset).length = endRecordSize := by
  simp [endRecord, fields_length, endMark, endRecordSize]

theorem header_sharedFields (placed : Placed) (rest : Bytes) (fits : placed.Fits) :
    Header.ofBytes (fields placed.sharedFields ++ rest) = placed.header := by
  simp only [Header.ofBytes, Placed.header, Placed.sharedFields, fields_cons, fields_nil,
    List.nil_append, List.append_assoc]
  simp only [field_skip, number_length, Nat.reduceLeDiff, Nat.reduceSub, Nat.le_refl]
  simp only [field_here, fits.flags, fits.methodNumber, fits.time, fits.date, fits.crc,
    fits.packedSize, fits.size]
  rfl

theorem localRecord_append (placed : Placed) (rest : Bytes) :
    placed.localRecord ++ rest = localMark ++ (fields placed.sharedFields ++
      (number 2 placed.padding ++ (placed.nameBytes ++
        (List.replicate placed.padding 0 ++ (placed.data ++ rest))))) := by
  simp [Placed.localRecord, Placed.localHeader, fields_append, fields_cons, fields_nil]

theorem centralRecord_append (placed : Placed) (rest : Bytes) :
    placed.centralRecord ++ rest = centralMark ++ (number 2 madeBy ++
      (fields placed.sharedFields ++ (number 2 0 ++ (number 2 0 ++ (number 2 0 ++ (number 2 0 ++
        (number 4 placed.attributes ++ (number 4 placed.offset ++
          (placed.nameBytes ++ rest))))))))) := by
  simp [Placed.centralRecord, fields_append, fields_cons, fields_nil]

theorem localRecord_drop (placed : Placed) (rest : Bytes) :
    (placed.localRecord ++ rest).drop localHeaderSize =
      placed.nameBytes ++ (List.replicate placed.padding 0 ++ (placed.data ++ rest)) := by
  have front : placed.localRecord ++ rest = placed.localHeader ++
      (placed.nameBytes ++ (List.replicate placed.padding 0 ++ (placed.data ++ rest))) := by
    simp [Placed.localRecord]
  rw [front, List.drop_left' (localHeader_length placed)]

theorem centralRecord_drop (placed : Placed) (rest : Bytes) :
    (placed.centralRecord ++ rest).drop centralHeaderSize = placed.nameBytes ++ rest := by
  have size := centralRecord_length placed
  unfold Placed.centralRecord at size ⊢
  rw [List.length_append] at size
  rw [List.append_assoc, List.drop_left' (by omega)]

theorem localMark_length : localMark.length = 4 := rfl

theorem centralMark_length : centralMark.length = 4 := rfl

theorem localRecord_fields (placed : Placed) (rest : Bytes) (fits : placed.Fits) :
    (placed.localRecord ++ rest).field 6 2 = placed.flags ∧
      (placed.localRecord ++ rest).field 26 2 = placed.nameBytes.length ∧
      (placed.localRecord ++ rest).field 28 2 = placed.padding ∧
      Header.ofBytes ((placed.localRecord ++ rest).drop 4) = placed.header := by
  rw [localRecord_append]
  refine ⟨?flags, ?name, ?padding, ?header⟩
  case header => rw [List.drop_left' localMark_length, header_sharedFields _ _ fits]
  case padding =>
    rw [field_skip _ _ _ _ (by decide), field_skip _ _ _ _ (by rw [sharedFields_length]; decide),
      sharedFields_length]
    exact field_here 2 placed.padding _ fits.padding
  -- The other fields stand in a row, and each is found by passing over those before it.
  all_goals
    rw [field_skip _ _ _ _ (by decide)]
    simp only [Placed.sharedFields, fields_cons, fields_nil, List.append_assoc, localMark_length]
    simp only [field_skip, number_length, Nat.reduceLeDiff, Nat.reduceSub, Nat.le_refl]
    simp only [field_here, fits.flags, fits.name]

theorem centralRecord_fields (placed : Placed) (rest : Bytes) (fits : placed.Fits) :
    Header.ofBytes ((placed.centralRecord ++ rest).drop 6) = placed.header ∧
      (placed.centralRecord ++ rest).field 4 2 = madeBy ∧
      (placed.centralRecord ++ rest).field 28 2 = placed.nameBytes.length ∧
      (placed.centralRecord ++ rest).field 30 8 = 0 ∧
      (placed.centralRecord ++ rest).field 38 4 = placed.attributes ∧
      (placed.centralRecord ++ rest).field 42 4 = placed.offset := by
  rw [centralRecord_append]
  refine ⟨?header, ?madeBy, ?name, ?zeros, ?attributes, ?offset⟩
  case header =>
    rw [show (6 : Nat) = 4 + 2 from rfl, ← List.drop_drop, List.drop_left' centralMark_length,
      List.drop_left' (number_length 2 _), header_sharedFields _ _ fits]
  all_goals
    rw [field_skip _ _ _ _ (by decide)]
    simp only [Placed.sharedFields, fields_cons, fields_nil, List.append_assoc, centralMark_length]
    simp only [field_skip, number_length, Nat.reduceLeDiff, Nat.reduceSub, Nat.le_refl]
  case madeBy => exact field_here 2 madeBy _ (by decide)
  case name => exact field_here 2 _ _ fits.name
  case zeros => rfl
  case attributes => exact field_here 4 _ _ fits.attributes
  case offset => exact field_here 4 _ _ fits.offset

theorem localRecord_mark (placed : Placed) (rest : Bytes) :
    localMark.isPrefixOf (placed.localRecord ++ rest) = true := by
  rw [localRecord_append, List.isPrefixOf_iff_prefix]
  exact List.prefix_append _ _

theorem centralRecord_mark (placed : Placed) (rest : Bytes) :
    centralMark.isPrefixOf (placed.centralRecord ++ rest) = true := by
  rw [centralRecord_append, List.isPrefixOf_iff_prefix]
  exact List.prefix_append _ _

theorem localAt_record (file rest : Bytes) (placed : Placed) (fits : placed.Fits)
    (there : file.drop placed.offset = placed.localRecord ++ rest) :
    localAt? file placed.offset = some placed.localEntry := by
  obtain ⟨_, nameSize, extraSize, header⟩ := localRecord_fields placed rest fits
  have room : localHeaderSize + placed.nameBytes.length + placed.padding + placed.data.length ≤
      (placed.localRecord ++ rest).length := by
    rw [List.length_append, localRecord_length]
    omega
  simp only [localAt?, there, localRecord_mark, nameSize, extraSize, header, localRecord_drop,
    Placed.header, room, decide_true, Bool.and_self, if_true, Placed.localEntry]
  simp [← List.drop_drop, List.drop_left']

theorem centralAt_record (file rest : Bytes) (place : Nat) (placed : Placed) (fits : placed.Fits)
    (there : file.drop place = placed.centralRecord ++ rest) :
    centralAt? file place = some (placed.centralEntry place) := by
  obtain ⟨header, made, nameSize, zeros, attributes, offset⟩ :=
    centralRecord_fields placed rest fits
  have room : centralHeaderSize + placed.nameBytes.length ≤
      (placed.centralRecord ++ rest).length := by
    rw [List.length_append, centralRecord_length]
    omega
  simp only [centralAt?, there, centralRecord_mark, header, made, nameSize, zeros, attributes,
    offset, centralRecord_drop, room, decide_true, beq_self_eq_true, Bool.and_self, if_true,
    Placed.centralEntry]
  simp

/-- Entries placed one right behind the other from an offset on. -/
inductive Stacked : Nat → List Placed → Prop
  | none (offset : Nat) : Stacked offset []
  | next {placed : Placed} {rest : List Placed}
      (after : Stacked (placed.offset + placed.localRecord.length) rest) :
      Stacked placed.offset (placed :: rest)

theorem localEntry_stop (placed : Placed) :
    placed.localEntry.stop = placed.offset + placed.localRecord.length := by
  simp only [LocalEntry.stop, LocalEntry.dataPlace, Placed.localEntry, List.length_replicate,
    localRecord_length]
  omega

-- Each record begins where the bytes before it end, so the rows below move along the file.
theorem local_row (file rest : Bytes) (offset : Nat) (placed : List Placed)
    (fits : ∀ entry ∈ placed, entry.Fits) (stacked : Stacked offset placed)
    (there : file.drop offset = localBytes placed ++ rest) :
    Row (localAt? file) LocalEntry.stop offset (placed.map Placed.localEntry)
      (offset + (localBytes placed).length) := by
  induction stacked with
  | none offset => exact Row.done offset
  | @next first others after ih =>
      rw [localBytes, List.flatMap_cons, List.append_assoc] at there
      have found := localAt_record file _ first (fits first List.mem_cons_self) there
      refine Row.next found ?_
      have onward : file.drop (first.offset + first.localRecord.length) =
          localBytes others ++ rest := by
        rw [← List.drop_drop, there, List.drop_left' rfl]
        rfl
      have tail := ih (fun entry member => fits entry (List.mem_cons_of_mem _ member)) onward
      rw [localEntry_stop]
      simpa [localBytes, Nat.add_assoc] using tail

def centralEntries : (place : Nat) → List Placed → List CentralEntry
  | _, [] => []
  | place, placed :: rest =>
      placed.centralEntry place :: centralEntries (place + placed.centralRecord.length) rest

theorem central_row (file rest : Bytes) (place : Nat) (placed : List Placed)
    (fits : ∀ entry ∈ placed, entry.Fits)
    (there : file.drop place = directoryBytes placed ++ rest) :
    Row (centralAt? file) CentralEntry.stop place (centralEntries place placed)
      (place + (directoryBytes placed).length) := by
  induction placed generalizing place with
  | nil => exact Row.done place
  | cons first others ih =>
      rw [directoryBytes, List.flatMap_cons, List.append_assoc] at there
      have found := centralAt_record file _ place first (fits first List.mem_cons_self) there
      refine Row.next found ?_
      have onward : file.drop (place + first.centralRecord.length) =
          directoryBytes others ++ rest := by
        rw [← List.drop_drop, there, List.drop_left' rfl]
        rfl
      have tail := ih _ (fun entry member => fits entry (List.mem_cons_of_mem _ member)) onward
      have stop : (first.centralEntry place).stop = place + first.centralRecord.length := by
        simp [CentralEntry.stop, Placed.centralEntry, centralRecord_length, Nat.add_assoc]
      rw [stop]
      simpa [directoryBytes, Nat.add_assoc] using tail

theorem endRecord_fields (count size offset : Nat) (countFits : count < Nat.pow 256 2)
    (sizeFits : size < Nat.pow 256 4) (offsetFits : offset < Nat.pow 256 4) :
    (endRecord count size offset).field 4 4 = 0 ∧ (endRecord count size offset).field 8 2 = count ∧
      (endRecord count size offset).field 10 2 = count ∧
      (endRecord count size offset).field 12 4 = size ∧
      (endRecord count size offset).field 16 4 = offset ∧
      (endRecord count size offset).field 20 2 = 0 := by
  have marked : endMark.length = 4 := rfl
  refine ⟨?disks, ?here, ?total, ?size, ?offset, ?comment⟩
  all_goals
    rw [endRecord, field_skip _ _ _ _ (by decide)]
    simp only [fields_cons, fields_nil, marked]
    simp only [field_skip, number_length, Nat.reduceLeDiff, Nat.reduceSub, Nat.le_refl]
  case disks => rfl
  case here => exact field_here 2 count _ countFits
  case total => exact field_here 2 count _ countFits
  case size => exact field_here 4 size _ sizeFits
  case offset => exact field_here 4 offset _ offsetFits
  case comment => rfl

theorem archiveBytes_end (placed : List Placed) :
    (archiveBytes placed).drop ((localBytes placed).length + (directoryBytes placed).length) =
      endRecord placed.length (directoryBytes placed).length (localBytes placed).length := by
  rw [archiveBytes, List.drop_left' (by simp)]

theorem closed_archiveBytes (placed : List Placed) (few : placed.length < Nat.pow 256 2)
    (size : (directoryBytes placed).length < Nat.pow 256 4)
    (offset : (localBytes placed).length < Nat.pow 256 4) :
    Closed (archiveBytes placed) ((localBytes placed).length + (directoryBytes placed).length)
      placed.length (localBytes placed).length := by
  obtain ⟨disks, here, total, extent, start, comment⟩ :=
    endRecord_fields placed.length _ _ few size offset
  refine ⟨?_, ?_, ?_, ?_, ?_, ?_, ?_, ?_⟩
  · simp [archiveBytes, endRecord_length, Nat.add_assoc]
  · rw [archiveBytes_end]
    exact List.prefix_append _ _
  all_goals rw [← field_drop, archiveBytes_end]
  · exact disks
  · exact here
  · exact total
  · rw [extent, Nat.add_sub_cancel_left]
  · exact start
  · exact comment

theorem entries_agree (place : Nat) (placed : List Placed) :
    List.Forall₂ (fun (entry : LocalEntry) (record : CentralEntry) =>
      record.offset = entry.place ∧ record.header = entry.header ∧ record.name = entry.name)
      (placed.map Placed.localEntry) (centralEntries place placed) := by
  induction placed generalizing place with
  | nil => exact List.Forall₂.nil
  | cons first rest ih => exact List.Forall₂.cons ⟨rfl, rfl, rfl⟩ (ih _)

/-- Entries that fit and stand one right behind the other make a file without gaps. -/
theorem laid_archiveBytes (placed : List Placed) (fits : ∀ entry ∈ placed, entry.Fits)
    (stacked : Stacked 0 placed) (few : placed.length < Nat.pow 256 2)
    (size : (directoryBytes placed).length < Nat.pow 256 4)
    (offset : (localBytes placed).length < Nat.pow 256 4) :
    Laid (archiveBytes placed) (placed.map Placed.localEntry)
      (centralEntries (localBytes placed).length placed) := by
  refine ⟨⟨(localBytes placed).length, (localBytes placed).length + (directoryBytes placed).length,
    ?_, ?_, ?_⟩, entries_agree _ placed⟩
  -- The local records, the directory behind them, and the end record.
  · have row := local_row (archiveBytes placed) (directoryBytes placed ++ endRecord placed.length
      (directoryBytes placed).length (localBytes placed).length) 0 placed fits stacked
      (by simp [archiveBytes])
    rwa [Nat.zero_add] at row
  · exact central_row (archiveBytes placed) _ _ placed fits (by
      rw [archiveBytes, List.append_assoc, List.drop_left' rfl])
  · rw [List.length_map]
    exact closed_archiveBytes placed few size offset

end DexGraft.Zip
