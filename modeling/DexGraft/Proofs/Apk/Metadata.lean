import DexGraft.Proofs.Apk.Archive

/-!
What a rebuild says of the entries besides their contents. A kept entry bears the
stamp, the attributes and the flags of the directory record it was read from, and
the new entry bears those of the last one it replaces.
-/
namespace DexGraft.Apk

open Zip DexGraft.Action

structure Takes (entry : Entry) (item : Item) : Prop where
  name : item.name = entry.name
  flags : item.flags = entry.flags
  stamp : item.stamp = entry.stamp
  attributes : item.attributes = entry.attributes

theorem keptItem_takes (entry : Entry) (content : Bytes) (plain : entry.Plain) :
    Takes entry (keptItem entry content) :=
  ⟨rfl, rfl, toStamp_ofStamp entry.stamp plain.date, rfl⟩

theorem newItem_takes (change : Replacement) (entry : Entry) (plain : entry.Plain)
    (named : entry.name = change.name) : Takes entry (newItem change (some entry)) := by
  refine ⟨?_, rfl, toStamp_ofStamp entry.stamp plain.date, rfl⟩
  rw [newItem, ← named]
  exact cutAtNul_self entry.name plain.free

def keptMethod (name : String) (method : Method) : Method :=
  if method = .deflated ∧ mustStore name = false then .deflated else .stored

theorem keptItem_packed (entry : Entry) (content : Bytes) :
    (if (keptItem entry content).packed then Method.deflated else .stored) =
      keptMethod entry.name entry.method := by
  simp [keptItem, keptMethod]

/-- What a written entry says of itself in both its headers, next to the directory record of its
source. -/
structure Described (record : Bytes) (name : String) (method : Method)
    (found : LocalEntry × CentralEntry) : Prop where
  header : found.2.header = found.1.header
  nameBytes : found.2.name = found.1.name
  time : found.1.header.time = record.field 12 2
  date : found.1.header.date = record.field 14 2
  attributes : found.2.attributes = record.field 38 4
  flags : ∀ bit, found.1.header.flags.testBit bit = true ↔
    ((record.field 8 2).testBit bit = true ∧ bit ≠ 0 ∧ bit ≠ 3) ∨
      (bit = unicodeBit ∧ ∃ c ∈ name.toList, 128 ≤ c.toNat)
  name : decodeName (found.1.header.flags.testBit unicodeBit) found.1.name = .ok name
  method : found.1.header.method = method.number

/-- An entry written with all that the file says of the entry it comes from. -/
def Carried (file : Bytes) (entry : Entry) (method : Method) (found : LocalEntry × CentralEntry) :
    Prop :=
  ∃ record, record <:+: file ∧ Recorded record entry ∧ Described record entry.name method found

theorem Takes.described {deflate : Bytes → Bytes} {alignment : Int} {entry : Entry} {item : Item}
    {placed : Placed} {record : Bytes} (takes : Takes entry item) (recorded : Recorded record entry)
    (as : Places deflate alignment item placed) (here : Nat) :
    Described record entry.name (if item.packed then .deflated else .stored)
      (placed.localEntry, placed.centralEntry here) := by
  have stamp : placed.stamp = entry.stamp := (PlacedAs.stamp as).trans takes.stamp
  have flags : placed.flags = writtenFlags entry.name (record.field 8 2) := by
    rw [PlacedAs.flags as, takes.name, takes.flags, recorded.flags]
  refine {
    header := rfl
    nameBytes := rfl
    time := ?time
    date := ?date
    attributes := ?attributes
    flags := ?flags
    name := ?name
    method := congrArg Method.number (PlacedAs.method as) }
  case time =>
    change placed.stamp.time.toNat = _
    rw [stamp, recorded.time, Int.toNat_natCast]
  case date =>
    change placed.stamp.date.toNat = _
    rw [stamp, recorded.date, Int.toNat_natCast]
  case attributes =>
    change placed.attributes = _
    rw [PlacedAs.attributes as, takes.attributes, recorded.attributes]
    exact Nat.mod_eq_of_lt (Bytes.field_lt record 38 4)
  case flags =>
    change ∀ bit, placed.flags.testBit bit = true ↔ _
    rw [flags]
    exact writtenFlags_testBit entry.name _ (Bytes.field_lt record 8 2)
  case name =>
    rw [← takes.name]
    exact PlacedAs.decoded as

section

variable {deflate : Bytes → Bytes} {file : Bytes} {archive : Archive} {change : Replacement}
  {rebuilt : Rebuilt} {kept : List Item} {last : Item}

-- The rows of a rebuild and the entries they are kept from go together; their numbers in the
-- archive no longer matter.
theorem Rewritten.takes (done : Rewritten deflate archive change rebuilt kept last)
    (plain : ∀ entry ∈ archive.entries, entry.Plain) :
    List.Forall₂ (fun entry item => entry ∈ archive.entries ∧ Takes entry item ∧
        (if item.packed then Method.deflated else .stored) = keptMethod entry.name entry.method)
      (archive.entries.filter fun entry =>
        entry.name ≠ change.name ∧ isSigningMetadata entry.name = false) kept := by
  have entries : (archive.entries.filter fun entry =>
      entry.name ≠ change.name ∧ isSigningMetadata entry.name = false) =
        (archive.entries.zipIdx.filter fun row => isKept change row.1).map Prod.fst := calc
    _ = archive.entries.filter (isKept change) := by
      refine List.filter_congr fun entry _ => ?_
      by_cases named : entry.name = change.name <;> simp [isKept, isReplaced, named]
    _ = (archive.entries.zipIdx.map Prod.fst).filter (isKept change) := by
      rw [List.zipIdx_map_fst]
    _ = _ := List.filter_map
  rw [entries, List.forall₂_map_left_iff]
  refine (Rows.with_members done.others).imp ?_
  rintro row item ⟨inside, _, _, same⟩
  have member : row.1 ∈ archive.entries :=
    List.fst_mem_of_mem_zipIdx (List.mem_filter.mp inside).1
  rw [same]
  exact ⟨member, keptItem_takes row.1 _ (plain row.1 member), keptItem_packed row.1 _⟩

theorem Rewritten.takes_last (done : Rewritten deflate archive change rebuilt kept last)
    (plain : ∀ entry ∈ archive.entries, entry.Plain) (replaced : Entry)
    (final : (archive.entries.filter fun entry => entry.name = change.name).getLast? =
      some replaced) :
    replaced ∈ archive.entries ∧ Takes replaced last := by
  obtain ⟨member, named⟩ := List.mem_filter.mp (List.mem_of_getLast? final)
  have same : replaced.name = change.name := by simpa using named
  have filtered : (archive.entries.filter (isReplaced change)).getLast? = some replaced := by
    rw [← final]
    rfl
  refine ⟨member, ?_⟩
  rw [done.new, filtered]
  exact newItem_takes change replaced (plain replaced member) same

end

/-- A rebuilt archive says of each entry it keeps, in both headers, what its directory record said
in the source, and of the new entry what was said of the last one it replaces. -/
theorem rebuildFile_described (decoders : Decoders) (deflate : Bytes → Bytes)
    (source output : Path) (name : String) (content : Bytes) (alignment : Int)
    (session after : Session) (rebuilt : Rebuilt)
    (done : (rebuildFile deflate source name content output alignment decoders).perform session =
      (.ok rebuilt, after)) :
    ∃ file archive older newest,
      session.files.read source = .ok file ∧ Zip.readWith decoders file = .ok archive ∧
      after.files.read output = .ok rebuilt.bytes ∧
      Laid rebuilt.bytes ((older ++ [newest]).map Prod.fst) ((older ++ [newest]).map Prod.snd) ∧
      List.Forall₂ (fun entry found =>
          Carried file entry (keptMethod entry.name entry.method) found)
        (archive.entries.filter fun entry =>
          entry.name ≠ name ∧ isSigningMetadata entry.name = false) older ∧
      newest.1.header.method = Method.stored.number ∧
      ∀ replaced, (archive.entries.filter fun entry => entry.name = name).getLast? = some replaced →
        Carried file replaced .stored newest := by
  obtain ⟨file, archive, emptied, found, read, outcome, _, written⟩ :=
    rebuildFile_ok decoders deflate source output name content alignment session after rebuilt done
  obtain ⟨kept, last, rewritten⟩ := (rebuild_eq_ok ..).mp outcome
  have records := read_recorded file archive read
  have takes := rewritten.takes (read_plain file archive read)
  obtain ⟨rows, locals, directory, all⟩ :=
    placed_rows (localBytes rebuilt.placed).length rebuilt.placed
  have laid := rewritten.laid
  rw [← locals, ← directory] at laid
  obtain ⟨older, newer, rfl, old, new⟩ :=
    Rows.split (Rows.partners (Rows.swapped rewritten.places) all)
  obtain ⟨newest, rfl, placed, _, as, here, rfl⟩ : ∃ newest, newer = [newest] ∧
      ∃ placed ∈ rebuilt.placed, Places deflate alignment last placed ∧
        ∃ here, newest = (placed.localEntry, placed.centralEntry here) := by
    cases new with
    | cons first none =>
        cases none
        exact ⟨_, rfl, first⟩
  have unpacked : last.packed = false := by
    rw [rewritten.new]
    rfl
  refine ⟨file, archive, older, _, found, read, Files.write_read emptied _ output _ written, laid,
    ?older, ?stored, ?newest⟩
  case older =>
    refine (Rows.partners (Rows.swapped takes) old).imp ?_
    rintro entry found ⟨item, _, ⟨member, takes, method⟩, placed, _, as, here, rfl⟩
    obtain ⟨record, inside, recorded⟩ := records entry member
    refine ⟨record, inside, recorded, ?_⟩
    rw [← method]
    exact takes.described recorded as here
  case stored =>
    have method := PlacedAs.method as
    rw [unpacked] at method
    exact congrArg Method.number method
  case newest =>
    intro replaced final
    obtain ⟨member, takes⟩ :=
      rewritten.takes_last (read_plain file archive read) replaced final
    obtain ⟨record, inside, recorded⟩ := records replaced member
    refine ⟨record, inside, recorded, ?_⟩
    have described := takes.described recorded as here
    rwa [unpacked] at described

/-- Entries as no calendar has them, one of them named outside ASCII in the code page. -/
def oddFile : Bytes :=
  archiveBytes [
    { givenEntry "b" .deflated greeting packedGreeting 0 with
      flags := 0x2008, stamp := ⟨0xFFFF, 0⟩, attributes := 0x81A40010 },
    { givenEntry "ü" .stored [7] [7] 41 with stamp := ⟨0x7DFF, 0xFFFF⟩ },
    givenEntry "a" .stored [1] [1] 74,
    { givenEntry "classes.dex" .deflated greeting packedGreeting 106 with flags := 0x0806 },
    { givenEntry "a" .stored [3] [3] 157 with
      flags := 0x4008, stamp := ⟨0xFFFF, 0x1E1F⟩, attributes := 0xFFFFFFFF }]

def oddSession : Session :=
  { givenSession with files := ⟨[(["in.apk"], .file oddFile Files.newFileMode)], []⟩ }

theorem rebuildFile_odd :
    ∃ rebuilt after older newest,
      (rebuildFile (Deflate.packing greeting packedGreeting) ⟨0, ["in.apk"]⟩ "a" [9]
        ⟨0, ["out.apk"]⟩ 4).perform oddSession = (.ok rebuilt, after) ∧
      rebuilt.written = ["b", "├╝", "classes.dex", "a"] ∧
      Laid rebuilt.bytes ((older ++ [newest]).map Prod.fst) ((older ++ [newest]).map Prod.snd) ∧
      newest.1.header.time = 0xFFFF ∧ newest.1.header.date = 0x1E1F ∧
      newest.2.attributes = 0xFFFFFFFF := by
  have works : ((rebuildFile (Deflate.packing greeting packedGreeting) ⟨0, ["in.apk"]⟩ "a" [9]
      ⟨0, ["out.apk"]⟩ 4).perform oddSession).1.toOption.map Rebuilt.written =
        some ["b", "├╝", "classes.dex", "a"] := by
    decide +kernel
  have last : (Zip.readWith noDecoders oddFile).toOption.map (fun archive =>
      (archive.entries.filter fun entry => entry.name = "a").getLast?.map fun entry =>
        (entry.stamp, entry.attributes)) = some (some (⟨0xFFFF, 0x1E1F⟩, 0xFFFFFFFF)) := by
    decide +kernel
  rcases done : (rebuildFile (Deflate.packing greeting packedGreeting) ⟨0, ["in.apk"]⟩ "a" [9]
    ⟨0, ["out.apk"]⟩ 4).perform oddSession with ⟨fault | rebuilt, after⟩
  · rw [done] at works
    cases works
  · rw [done] at works
    injection works with names
    obtain ⟨file, archive, older, newest, found, read, _, laid, _, _, carried⟩ :=
      rebuildFile_described noDecoders _ _ _ _ _ _ _ _ _ done
    have given : oddSession.files.read ⟨0, ["in.apk"]⟩ = .ok oddFile := rfl
    rw [given, Except.ok.injEq] at found
    subst found
    simp only [read, Except.toOption, Option.map_some, Option.some.injEq,
      Option.map_eq_some_iff, Prod.mk.injEq] at last
    obtain ⟨replaced, final, stamp, attributes⟩ := last
    obtain ⟨record, _, recorded, described⟩ := carried replaced final
    refine ⟨rebuilt, after, older, newest, rfl, names, laid, ?_, ?_, ?_⟩
    · rw [described.time, ← Int.natCast_inj, ← recorded.time, stamp]
      rfl
    · rw [described.date, ← Int.natCast_inj, ← recorded.date, stamp]
      rfl
    · rw [described.attributes, ← recorded.attributes, attributes]

end DexGraft.Apk
