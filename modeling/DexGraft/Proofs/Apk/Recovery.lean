import DexGraft.Proofs.Apk.Alignment
import DexGraft.Proofs.Apk.Defects
import DexGraft.Proofs.Apk.Metadata
import DexGraft.Proofs.Zip.Contents
import DexGraft.Proofs.Zip.Locator

/-!
The new entry, looked for in the rebuilt archive. It is the last one, and it bears
what the directory said of the entry it replaces. Two of the flags it may inherit
keep the reader from opening it, and its directory record may be mistaken for a
locator, so that the archive does not open at all; else it is found as it was given.
-/
namespace DexGraft.Apk

open Zip DexGraft.Action

theorem findEntry_new (archive : Archive) (front : List Entry) (entry : Entry)
    (entries : archive.entries = front ++ [entry]) :
    findEntry? archive entry.name = some (entry, front.length) := by
  have rows : archive.entries.zipIdx.reverse =
      (entry, front.length) :: front.zipIdx.reverse := by
    rw [entries, List.zipIdx_append, List.reverse_append]
    simp
  rw [ findEntry?, rows, List.find?_cons_of_pos]
  simp

section

variable {deflate : Bytes → Bytes} {archive : Archive} {change : Replacement}
  {rebuilt : Rebuilt} {kept : List Item} {last : Item}

theorem Rewritten.newest (done : Rewritten deflate archive change rebuilt kept last) :
    ∃ front newest, rebuilt.placed = front ++ [newest] ∧
      Places deflate change.alignment last newest := by
  obtain ⟨front, back, parts, _, new⟩ := Rows.split done.places
  cases new with
  | cons here none =>
      cases none
      exact ⟨front, _, parts, here⟩

theorem Rewritten.read_mistaken {front : List Placed} {newest : Placed}
    (done : Rewritten deflate archive change rebuilt kept last) (decoders : Decoders)
    (free : ∀ entry ∈ archive.entries, NulFree entry.name)
    (parts : rebuilt.placed = front ++ [newest]) (mistaken : newest.Mistaken) :
    Zip.readWith decoders rebuilt.bytes = .error (.malformed .severalDisks) := by
  have inside : newest ∈ rebuilt.placed := by simp [parts]
  have fits := Places.all_fit done.places newest inside
  have named := Places.all_named done.places (done.nulFree free) newest inside
  have few := done.few
  have size := done.size
  have offset := done.offset
  rw [parts] at few size offset
  rw [Rebuilt.bytes, parts]
  exact Zip.read_mistaken front newest fits named mistaken few size offset

theorem Rewritten.read_clear {front : List Placed} {newest : Placed}
    (done : Rewritten deflate archive change rebuilt kept last) (decoders : Decoders)
    (free : ∀ entry ∈ archive.entries, NulFree entry.name)
    (parts : rebuilt.placed = front ++ [newest]) (clear : ¬newest.Mistaken) :
    ∃ opened, Zip.readWith decoders rebuilt.bytes = .ok opened ∧ opened.file = rebuilt.bytes ∧
      opened.entries = (front ++ [newest]).map Placed.entry ∧
      opened.directoryStart = (localBytes (front ++ [newest])).length := by
  have fits := Places.all_fit done.places
  have named := Places.all_named done.places (done.nulFree free)
  have few := done.few
  have size := done.size
  have offset := done.offset
  rw [parts] at fits named few size offset
  rw [Rebuilt.bytes, parts]
  exact ⟨_, Zip.read_clear front newest fits named clear few size offset, rfl, rfl, rfl⟩

theorem Rewritten.barred {front : List Placed} {newest : Placed} {opened : Archive}
    (done : Rewritten deflate archive change rebuilt kept last)
    (parts : rebuilt.placed = front ++ [newest]) (file : opened.file = rebuilt.bytes)
    (index : Nat) (barred : Barred newest.flags) :
    ∃ what, opened.openEntry index newest.entry = .error (.unsupported what) := by
  have inside : newest ∈ rebuilt.placed := by simp [parts]
  obtain ⟨rest, there⟩ := done.there newest inside
  exact openEntry_barred opened index newest rest (Places.all_fit done.places newest inside)
    (file ▸ there) barred

theorem Rewritten.content {front : List Placed} {newest : Placed} {opened : Archive}
    (done : Rewritten deflate archive change rebuilt kept last)
    (free : ∀ entry ∈ archive.entries, NulFree entry.name)
    (parts : rebuilt.placed = front ++ [newest])
    (as : Places deflate change.alignment last newest) (file : opened.file = rebuilt.bytes)
    (entries : opened.entries = (front ++ [newest]).map Placed.entry)
    (start : opened.directoryStart = (localBytes (front ++ [newest])).length)
    (open_ : ¬Barred newest.flags) :
    ∃ data, opened.openEntry front.length newest.entry = .ok data ∧
      opened.contentOf copyWindow newest.entry data = .ok change.content := by
  have inside : newest ∈ rebuilt.placed := by simp [parts]
  obtain ⟨rest, there⟩ := done.there newest inside
  rw [← file] at there
  have clear : newest.flags.testBit encryptedBit = false := by
    rw [PlacedAs.flags as]
    exact writtenFlags_clear ..
  have bound := bound_placed opened front [] newest (parts ▸ done.stacked) entries start
  have data := (openEntry_placed opened front.length newest rest _
    (Places.all_fit done.places newest inside)
    (Places.all_named done.places (done.nulFree free) newest inside) there).mpr
      ⟨rfl, readable_of_unbarred open_ clear, bound⟩
  have plain : last.packed = false ∧ last.content = change.content := by
    rw [done.new]
    exact ⟨rfl, rfl⟩
  refine ⟨_, data, ?_⟩
  rw [← plain.2]
  apply PlacedAs.contentOf as _ opened copyWindow (by decide) rest
  intro packed
  rw [plain.1] at packed
  cases packed

end

section

variable (reader : Reader) (path target : Path) (name : String) (session : Session)
  (file : Bytes) (given : session.files.read path = .ok file)

include given

theorem names_read (archive : Archive) (read : Zip.readWith reader.decoders file = .ok archive) :
    (names path reader.decoders).perform session = (.ok archive.names, session) := by
  have opening := openArchive_perform reader.decoders path session file given
  rw [read] at opening
  rw [names, perform_bind_ok _ _ _ _ _ opening]
  rfl

theorem unopened (fault : Zip.Fault) (broken : Zip.readWith reader.decoders file = .error fault) :
    ((names path reader.decoders).perform session).1 = .error (reworded isUnreadable
        (fun cause => .io (.openArchive path.text cause)) (.cause (.zip fault))) ∧
      ((extract path name target reader).perform session).1 = .error (reworded isUnreadable
        (fun cause => .io (.openArchive path.text cause)) (.cause (.zip fault))) := by
  have opening := openArchive_perform reader.decoders path session file given
  rw [broken] at opening
  rw [names, extract, perform_bind, perform_bind, opening]
  exact ⟨rfl, rfl⟩

theorem extract_barred (archive : Archive) (read : Zip.readWith reader.decoders file = .ok archive)
    (entry : Entry) (index : Nat) (row : findEntry? archive name = some (entry, index))
    (what : String) (refused : archive.openEntry index entry = .error (.unsupported what)) :
    ((extract path name target reader).perform session).1 =
      .error (.cause (.zip (.unsupported what))) := by
  have opening := openArchive_perform reader.decoders path session file given
  rw [read] at opening
  rw [extract, perform_bind_ok _ _ _ _ _ opening, row]
  simp only [perform_bind, perform_rewording, copyEntry, zipResult_perform, refused]
  rfl

theorem extract_found (archive : Archive) (read : Zip.readWith reader.decoders file = .ok archive)
    (entry : Entry) (index : Nat) (row : findEntry? archive name = some (entry, index))
    (data content : Bytes) (opened : archive.openEntry index entry = .ok data)
    (whole : archive.contentOf copyWindow entry data = .ok content) (place : Place)
    (reached : session.files.resolve target = .ok place)
    (open_ : session.files.node? place ≠ some .directory)
    (apart : session.files.resolve path ≠ .ok place) :
    ∃ left, (extract path name target reader).perform session = (.ok content.length, left) ∧
      left.files.read target = .ok content := by
  have opening := openArchive_perform reader.decoders path session file given
  rw [read] at opening
  obtain ⟨mode, emptying⟩ := Files.write_of_place session.files target [] place reached open_
  have rest : (session.files.put place (.file [] mode)).read path = .ok archive.file := by
    rw [(read_given _ _ _ read).1]
    exact Files.read_put_apart session.files path place _ file open_ apart given
  obtain ⟨filled, written, left⟩ := written_again session.files _ target [] content emptying
  refine ⟨{ session with files := filled }, ?_, left⟩
  rw [extract, perform_bind_ok _ _ _ _ _ opening, row]
  simp only [perform_bind, perform_rewording, copyEntry, zipResult_perform, opened,
    Except.mapError, perform_change, emptying, perform_ask, rest,
    dataAfter_same reader archive entry data (openEntry_suffix _ _ _ _ opened), whole, written]
  exact fileSize_perform target { session with files := filled } content left

end

def severalDisks (path : Path) : Fault :=
  .io (.openArchive path.text (.zip (.malformed .severalDisks)))

def Unopened (reader : Reader) (session : Session) (path : Path) (name : String) : Prop :=
  ((names path reader.decoders).perform session).1 = .error (severalDisks path) ∧
    ∀ target, ((extract path name target reader).perform session).1 = .error (severalDisks path)

/-- An extraction to a file of its own writes the content out, unless the flags bar the entry. -/
structure Extracts (reader : Reader) (session : Session) (path : Path) (name : String)
    (flags : Nat) (content : Bytes) (target : Path) : Prop where
  refused : Barred flags → ∃ what,
    ((extract path name target reader).perform session).1 =
      .error (.cause (.zip (.unsupported what)))
  written : ¬Barred flags → ∀ place, session.files.resolve target = .ok place →
    session.files.node? place ≠ some .directory → session.files.resolve path ≠ .ok place →
      ∃ left, (extract path name target reader).perform session = (.ok content.length, left) ∧
        left.files.read target = .ok content

/-- An entry that was replaced is the last one of the rebuilt archive, whose names are those that
were reported, and it is extracted as it was given: unless the entry bears a flag that the reader
refuses, or the end of its directory record is mistaken for a locator. -/
theorem rebuildFile_recovered (decoders : Decoders) (reader : Reader) (deflate : Bytes → Bytes)
    (source output : Path) (name : String) (content : Bytes) (alignment : Int)
    (session after : Session) (rebuilt : Rebuilt)
    (done : (rebuildFile deflate source name content output alignment decoders).perform session =
      (.ok rebuilt, after)) :
    ∃ file archive, session.files.read source = .ok file ∧
      Zip.readWith decoders file = .ok archive ∧
      ∀ replaced, (archive.entries.filter fun entry => entry.name = name).getLast? = some replaced →
        ∃ newest, rebuilt.placed.getLast? = some newest ∧ newest.name = name ∧
          (Mistaken replaced.attributes newest.offset name → Unopened reader after output name) ∧
          (¬Mistaken replaced.attributes newest.offset name →
            ((names output reader.decoders).perform after).1 = .ok rebuilt.written ∧
              ∀ target, Extracts reader after output name replaced.flags content target) := by
  obtain ⟨file, archive, emptied, found, read, outcome, _, written⟩ :=
    rebuildFile_ok decoders deflate source output name content alignment session after rebuilt
      done
  obtain ⟨kept, last, rewritten⟩ := (rebuild_eq_ok ..).mp outcome
  have plain := read_plain file archive read
  have free := fun entry member => (plain entry member).free
  have given := Files.write_read emptied _ output _ written
  refine ⟨file, archive, found, read, fun replaced final => ?_⟩
  obtain ⟨member, takes⟩ := rewritten.takes_last plain replaced final
  have named : replaced.name = name := by
    simpa using (List.mem_filter.mp (List.mem_of_getLast? final)).2
  obtain ⟨front, newest, parts, as⟩ := rewritten.newest
  have known : newest.name = name := (PlacedAs.name as).trans (takes.name.trans named)
  have same : newest.Mistaken ↔ Mistaken replaced.attributes newest.offset name := by
    rw [Placed.Mistaken, PlacedAs.attributes as, takes.attributes, known,
      Nat.mod_eq_of_lt (plain replaced member).attributes]
  have flags : Barred newest.flags ↔ Barred replaced.flags := by
    rw [PlacedAs.flags as, takes.flags]
    exact barred_written last.name replaced.flags (plain replaced member).flags
  refine ⟨newest, by rw [parts, List.getLast?_concat], known, fun mistaken => ?_, fun clear => ?_⟩
  · have broken := rewritten.read_mistaken reader.decoders free parts (same.mpr mistaken)
    exact ⟨(unopened reader output output name after _ given _ broken).1,
      fun target => (unopened reader output target name after _ given _ broken).2⟩
  · obtain ⟨opened, readable, whole, entries, start⟩ :=
      rewritten.read_clear reader.decoders free parts (mt same.mp clear)
    have row : findEntry? opened name = some (newest.entry, front.length) := by
      have last := findEntry_new opened (front.map Placed.entry) newest.entry (by simp [entries])
      rwa [List.length_map, show newest.entry.name = name from known] at last
    refine ⟨?_, fun target => ⟨fun barred => ?_, fun open_ place reached vacant apart => ?_⟩⟩
    · have listed : opened.names = rebuilt.written := by
        rw [Archive.names, entries, Rebuilt.written, parts, List.map_map]
        rfl
      rw [names_read reader output after _ given opened readable, listed]
    · obtain ⟨what, refused⟩ := rewritten.barred parts whole front.length (flags.mpr barred)
      exact ⟨what, extract_barred reader output target name after _ given opened readable _ _ row what
        refused⟩
    · obtain ⟨data, header, answered⟩ :=
        rewritten.content free parts as whole entries start (mt flags.mp open_)
      exact extract_found reader output target name after _ given opened readable _ _ row data content
        header answered place reached vacant apart

theorem rebuildFile_recovered_odd :
    ∃ rebuilt after left,
      (rebuildFile (Deflate.packing greeting packedGreeting) ⟨0, ["in.apk"]⟩ "a" [9]
        ⟨0, ["out.apk"]⟩ 4).perform oddSession = (.ok rebuilt, after) ∧
      ((names ⟨0, ["out.apk"]⟩).perform after).1 = .ok rebuilt.written ∧
      (extract ⟨0, ["out.apk"]⟩ "a" ⟨0, ["a"]⟩).perform after = (.ok 1, left) ∧
      left.files.read ⟨0, ["a"]⟩ = .ok [9] := by
  rcases done : (rebuildFile (Deflate.packing greeting packedGreeting) ⟨0, ["in.apk"]⟩ "a" [9]
    ⟨0, ["out.apk"]⟩ 4).perform oddSession with ⟨result, after⟩
  have works : result.toOption.isSome ∧
      (after.files.resolve ⟨0, ["a"]⟩).toOption = some ["a"] ∧
      (after.files.node? ["a"]).isNone ∧
      (after.files.resolve ⟨0, ["out.apk"]⟩).toOption = some ["out.apk"] := by
    rw [show result = _ from (congrArg Prod.fst done).symm,
      show after = _ from (congrArg Prod.snd done).symm]
    decide +kernel
  have last : (Zip.readWith noDecoders oddFile).toOption.map (fun archive =>
      (archive.entries.filter fun entry => entry.name = "a").getLast?.map Entry.flags) =
        some (some 0x4008) := by
    decide +kernel
  cases result with
  | error fault => cases works.1
  | ok rebuilt =>
      obtain ⟨_, reached, vacant, elsewhere⟩ := works
      obtain ⟨file, archive, found, read, recovered⟩ :=
        rebuildFile_recovered noDecoders plainReader (Deflate.packing greeting packedGreeting)
          ⟨0, ["in.apk"]⟩ ⟨0, ["out.apk"]⟩ "a" [9] 4 oddSession after rebuilt done
      obtain rfl : oddFile = file := Except.ok.inj found
      rw [show Zip.readWith noDecoders oddFile = .ok archive from read] at last
      obtain ⟨replaced, final, flags⟩ := Option.map_eq_some_iff.mp (Option.some.inj last)
      obtain ⟨newest, _, _, _, clear⟩ := recovered replaced final
      have short : ¬Mistaken replaced.attributes newest.offset "a" := by
        rintro ⟨long, _⟩
        rw [recordEnding_length] at long
        exact absurd long (by decide)
      obtain ⟨listed, extracts⟩ := clear short
      have open_ : ¬Barred replaced.flags := by
        rw [flags]
        decide
      have beside : after.files.resolve ⟨0, ["out.apk"]⟩ ≠ .ok ["a"] := by
        rw [Checked.ok_of_toOption elsewhere]
        simp
      obtain ⟨left, ran, content⟩ := (extracts ⟨0, ["a"]⟩).written open_ ["a"]
        (Checked.ok_of_toOption reached) (by rw [Option.isNone_iff_eq_none.mp vacant]; simp) beside
      exact ⟨rebuilt, after, left, rfl, listed, ran, content⟩

/-- An entry of this name, with these flags and attributes, and another one behind it. -/
def pairSession (name : String) (flags attributes : Nat) : Session :=
  let first := { givenEntry name .stored [1] [1] 0 with flags, attributes }
  let second := givenEntry "b" .stored [2] [2] first.localRecord.length
  { givenSession with
    files := ⟨[(["in.apk"], .file (archiveBytes [first, second]) Files.newFileMode)], []⟩ }

def missingFeature {α : Type} : Except Fault α → Option String
  | .error (.cause (.zip (.unsupported what))) => some what
  | _ => none

theorem missingFeature_eq_some {α : Type} (ended : Except Fault α) (what : String)
    (missing : missingFeature ended = some what) :
    ended = .error (.cause (.zip (.unsupported what))) := by
  unfold missingFeature at missing
  split at missing
  · rw [Option.some.inj missing]
  · cases missing

def spannedArchive {α : Type} : Except Fault α → Option String
  | .error (.io (.openArchive path (.zip (.malformed .severalDisks)))) => some path
  | _ => none

theorem spannedArchive_eq_some {α : Type} (ended : Except Fault α) (path : Path)
    (spanned : spannedArchive ended = some path.text) : ended = .error (severalDisks path) := by
  unfold spannedArchive at spanned
  split at spanned
  · rw [Option.some.inj spanned]
    rfl
  · cases spanned

/-- A new entry that cannot be extracted, and one with which the archive does not even open. -/
theorem new_entry_lost :
    (∃ rebuilt after,
      (rebuildFile (Deflate.packing greeting packedGreeting) ⟨0, ["in.apk"]⟩ "a" [9]
        ⟨0, ["out.apk"]⟩ 4).perform (pairSession "a" 0x40 0) = (.ok rebuilt, after) ∧
      rebuilt.replacedExisting = true ∧
      ((extract ⟨0, ["out.apk"]⟩ "a" ⟨0, ["a"]⟩).perform after).1 =
        .error (.cause (.zip (.unsupported "strong encryption (flag bit 6)")))) ∧
      ∃ rebuilt after,
        (rebuildFile (Deflate.packing greeting packedGreeting) ⟨0, ["in.apk"]⟩ "classes2.dex" [9]
          ⟨0, ["out.apk"]⟩ 4).perform (pairSession "classes2.dex" 0 0x07064B50) =
            (.ok rebuilt, after) ∧
        rebuilt.replacedExisting = true ∧
        ((names ⟨0, ["out.apk"]⟩).perform after).1 = .error (severalDisks ⟨0, ["out.apk"]⟩) := by
  constructor
  · rcases done : (rebuildFile (Deflate.packing greeting packedGreeting) ⟨0, ["in.apk"]⟩ "a" [9]
      ⟨0, ["out.apk"]⟩ 4).perform (pairSession "a" 0x40 0) with ⟨result, after⟩
    have works : result.toOption.map Rebuilt.replacedExisting = some true ∧
        missingFeature ((extract ⟨0, ["out.apk"]⟩ "a" ⟨0, ["a"]⟩).perform after).1 =
          some "strong encryption (flag bit 6)" := by
      rw [show result = _ from (congrArg Prod.fst done).symm,
        show after = _ from (congrArg Prod.snd done).symm]
      decide +kernel
    obtain ⟨rebuilt, ran, replaced⟩ := Option.map_eq_some_iff.mp works.1
    exact ⟨rebuilt, after, by rw [Checked.ok_of_toOption ran], replaced,
      missingFeature_eq_some _ _ works.2⟩
  · rcases done : (rebuildFile (Deflate.packing greeting packedGreeting) ⟨0, ["in.apk"]⟩
      "classes2.dex" [9] ⟨0, ["out.apk"]⟩ 4).perform (pairSession "classes2.dex" 0 0x07064B50)
      with ⟨result, after⟩
    have works : result.toOption.map Rebuilt.replacedExisting = some true ∧
        spannedArchive ((names ⟨0, ["out.apk"]⟩).perform after).1 =
          some (⟨0, ["out.apk"]⟩ : Path).text := by
      rw [show result = _ from (congrArg Prod.fst done).symm,
        show after = _ from (congrArg Prod.snd done).symm]
      decide +kernel
    obtain ⟨rebuilt, ran, replaced⟩ := Option.map_eq_some_iff.mp works.1
    exact ⟨rebuilt, after, by rw [Checked.ok_of_toOption ran], replaced,
      spannedArchive_eq_some _ _ works.2⟩

end DexGraft.Apk
