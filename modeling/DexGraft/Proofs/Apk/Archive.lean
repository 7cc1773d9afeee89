import DexGraft.Apk.Archive
import DexGraft.Proofs.Apk.Rebuild
import DexGraft.Proofs.Files.Places
import DexGraft.Proofs.Session.Run

/-!
Rebuilt archives as files. Whatever a rebuild leaves in its output file is, from
the first byte to the last, the archive of the entries it kept and of the new one.
-/
namespace DexGraft.Apk

open Zip DexGraft.Action

theorem zipResult_eq_ok {α : Type} (given : Except Zip.Fault α) (session after : Session)
    (value : α) :
    (zipResult given).perform session = (.ok value, after) ↔
      given = .ok value ∧ session = after := by
  cases given with
  | ok found => rw [zipResult, pure_eq_ok, Except.ok.injEq]
  | error fault => simp [zipResult, perform_raise]

theorem readArchive_eq_ok (decoders : Decoders) (path : Path) (session after : Session)
    (archive : Archive) :
    (readArchive path decoders).perform session = (.ok archive, after) ↔
      ∃ file, session.files.read path = .ok file ∧ Zip.readWith decoders file = .ok archive ∧
        session = after := by
  simp only [readArchive, bind_eq_ok, ask_eq_ok, zipResult_eq_ok]
  constructor
  · rintro ⟨file, _, ⟨found, rfl⟩, read, rfl⟩
    exact ⟨file, found, read, rfl⟩
  · rintro ⟨file, found, read, rfl⟩
    exact ⟨file, session, ⟨found, rfl⟩, read, rfl⟩

theorem openArchive_eq_ok (decoders : Decoders) (path : Path) (session after : Session)
    (archive : Archive) :
    (openArchive path decoders).perform session = (.ok archive, after) ↔
      ∃ file, session.files.read path = .ok file ∧ Zip.readWith decoders file = .ok archive ∧
        session = after := by
  rw [openArchive, rewording_eq_ok, readArchive_eq_ok]

theorem select_eq_ok (decoders : Decoders) (path : Path) (session after : Session)
    (images : List Image) :
    (select path decoders).perform session = (.ok images, after) ↔
      ∃ file archive, session.files.read path = .ok file ∧
        Zip.readWith decoders file = .ok archive ∧
        selectImages archive.names defaultBase defaultExtension = .ok images ∧
        session = after := by
  simp only [select, names, bind_eq_ok, openArchive_eq_ok, pure_eq_ok]
  constructor
  · rintro ⟨_, _, ⟨archive, _, ⟨file, found, read, rfl⟩, rfl, rfl⟩, done⟩
    cases chosen : selectImages archive.names defaultBase defaultExtension with
    | error fault =>
        rw [chosen] at done
        exact absurd done (throw_ne_ok _ _ _ _)
    | ok selected =>
        rw [chosen] at done
        obtain ⟨rfl, rfl⟩ := (pure_eq_ok ..).mp done
        exact ⟨file, archive, found, read, chosen, rfl⟩
  · rintro ⟨file, archive, found, read, chosen, rfl⟩
    refine ⟨_, session, ⟨archive, session, ⟨file, found, read, rfl⟩, rfl, rfl⟩, ?_⟩
    rw [chosen]
    rfl

theorem findEntry_last (archive : Archive) (name : String) (entry : Entry) (index : Nat)
    (found : findEntry? archive name = some (entry, index)) :
    archive.entries[index]? = some entry ∧ entry.name = name ∧
      ∀ later other, index < later → archive.entries[later]? = some other → other.name ≠ name := by
  unfold findEntry? at found
  obtain ⟨named, before, after, split, none⟩ := List.find?_eq_some_iff_append.mp found
  have rows : archive.entries.zipIdx = after.reverse ++ (entry, index) :: before.reverse := by
    rw [← List.reverse_reverse archive.entries.zipIdx, split]
    simp
  have here : archive.entries.zipIdx[after.length]? = some (entry, index) := by
    simp [rows]
  have place := here
  rw [List.getElem?_zipIdx, Option.map_eq_some_iff] at place
  obtain ⟨_, there, same⟩ := place
  simp only [Prod.mk.injEq, Nat.zero_add] at same
  obtain ⟨rfl, rfl⟩ := same
  refine ⟨there, by simpa using named, fun later other beyond at_ same => ?_⟩
  have row : archive.entries.zipIdx[later]? = some (other, later) := by
    simp [List.getElem?_zipIdx, at_]
  -- The search runs backwards, so it has passed over all that comes later.
  have inside : (other, later) ∈ before := by
    rw [rows, List.getElem?_append_right (by simp; omega), List.length_reverse] at row
    obtain ⟨more, grown⟩ := Nat.exists_eq_add_of_lt beyond
    rw [show later - after.length = more + 1 by omega, List.getElem?_cons_succ] at row
    exact List.mem_reverse.mp (List.mem_of_getElem? row)
  have differ := none _ inside
  simp [same] at differ

theorem zipResult_perform {α : Type} (given : Except Zip.Fault α) (session : Session) :
    (zipResult given).perform session =
      (given.mapError fun fault => .cause (.zip fault), session) := by
  cases given <;> rfl

theorem readArchive_perform (decoders : Decoders) (path : Path) (session : Session) (file : Bytes)
    (given : session.files.read path = .ok file) :
    (readArchive path decoders).perform session =
      ((Zip.readWith decoders file).mapError fun fault => .cause (.zip fault), session) := by
  have found : (ask fun files => files.read path).perform session = (.ok file, session) := by
    rw [perform_ask, given]
    rfl
  rw [readArchive, perform_bind_ok _ _ _ _ _ found, zipResult_perform]

theorem openArchive_perform (decoders : Decoders) (path : Path) (session : Session) (file : Bytes)
    (given : session.files.read path = .ok file) :
    (openArchive path decoders).perform session =
      ((Zip.readWith decoders file).mapError fun fault => reworded isUnreadable
        (fun cause => .io (.openArchive path.text cause)) (.cause (.zip fault)), session) := by
  rw [openArchive, perform_rewording, readArchive_perform decoders path session file given]
  cases Zip.readWith decoders file <;> rfl

theorem fileSize_perform (path : Path) (session : Session) (content : Bytes)
    (read : session.files.read path = .ok content) :
    (fileSize path).perform session = (.ok content.length, session) :=
  (fileSize_eq_ok path session session _).mpr ⟨Files.size_of_read _ path content read, rfl⟩

/-- The content that an archive has under a name: of several entries it is that of the last. -/
def LastContent (archive : Archive) (name : String) (content : Bytes) : Prop :=
  ∃ entry index, archive.entries[index]? = some entry ∧ entry.name = name ∧
    (∀ later other, index < later → archive.entries[later]? = some other → other.name ≠ name) ∧
    archive.contentAt copyWindow index entry = .ok content

theorem extract_ok (reader : Reader) (path target : Path) (name : String) (session after : Session)
    (size : Nat) (done : (extract path name target reader).perform session = (.ok size, after)) :
    ∃ file archive entry index data left content emptied,
      session.files.read path = .ok file ∧ Zip.readWith reader.decoders file = .ok archive ∧
      findEntry? archive name = some (entry, index) ∧
      archive.openEntry index entry = .ok data ∧
      session.files.write target [] = .ok emptied ∧ emptied.read path = .ok left ∧
      archive.contentOf copyWindow entry (reader.dataAfter archive entry data left) = .ok content ∧
      emptied.write target content = .ok after.files := by
  simp only [extract, bind_eq_ok, openArchive_eq_ok] at done
  obtain ⟨archive, _, ⟨file, found, read, rfl⟩, done⟩ := done
  cases row : findEntry? archive name with
  | none =>
      rw [row] at done
      exact absurd done (throw_ne_ok _ _ _ _)
  | some entry =>
      obtain ⟨entry, index⟩ := entry
      simp only [row, bind_eq_ok, rewording_eq_ok, copyEntry, zipResult_eq_ok, change_eq_ok,
        ask_eq_ok, fileSize_eq_ok] at done
      obtain ⟨_, _, ⟨data, _, ⟨opened, rfl⟩, _, _, ⟨emptied, cleared, rfl⟩, left, _, ⟨rest, rfl⟩,
        content, _, ⟨whole, rfl⟩, files, filled, rfl⟩, _, rfl⟩ := done
      exact ⟨file, archive, entry, index, data, left, content, emptied, found, read, row, opened,
        cleared, rest, whole, filled⟩

theorem extract_whole (reader : Reader) (path target : Path) (name : String)
    (session after : Session) (size : Nat)
    (apart : ∀ emptied file, session.files.write target [] = .ok emptied →
      session.files.read path = .ok file → emptied.read path = .ok file)
    (done : (extract path name target reader).perform session = (.ok size, after)) :
    ∃ file archive entry index content emptied,
      session.files.read path = .ok file ∧ Zip.readWith reader.decoders file = .ok archive ∧
      findEntry? archive name = some (entry, index) ∧
      archive.contentAt copyWindow index entry = .ok content ∧
      session.files.write target [] = .ok emptied ∧
      emptied.write target content = .ok after.files := by
  obtain ⟨file, archive, entry, index, data, left, content, emptied, found, read, row, opened,
    cleared, rest, whole, filled⟩ := extract_ok reader path target name session after size done
  have same : left = archive.file := by
    rw [apart emptied file cleared found] at rest
    rw [(read_given _ _ _ read).1]
    exact (Except.ok.inj rest).symm
  rw [same, dataAfter_same reader archive entry data (openEntry_suffix _ _ _ _ opened)] at whole
  exact ⟨file, archive, entry, index, content, emptied, found, read, row,
    Checked.bind_eq_ok.mpr ⟨data, opened, whole⟩, cleared, filled⟩

theorem extract_apart (reader : Reader) (path target : Path) (name : String)
    (session after : Session) (size : Nat)
    (apart : ∀ emptied file, session.files.write target [] = .ok emptied →
      session.files.read path = .ok file → emptied.read path = .ok file)
    (done : (extract path name target reader).perform session = (.ok size, after)) :
    ∃ file archive content emptied,
      session.files.read path = .ok file ∧ Zip.readWith reader.decoders file = .ok archive ∧
      LastContent archive name content ∧ session.files.write target [] = .ok emptied ∧
      emptied.write target content = .ok after.files := by
  obtain ⟨file, archive, entry, index, content, emptied, found, read, row, whole, cleared, filled⟩ :=
    extract_whole reader path target name session after size apart done
  obtain ⟨there, named, last⟩ := findEntry_last archive name entry index row
  exact ⟨file, archive, content, emptied, found, read, ⟨entry, index, there, named, last, whole⟩,
    cleared, filled⟩

theorem rebuiltArchive_ok (decoders : Decoders) (deflate : Bytes → Bytes) (source output : Path)
    (change : Replacement) (session after : Session) (rebuilt : Rebuilt)
    (done : (rebuiltArchive decoders deflate source change output).perform session =
      (.ok rebuilt, after)) :
    ∃ file archive emptied filled,
      session.files.read source = .ok file ∧ Zip.readWith decoders file = .ok archive ∧
      rebuild deflate archive change = .ok rebuilt ∧
      session.files.write output [] = .ok emptied ∧
      emptied.write output rebuilt.bytes = .ok filled ∧
      after = { session with files := filled } := by
  simp only [rebuiltArchive, bind_eq_ok, readArchive_eq_ok, change_eq_ok, ask_eq_ok] at done
  obtain ⟨archive, _, ⟨file, found, read, rfl⟩, _, _, ⟨emptied, cleared, rfl⟩, left, _,
    ⟨rest, rfl⟩, done⟩ := done
  cases outcome : rebuild deflate { archive with file := left } change with
  | error fault =>
      rw [outcome] at done
      cases fault with
      | fault _ => exact absurd done (throw_ne_ok _ _ _ _)
      | excess _ => exact absurd done (throw_ne_ok _ _ _ _)
  | ok made =>
      simp only [outcome, bind_eq_ok, change_eq_ok, pure_eq_ok] at done
      obtain ⟨_, _, ⟨filled, written, rfl⟩, rfl, rfl⟩ := done
      refine ⟨file, archive, emptied, filled, found, read, ?_, cleared, written, rfl⟩
      have whole : archive.file = file := (read_given _ _ _ read).1
      rcases Files.read_written _ emptied source output file [] found cleared with kept | none
      · cases rest.symm.trans kept
        rw [← whole] at outcome
        exact outcome
      · cases rest.symm.trans none
        exact rebuild_emptied deflate archive change made outcome

theorem rebuildFile_ok (decoders : Decoders) (deflate : Bytes → Bytes) (source output : Path)
    (name : String) (content : Bytes) (alignment : Int) (session after : Session)
    (rebuilt : Rebuilt)
    (done : (rebuildFile deflate source name content output alignment decoders).perform session =
      (.ok rebuilt, after)) :
    ∃ file archive emptied,
      session.files.read source = .ok file ∧ Zip.readWith decoders file = .ok archive ∧
      rebuild deflate archive { name, content, alignment, clock := session.clock } = .ok rebuilt ∧
      session.files.write output [] = .ok emptied ∧
      emptied.write output rebuilt.bytes = .ok after.files := by
  simp only [rebuildFile, info, bind_eq_ok, rewording_eq_ok, get_eq_ok, log_eq_ok, fileSize_eq_ok,
    pure_eq_ok] at done
  obtain ⟨_, _, ⟨rfl, rfl⟩, made, _, ran, _, _, rfl, _, _, ⟨_, rfl⟩, _, _, rfl, rfl, rfl⟩ := done
  obtain ⟨file, archive, emptied, filled, found, read, outcome, cleared, written, rfl⟩ :=
    rebuiltArchive_ok decoders deflate source output _ session _ made ran
  exact ⟨file, archive, emptied, found, read, outcome, cleared, written⟩

/-- A rebuilt archive consists of the other entries of its source, in their order and with their
contents, and then of the new entry. -/
theorem rebuildFile_consists (decoders : Decoders) (deflate : Bytes → Bytes) (source output : Path)
    (name : String) (content : Bytes) (alignment : Int) (session after : Session)
    (rebuilt : Rebuilt) (inverts : Deflate.Inverts deflate) (free : NulFree name)
    (done : (rebuildFile deflate source name content output alignment decoders).perform session =
      (.ok rebuilt, after)) :
    ∃ file archive others,
      session.files.read source = .ok file ∧ Zip.readWith decoders file = .ok archive ∧
      Others archive name others ∧ name ∉ others.map Prod.fst ∧
      after.files.read output = .ok rebuilt.bytes ∧
      Consists rebuilt.bytes (others ++ [(name, content)]) ∧
      rebuilt.written = others.map Prod.fst ++ [name] ∧
      rebuilt.dropped =
        archive.names.filter (fun entry => entry ≠ name && isSigningMetadata entry) ∧
      (rebuilt.replacedExisting = true ↔ name ∈ archive.names) := by
  obtain ⟨file, archive, emptied, found, read, outcome, _, written⟩ :=
    rebuildFile_ok decoders deflate source output name content alignment session after rebuilt done
  obtain ⟨kept, last, rewritten⟩ := (rebuild_eq_ok ..).mp outcome
  refine ⟨file, archive, kept.map member, found, read, rewritten.members, rewritten.members.apart,
    Files.write_read emptied _ output _ written, rewritten.consists inverts free, ?_,
    rewritten.signing, rewritten.existing⟩
  rw [rewritten.written, List.map_append, List.map_map]
  exact congrArg _ (congrArg (fun found => [Prod.fst found]) (rewritten.final free))

def greeting : Bytes := Bytes.ofText "hello hello hello hello"

def packedGreeting : Bytes := [203, 72, 205, 201, 201, 87, 200, 64, 39, 1]

theorem greeting_inverts : Deflate.Inverts (Deflate.packing greeting packedGreeting) :=
  Deflate.inverts_packing greeting packedGreeting (by decide +kernel)

/-- An entry as an archive that is to be rebuilt may have it. -/
def givenEntry (name : String) (method : Method) (content data : Bytes) (offset : Nat) : Placed :=
  { name, method, data, offset, flags := 0, stamp := Stamp.earliest, attributes := 0,
    crc := Crc32.checksum content, size := content.length, padding := 0, padded := false }

def givenSession : Session where
  files := ⟨[(["in.apk"], .file (archiveBytes [
    givenEntry "b" .deflated greeting packedGreeting 0,
    givenEntry "META-INF/MANIFEST.MF" .stored [] [] 41,
    givenEntry "a" .stored [1] [1] 91,
    givenEntry "b" .stored [2] [2] 123,
    givenEntry "a" .stored [3] [3] 155]) Files.newFileMode)], []⟩
  journal := []
  clock := Stamp.earliest
  environment := []
  temporary := ⟨1, ["tmp"]⟩

theorem rebuildFile_given :
    Deflate.Inverts (Deflate.packing greeting packedGreeting) ∧ NulFree "a" ∧
      ∃ rebuilt after others,
        (rebuildFile (Deflate.packing greeting packedGreeting) ⟨0, ["in.apk"]⟩ "a" [9]
          ⟨0, ["out.apk"]⟩ 4).perform givenSession = (.ok rebuilt, after) ∧
        rebuilt.written = ["b", "b", "a"] ∧ after.files.read ⟨0, ["out.apk"]⟩ = .ok rebuilt.bytes ∧
        Consists rebuilt.bytes (others ++ [("a", [9])]) := by
  have free : NulFree "a" := by decide
  have works : ((rebuildFile (Deflate.packing greeting packedGreeting) ⟨0, ["in.apk"]⟩ "a" [9]
      ⟨0, ["out.apk"]⟩ 4).perform givenSession).1.toOption.map Rebuilt.written =
        some ["b", "b", "a"] := by
    decide +kernel
  rcases done : (rebuildFile (Deflate.packing greeting packedGreeting) ⟨0, ["in.apk"]⟩ "a" [9]
    ⟨0, ["out.apk"]⟩ 4).perform givenSession with ⟨fault | rebuilt, after⟩
  · rw [done] at works
    cases works
  · rw [done] at works
    injection works with names
    obtain ⟨_, _, others, _, _, _, _, read, consists, _⟩ :=
      rebuildFile_consists noDecoders _ _ _ _ _ _ _ _ _ greeting_inverts free done
    exact ⟨greeting_inverts, free, rebuilt, after, others, rfl, names, read, consists⟩

end DexGraft.Apk

