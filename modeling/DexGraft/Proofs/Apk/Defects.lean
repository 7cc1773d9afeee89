import DexGraft.Proofs.Apk.Archive
import DexGraft.Proofs.Zip.Defects

/-!
How archives that cannot be read are reported. A contradiction in the bytes, and a
place before the start of the file, are told in the program's own words; a fault of
the reader that no handler expects, or of a decoder, reaches the caller as it is.
An archive that is extracted or rebuilt over itself is emptied before its entries
are read, so what is met in it is met in the file as it then is.
-/
namespace DexGraft.Apk

open Zip Checked DexGraft.Action

/-- How what was met in an archive is answered: whatever can be read is read, a foreign fault is
passed on, and anything else is told in the program's own words. -/
def Worded {Found Answer : Type} (foreign : Zip.Fault → Bool) (met : Except WriteFault Found)
    (result : Except Fault Answer) : Prop :=
  match met with
  | .ok _ => ∃ answer, result = .ok answer
  | .error (.fault fault) =>
      if foreign fault then result = .error (.cause (.zip fault))
      else ∃ io, result = .error (.io io)
  | .error (.excess _) => ∃ io, result = .error (.io io)

def Unwritable {Answer : Type} (files : Files) (target : Path) (words : Cause → IoFault)
    (result : Except Fault Answer) : Prop :=
  ∃ cause, files.write target [] = .error cause ∧
    result = .error (reworded isUnreadable (fun cause => .io (words cause)) (.cause cause))

/-- What is left in an archive's file when the target has been emptied, if that can be done. -/
def leftIn (files : Files) (path target : Path) (file : Bytes) : Bytes :=
  match files.write target [] with
  | .ok emptied => (emptied.read path).toOption.getD []
  | .error _ => file

def opened (decoders : Decoders) (file : Bytes) : Except WriteFault Archive :=
  (Zip.readWith decoders file).mapError .fault

/-- The content of an entry that is opened before the file changes and unpacked after. -/
def contentLeft (reader : Reader) (archive : Archive) (index : Nat) (entry : Entry) (left : Bytes) :
    Except Zip.Fault Bytes := do
  let data ← archive.openEntry index entry
  archive.contentOf copyWindow entry (reader.dataAfter archive entry data left)

def contentIn (reader : Reader) (file left : Bytes) (name : String) :
    Except WriteFault (Option Bytes) := do
  let archive ← opened reader.decoders file
  match findEntry? archive name with
  | none => return none
  | some (entry, index) => (some <$> contentLeft reader archive index entry left).mapError .fault

def rebuiltFrom (decoders : Decoders) (deflate : Bytes → Bytes) (file left : Bytes)
    (change : Replacement) : Except WriteFault Rebuilt := do
  let archive ← opened decoders file
  rebuild deflate { archive with file := left } change

theorem leftIn_emptied (files emptied : Files) (path target : Path) (file : Bytes)
    (given : files.read path = .ok file) (cleared : files.write target [] = .ok emptied) :
    emptied.read path = .ok (leftIn files path target file) := by
  rw [leftIn, cleared]
  dsimp only
  rcases Files.read_written files emptied path target file [] given cleared with same | none
  · rw [same]
    rfl
  · rw [none]
    rfl

theorem contentLeft_same (reader : Reader) (archive : Archive) (index : Nat) (entry : Entry) :
    contentLeft reader archive index entry archive.file =
      archive.contentAt copyWindow index entry := by
  unfold contentLeft Archive.contentAt
  cases header : archive.openEntry index entry with
  | error fault => rfl
  | ok data =>
      simp only [bind, Except.bind]
      rw [dataAfter_same reader archive entry data (openEntry_suffix _ _ _ _ header)]

theorem foreign_iff (fault : Zip.Fault) : fault.isForeign = !isUnreadable (.zip fault) := by
  cases fault with
  | corruptStream => rename_i codec; cases codec <;> rfl
  | _ => rfl

theorem reported_fault {Found Answer : Type} (foreign : Zip.Fault → Bool) (caught : Cause → Bool)
    (words : Cause → IoFault) (fault : Zip.Fault) (known : foreign fault = !caught (.zip fault)) :
    Worded foreign (.error (.fault fault) : Except WriteFault Found)
      (.error (reworded caught (fun cause => .io (words cause)) (.cause (.zip fault))) :
        Except Fault Answer) := by
  simp only [Worded, reworded, known]
  cases caught (.zip fault) with
  | true => exact ⟨_, rfl⟩
  | false => rfl

theorem written_again (files emptied : Files) (path : Path) (first content : Bytes)
    (written : files.write path first = .ok emptied) :
    ∃ filled, emptied.write path content = .ok filled ∧ filled.read path = .ok content := by
  obtain ⟨place, mode, reached, open_, rfl⟩ := Files.write_ok _ _ _ _ written
  have again := Files.resolve_put files path place place (.file first mode) open_ reached
  have filled : (files.put place (.file first mode)).node? place ≠ some .directory := by
    rw [Files.node_put _ _ _ _ (Files.named_of_open files place open_), if_pos rfl]
    simp
  obtain ⟨newMode, done⟩ := Files.write_of_place _ path content place again filled
  exact ⟨_, done, Files.write_read _ _ _ _ done⟩

theorem contentIn_found (reader : Reader) (file left : Bytes) (name : String) (archive : Archive)
    (entry : Entry) (index : Nat) (met : Zip.readWith reader.decoders file = .ok archive)
    (row : findEntry? archive name = some (entry, index)) :
    contentIn reader file left name =
      (some <$> contentLeft reader archive index entry left).mapError .fault := by
  simp only [contentIn, opened, met, Except.mapError, bind, Except.bind, row]

theorem contentIn_some (reader : Reader) (file : Bytes) (name : String) (content : Bytes) :
    contentIn reader file file name = .ok (some content) ↔
      ∃ archive entry index, Zip.readWith reader.decoders file = .ok archive ∧
        findEntry? archive name = some (entry, index) ∧
        archive.contentAt copyWindow index entry = .ok content := by
  have whole : ∀ archive entry index, Zip.readWith reader.decoders file = .ok archive →
      findEntry? archive name = some (entry, index) →
        contentIn reader file file name =
          (some <$> archive.contentAt copyWindow index entry).mapError .fault := by
    intro archive entry index met row
    rw [contentIn_found reader file file name archive entry index met row,
      show contentLeft reader archive index entry file = _ from
        (read_given _ _ _ met).1 ▸ contentLeft_same reader archive index entry]
  constructor
  · intro found
    cases met : Zip.readWith reader.decoders file with
    | error fault =>
        simp [contentIn, opened, met, Except.mapError, bind, Except.bind] at found
    | ok archive =>
        cases row : findEntry? archive name with
        | none =>
            simp [contentIn, opened, met, row, Except.mapError, bind, Except.bind, pure,
              Except.pure] at found
        | some there =>
            obtain ⟨entry, index⟩ := there
            refine ⟨archive, entry, index, rfl, row, ?_⟩
            rw [whole archive entry index met row] at found
            cases read : archive.contentAt copyWindow index entry with
            | error fault =>
                rw [read] at found
                cases found
            | ok content =>
                rw [read] at found
                cases found
                rfl
  · rintro ⟨archive, entry, index, met, row, read⟩
    rw [whole archive entry index met row, read]
    rfl

theorem Worded.map {Found Other Answer : Type} {foreign : Zip.Fault → Bool}
    {met : Except Zip.Fault Found} {result : Except Fault Answer}
    (reported : Worded foreign (met.mapError .fault) result) (view : Found → Other) :
    Worded foreign ((view <$> met).mapError .fault) result := by
  cases met <;> exact reported

inductive Ended (decoders : Decoders) (deflate : Bytes → Bytes) (path output : Path)
    (change : Replacement) (words : Cause → IoFault) (session : Session) (file : Bytes) :
    Except Fault Rebuilt × Session → Prop
  | done {rebuilt : Rebuilt} {after : Session}
      (met : rebuiltFrom decoders deflate file (leftIn session.files path output file) change =
        .ok rebuilt)
      (left : after.files.read output = .ok rebuilt.bytes) :
      Ended decoders deflate path output change words session file (.ok rebuilt, after)
  | refused {fault : Fault} {after : Session}
      (reported : ∀ Answer, Worded Fault.isForeign
          (rebuiltFrom decoders deflate file (leftIn session.files path output file) change)
          (.error fault : Except Fault Answer) ∨
        Unwritable session.files output words (.error fault : Except Fault Answer)) :
      Ended decoders deflate path output change words session file (.error fault, after)

theorem rebuiltArchive_reported (decoders : Decoders) (deflate : Bytes → Bytes)
    (path output : Path) (change : Replacement) (words : Cause → IoFault) (session : Session)
    (file : Bytes) (given : session.files.read path = .ok file) :
    Ended decoders deflate path output change words session file
      (((rebuiltArchive decoders deflate path change output).rewording isUnreadable fun cause =>
        .io (words cause)).perform session) := by
  rw [perform_rewording, rebuiltArchive, perform_bind,
    readArchive_perform decoders path session file given]
  cases met : Zip.readWith decoders file with
  | error fault =>
      refine Ended.refused fun _ => Or.inl ?_
      rw [rebuiltFrom, opened, met]
      exact reported_fault _ isUnreadable words fault (foreign_iff fault)
  | ok archive =>
      simp only [Except.mapError, perform_bind, perform_change]
      cases emptying : session.files.write output [] with
      | error cause => exact Ended.refused fun _ => Or.inr ⟨cause, emptying, rfl⟩
      | ok emptied =>
          have rest := leftIn_emptied session.files emptied path output file given emptying
          have remade : rebuiltFrom decoders deflate file (leftIn session.files path output file)
              change = rebuild deflate
                { archive with file := leftIn session.files path output file } change := by
            rw [rebuiltFrom, opened, met]
            rfl
          simp only [perform_ask, rest, Except.mapError]
          cases outcome : rebuild deflate
              { archive with file := leftIn session.files path output file } change with
          | error fault =>
              rw [outcome] at remade
              cases fault with
              | fault fault =>
                  refine Ended.refused fun _ => Or.inl ?_
                  rw [remade]
                  exact reported_fault _ isUnreadable words fault (foreign_iff fault)
              | excess excess =>
                  refine Ended.refused fun _ => Or.inl ?_
                  rw [remade]
                  exact ⟨_, rfl⟩
          | ok rebuilt =>
              obtain ⟨filled, written, read⟩ :=
                written_again session.files emptied output [] rebuilt.bytes emptying
              simp only [perform_bind, perform_change, written]
              exact Ended.done (remade.trans outcome) read

theorem rebuildFile_reported (decoders : Decoders) (deflate : Bytes → Bytes) (path output : Path)
    (name : String) (content : Bytes) (session : Session) (file : Bytes)
    (given : session.files.read path = .ok file) :
    let result := ((rebuildFile deflate path name content output defaultAlignment decoders).perform
      session).1
    Worded Fault.isForeign (rebuiltFrom decoders deflate file
        (leftIn session.files path output file)
        { name, content, alignment := defaultAlignment, clock := session.clock }) result ∨
      Unwritable session.files output (.rebuild path.name) result := by
  rw [rebuildFile, perform_bind_ok _ _ _ _ _ (perform_get session), perform_bind]
  have ends := rebuiltArchive_reported decoders deflate path output
    { name, content, alignment := defaultAlignment, clock := session.clock } (.rebuild path.name)
    session file given
  rcases ran : ((rebuiltArchive decoders deflate path
    { name, content, alignment := defaultAlignment, clock := session.clock } output).rewording
      isUnreadable fun cause => .io (.rebuild path.name cause)).perform session with ⟨ended, after⟩
  rw [ran] at ends
  cases ends with
  | @done rebuilt _ met left =>
      refine Or.inl ?_
      have size := fun journal => fileSize_perform output { after with journal } rebuilt.bytes left
      rw [met]
      dsimp only
      rw [info, log, perform_bind_ok _ _ _ _ _ (perform_record _ after),
        perform_bind_ok _ _ _ _ _ (size _)]
      exact ⟨rebuilt, rfl⟩
  | refused reported => exact reported _

theorem rebuildFile_done (decoders : Decoders) (deflate : Bytes → Bytes) (path output : Path)
    (name : String) (content : Bytes) (session : Session) (file : Bytes) (archive : Archive)
    (rebuilt : Rebuilt) (emptied : Files) (given : session.files.read path = .ok file)
    (read : Zip.readWith decoders file = .ok archive)
    (outcome : rebuild deflate archive
      { name, content, alignment := defaultAlignment, clock := session.clock } = .ok rebuilt)
    (clear : session.files.write output [] = .ok emptied)
    (apart : emptied.read path = .ok file) :
    ∃ after, (rebuildFile deflate path name content output defaultAlignment decoders).perform
        session = (.ok rebuilt, after) ∧ after.files.read output = .ok rebuilt.bytes := by
  have reported := rebuildFile_reported decoders deflate path output name content session file given
  have whole : leftIn session.files path output file = archive.file := by
    rw [(read_given _ _ _ read).1]
    exact Except.ok.inj ((leftIn_emptied _ _ _ _ _ given clear).symm.trans apart)
  have found : rebuiltFrom decoders deflate file (leftIn session.files path output file)
      { name, content, alignment := defaultAlignment, clock := session.clock } = .ok rebuilt := by
    rw [rebuiltFrom, opened, read, whole]
    exact outcome
  rcases ran : (rebuildFile deflate path name content output defaultAlignment decoders).perform
    session with ⟨result, after⟩
  simp only [found, ran] at reported
  obtain ⟨again, rfl⟩ | ⟨_, barred, _⟩ := reported
  · obtain ⟨_, _, emptied, given', read', outcome', _, written⟩ :=
      rebuildFile_ok decoders deflate path output name content _ session after again ran
    cases given.symm.trans given'
    cases read.symm.trans read'
    cases outcome.symm.trans outcome'
    exact ⟨after, rfl, Files.write_read emptied _ output _ written⟩
  · rw [clear] at barred
    cases barred

/-- An archive of one empty entry. Its name is one byte that begins no character, and its flags say
that the name is UTF-8. -/
def garbled : Bytes :=
  [80, 75, 3, 4, 20, 0, 0, 8, 0, 0, 0, 0, 33, 0, 0, 0, 0, 0, 0, 0, 0, 0, 0, 0, 0, 0, 1, 0, 0, 0,
    255,
    80, 75, 1, 2, 20, 0, 20, 0, 0, 8, 0, 0, 0, 0, 33, 0, 0, 0, 0, 0, 0, 0, 0, 0, 0, 0, 0, 0, 1, 0,
    0, 0, 0, 0, 0, 0, 0, 0, 0, 0, 0, 0, 0, 0, 0, 0, 255,
    80, 75, 5, 6, 0, 0, 0, 0, 1, 0, 1, 0, 47, 0, 0, 0, 31, 0, 0, 0, 0, 0]

end DexGraft.Apk
