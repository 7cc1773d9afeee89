import DexGraft.Proofs.Apk.Defects
import DexGraft.Proofs.Search.Inside
import DexGraft.Proofs.Search.Order

/-!
What a run hands to its signer. The steps up to the signer can be computed, and from there
on the run is what becomes of the signing.
-/
namespace DexGraft.Search

open Files DexGraft.Action

/-- Rebuilds the archive around the promoted image, and leaves it to be signed. -/
def rebuiltAround (pipeline : Pipeline) (root : Path) (image : Apk.Image) (promotedPath : Path) :
    Action Apk.Rebuilt := do
  let entry := image.entry
  pipeline.setting.progress s!"Updating APK with modified {entry}"
  let reading := Action.ask fun files => files.read promotedPath
  let replacement ← reading.rewording Cause.isRefusal fun cause => .io (.readPatched entry cause)
  Apk.rebuildFile pipeline.deflate (root / "input.apk") entry replacement
    (root / "unsigned_modified.apk") Apk.defaultAlignment pipeline.setting.reader.decoders

/-- What a run has come to when it comes to its signer: its directory, the image that was patched,
the attempts, the archive that was rebuilt around the image, and the session of that moment. -/
structure Handing where
  root : Path
  image : Apk.Image
  attempts : List Attempt
  handed : Bytes
  session : Session

/-- The steps of a run up to its signer. Its directory is made, the archive is prepared, the search
promotes an image, and the archive is rebuilt around it. -/
def handing? (pipeline : Pipeline) (input : Path) (session : Session) : Option Handing :=
  match (pipeline.making session).perform session with
  | (.error _, _) => none
  | (.ok root, made) =>
      match (prepared pipeline input (root / "input.apk")).perform made with
      | (.error _, _) => none
      | (.ok images, ready) =>
          let found := pipeline.found root ready images
          match found.winner with
          | .ok (some ⟨image, .promoted path⟩) =>
              match (rebuiltAround pipeline root image path).perform found.session with
              | (.error _, _) => none
              | (.ok _, after) =>
                  (after.files.read (root / "unsigned_modified.apk")).toOption.map fun handed =>
                    ⟨root, image, found.attempts, handed, after⟩
          | _ => none

def Handing.signing (handing : Handing) (pipeline : Pipeline) (output : Path)
    (material : List Signer) : Action Report := do
  let unsigned := handing.root / "unsigned_modified.apk"
  let last := signed pipeline unsigned output handing.image.entry material
  let ending ← tryCatch (Except.ok <$> last) fun fault => return .error fault
  Action.clearTree handing.root
  match ending with
  | .ok conclusion => return ⟨conclusion, handing.attempts⟩
  | .error fault => faulted pipeline handing.attempts fault

/-- What the steps of a run up to its signer have led through. -/
structure Handover (pipeline : Pipeline) (input : Path) (session : Session) (handing : Handing)
    (images : List Apk.Image) (path : Path) (rebuilt : Apk.Rebuilt) (made ready : Session) :
    Prop where
  making : (pipeline.making session).perform session = (.ok handing.root, made)
  preparing : (prepared pipeline input (handing.root / "input.apk")).perform made =
    (.ok images, ready)
  won : (pipeline.found handing.root ready images).winner =
    .ok (some ⟨handing.image, .promoted path⟩)
  attempts : (pipeline.found handing.root ready images).attempts = handing.attempts
  around : (rebuiltAround pipeline handing.root handing.image path).perform
    (pipeline.found handing.root ready images).session = (.ok rebuilt, handing.session)
  handed : handing.session.files.read (handing.root / "unsigned_modified.apk") = .ok handing.handed

theorem handing_eq_some (pipeline : Pipeline) (input : Path) (session : Session)
    (handing : Handing) :
    handing? pipeline input session = some handing ↔
      ∃ images path rebuilt made ready,
        Handover pipeline input session handing images path rebuilt made ready := by
  constructor
  · intro done
    unfold handing? at done
    split at done
    · cases done
    rename_i root made making
    split at done
    · cases done
    rename_i images ready preparing
    simp only at done
    split at done
    · rename_i image path won
      split at done
      · cases done
      rename_i rebuilt after around
      obtain ⟨handed, read, rfl⟩ := Option.map_eq_some_iff.mp done
      exact ⟨images, path, rebuilt, made, ready, making, preparing, won, rfl, around,
        Checked.ok_of_toOption read⟩
    · cases done
  · rintro ⟨images, path, rebuilt, made, ready, making, preparing, won, attempts, around, handed⟩
    simp only [handing?, making, preparing, won, around, attempts, handed]
    rfl

section

variable {pipeline : Pipeline} {root : Path} {image : Apk.Image} {path : Path}

theorem rebuiltAndSigned_perform (output : Path) (material : List Signer)
    (session handing : Session) (rebuilt : Apk.Rebuilt)
    (around : (rebuiltAround pipeline root image path).perform session = (.ok rebuilt, handing)) :
    (rebuiltAndSigned pipeline root (root / "input.apk") output image path material).perform
        session =
      (signed pipeline (root / "unsigned_modified.apk") output image.entry material).perform
        handing := by
  simp only [rebuiltAround, bind_eq_ok] at around
  obtain ⟨_, told, telling, replacement, read, reading, rebuilding⟩ := around
  rw [rebuiltAndSigned, perform_bind_ok _ _ _ _ _ telling, perform_bind_ok _ _ _ _ _ reading,
    perform_bind_ok _ _ _ _ _ rebuilding]

theorem handing_onward {input : Path} {session : Session} {handing : Handing}
    (done : handing? pipeline input session = some handing) (output : Path)
    (material : List Signer) :
    (pipeline.run input output material).perform session =
      (handing.signing pipeline output material).perform handing.session := by
  obtain ⟨images, path, rebuilt, made, ready, handover⟩ := (handing_eq_some ..).mp done
  have signing := rebuiltAndSigned_perform output material _ _ rebuilt handover.around
  rcases ran : (pipeline.run input output material).perform session with ⟨result, after⟩
  rcases run_found pipeline input output handing.root material images session made ready after
    result handover.making handover.preparing ran with
    ⟨fault, lost, _⟩ | ⟨winner, ending, closed, won, concluding, ended⟩
  · cases handover.won.symm.trans lost
  · cases handover.won.symm.trans won
    rw [concluded, signing] at concluding
    simp only [Handing.signing, perform_bind, perform_tryCatch, perform_map, concluding]
    rw [handover.attempts] at ended
    rcases ended with ⟨fault, rfl, reporting⟩ | ⟨conclusion, rfl, rfl, rfl⟩
    · exact reporting.symm
    · rfl

/-- Every run that comes to an answer of its signer has handed an archive over. -/
theorem run_hands (quiet : Quiet pipeline.setting.progress) (input output : Path)
    (material : List Signer) (session after : Session) (report : Report)
    (done : (pipeline.run input output material).perform session = (.ok report, after))
    (ended : report.isSuccess = true ∨ report.cause? = some .signingError) :
    ∃ handing, handing? pipeline input session = some handing ∧
      report.patchedEntry? = some handing.image.entry := by
  have unreported : ∀ {attempts fault stopped},
      (faulted pipeline attempts fault).perform stopped ≠ (.ok report, after) := by
    intro attempts fault stopped reporting
    obtain ⟨_, ⟨_, rfl⟩ | ⟨_, rfl⟩⟩ := faulted_ok _ _ _ _ _ _ reporting <;>
      simp [Report.isSuccess, Report.cause?] at ended
  generalize answer : (Except.ok report : Except Fault Report) = result at done
  cases run_cases pipeline input output material session after result done with
  | unmade fault result stopped after making reporting =>
      exact absurd (answer ▸ reporting) unreported
  | unprepared root fault result made stopped after making preparing reporting =>
      exact absurd (answer ▸ reporting) unreported
  | unfound root images fault result made ready after making preparing broken reporting =>
      exact absurd (answer ▸ reporting) unreported
  | unended root images winner fault result made ready stopped after making preparing finding
      concluding reporting => exact absurd (answer ▸ reporting) unreported
  | ended root images winner conclusion made ready closed making preparing finding concluding =>
      cases answer
      rcases concluded_ok _ _ _ _ _ _ _ _ _ _ concluding with rfl | ⟨image, path, rfl, signing⟩
      · simp [Report.isSuccess, Report.cause?] at ended
      · simp only [rebuiltAndSigned, bind_eq_ok] at signing
        obtain ⟨_, told, telling, replacement, read, reading, rebuilt, handing, rebuilding,
          signing⟩ := signing
        obtain ⟨_, _, _, _, _, _, _, written⟩ :=
          Apk.rebuildFile_ok _ _ _ _ _ _ _ _ _ _ rebuilding
        have there := write_read _ _ _ _ written
        have around : (rebuiltAround pipeline root image path).perform
            (pipeline.found root ready images).session = (.ok rebuilt, handing) := by
          simp only [rebuiltAround, bind_eq_ok]
          exact ⟨_, told, telling, replacement, read, reading, rebuilding⟩
        refine ⟨⟨root, image, (pipeline.found root ready images).attempts, rebuilt.bytes, handing⟩,
          (handing_eq_some ..).mpr ⟨images, path, rebuilt, made, ready, making, preparing, finding,
            rfl, around, there⟩, ?_⟩
        exact (signed_ok _ _ _ _ _ _ _ _ _ quiet there signing).patchedEntry _

theorem rebuiltAround_ok (quiet : Quiet pipeline.setting.progress) (image : Apk.Image)
    (path : Path) (session handing : Session) (rebuilt : Apk.Rebuilt)
    (done : (rebuiltAround pipeline root image path).perform session = (.ok rebuilt, handing)) :
    ∃ content file archive clock place, session.files.read path = .ok content ∧
      session.files.read (root / "input.apk") = .ok file ∧
      Zip.readWith pipeline.setting.reader.decoders file = .ok archive ∧
      Apk.rebuild pipeline.deflate archive
        ⟨image.entry, content, Apk.defaultAlignment, clock⟩ = .ok rebuilt ∧
      session.files.resolve (root / "unsigned_modified.apk") = .ok place ∧
      handing.files.read (root / "unsigned_modified.apk") = .ok rebuilt.bytes := by
  simp only [rebuiltAround, bind_eq_ok, rewording_eq_ok, ask_eq_ok] at done
  obtain ⟨_, told, telling, content, _, ⟨read, rfl⟩, rebuilding⟩ := done
  obtain ⟨file, archive, emptied, given, opened, rebuilds, clear, written⟩ :=
    Apk.rebuildFile_ok _ _ _ _ _ _ _ _ _ _ rebuilding
  have kept := quiet_ok quiet _ _ _ _ telling
  rw [kept] at read given clear
  obtain ⟨place, _, reached, _⟩ := write_ok _ _ _ _ clear
  exact ⟨content, file, archive, _, place, read, given, opened, rebuilds, reached,
    write_read _ _ _ _ written⟩

theorem rebuiltAround_done (polite : Polite pipeline.setting.progress) (image : Apk.Image)
    (path : Path) (session : Session) (content file handed : Bytes) (archive : Zip.Archive)
    (place : Place) (read : session.files.read path = .ok content)
    (given : session.files.read (root / "input.apk") = .ok file)
    (opened : Zip.readWith pipeline.setting.reader.decoders file = .ok archive)
    (rebuilds : ∀ clock, ∃ rebuilt, Apk.rebuild pipeline.deflate archive
      ⟨image.entry, content, Apk.defaultAlignment, clock⟩ = .ok rebuilt ∧ rebuilt.bytes = handed)
    (reached : session.files.resolve (root / "unsigned_modified.apk") = .ok place)
    (free : session.files.node? place = none) :
    ∃ rebuilt handing,
      (rebuiltAround pipeline root image path).perform session = (.ok rebuilt, handing) ∧
      handing.files.read (root / "unsigned_modified.apk") = .ok handed := by
  obtain ⟨told, telling, files, _⟩ :=
    polite.ran s!"Updating APK with modified {image.entry}" session
  rw [← files] at read given reached free
  obtain ⟨rebuilt, rebuilding, rfl⟩ := rebuilds told.clock
  obtain ⟨_, clear⟩ := write_of_place _ _ [] _ reached (by simp [free])
  obtain ⟨handing, ran, written⟩ := Apk.rebuildFile_done _ _ _ _ _ _ _ _ _ _ _ given opened
    rebuilding clear (read_put _ _ _ _ _ free given)
  refine ⟨rebuilt, handing, ?_, written⟩
  simp only [rebuiltAround, bind_eq_ok, rewording_eq_ok, ask_eq_ok]
  exact ⟨(), told, telling, content, told, ⟨read, rfl⟩, ran⟩

end

end DexGraft.Search
