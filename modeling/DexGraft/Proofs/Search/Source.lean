import DexGraft.Proofs.Files.Destination
import DexGraft.Proofs.Search.InTree
import DexGraft.Proofs.Search.Inside
import DexGraft.Proofs.Search.Signing

/-!
The archive that a run is given. All work is done in the run's own directory, where
nothing stood before; outside it the signer writes to the output, and the unsigned
archive may be kept beside the output. Only this last file can come to lie where the
given archive is.
-/
namespace DexGraft.Search

open Files DexGraft.Action

structure Stays (here place : Place) (node : Node) (files : Files) : Prop where
  here : files.here = here
  there : files.node? place = some node

section

variable {here place : Place} {node : Node}

theorem Stays.outside {files after : Files} {base : Place} (stays : Stays here place node files)
    (same : SameOutside base files after) (apart : ¬base <+: place) :
    Stays here place node after :=
  ⟨same.here.trans stays.here, (same.rest place apart).trans stays.there⟩

theorem write_stays (path : Path) (content : Bytes)
    (apart : destination here path ≠ place) :
    Keeps (fun session => Stays here place node session.files) (fun _ => True)
      (change fun files => files.write path content) :=
  keeps_change (fun _ => trivial) fun session files stays done => by
    obtain ⟨spot, mode, reached, open_, rfl⟩ := write_ok _ _ _ _ done
    have spotted := resolve_destination _ _ _ reached
    rw [stays.here] at spotted
    refine ⟨(here_put ..).trans stays.here, ?_⟩
    rw [node_put _ _ _ _ (named_of_open _ _ open_), if_neg, stays.there]
    rintro rfl
    exact apart spotted.symm

/-- The unsigned archive was kept, and its name beside the output leads to the place. -/
def KeptOver (pipeline : Pipeline) (here place : Place) (output : Path) (kept? : Option Path) :
    Prop :=
  ∃ kept, kept? = some kept ∧ pipeline.keepUnsigned = true ∧
    output.withName? (unsignedName output) = some kept ∧ destination here kept = place

theorem copyFile_refused (source target : Path) (session after : Session) (fault : Fault)
    (done : (copyFile source target).perform session = (.error fault, after)) :
    after = session := by
  rw [copyFile, perform_bind, perform_ask] at done
  cases read : session.files.read source with
  | error cause =>
      rw [read] at done
      cases done
      rfl
  | ok content =>
      simp only [read, Except.mapError, perform_change] at done
      cases written : session.files.write target content with
      | error cause =>
          rw [written] at done
          cases done
          rfl
      | ok files =>
          rw [written] at done
          cases done

theorem keep_stays (pipeline : Pipeline) (unsigned output : Path) (session after : Session)
    (result : Except Fault (Option Path)) (quiet : Quiet pipeline.setting.progress)
    (stays : Stays here place node session.files)
    (done : (keep pipeline unsigned output).perform session = (result, after)) :
    Stays here place node after.files ∨
      ∃ kept?, result = .ok kept? ∧ KeptOver pipeline here place output kept? := by
  have tolerant : Tolerant pipeline.setting (fun session => Stays here place node session.files)
      (fun _ => True) := tolerant_files _ quiet
  unfold keep at done
  cases wanted : pipeline.keepUnsigned with
  | false =>
      rw [wanted] at done
      cases done
      exact Or.inl stays
  | true =>
      cases named : output.withName? (unsignedName output) with
      | none =>
          rw [wanted, named] at done
          cases done
          exact Or.inl stays
      | some target =>
          simp only [wanted, named, Bool.not_true, Bool.false_eq_true, if_false, perform_bind,
            perform_tryCatch] at done
          rcases copied : (copyFile unsigned target).perform session with ⟨fault | _, copy⟩
          · obtain rfl := copyFile_refused _ _ _ _ _ copied
            simp only [copied] at done
            -- The user is warned of a refusal, and any other fault goes on.
            cases fault with
            | cause cause =>
                cases refusal : cause.isRefusal <;>
                  simp only [refusal] at done <;> cases done <;> exact Or.inl stays
            | _ =>
                cases done
                exact Or.inl stays
          · simp only [copied, perform_pure] at done
            by_cases covers : destination here target = place
            · cases done
              exact Or.inr ⟨_, rfl, target, rfl, wanted, named, covers⟩
            · have copying : Keeps (fun session => Stays here place node session.files)
                  (fun _ => True) (copyFile unsigned target) :=
                keeps_bind (keeps_ask fun _ => trivial) fun content =>
                  write_stays target content covers
              have held := copying.after _ _ _ stays copied
              cases done
              exact Or.inl held

theorem WritesFile.keeps {action : Action Unit} {output : Path} (only : WritesFile action output)
    (apart : destination here output ≠ place) :
    Keeps (fun session => Stays here place node session.files) (fun _ => True) action := by
  refine .of_perform fun session stays => ⟨⟨(only.here session).trans stays.here, ?_⟩,
    fun _ _ => trivial⟩
  rw [only.rest session place fun spot reached same => ?_, stays.there]
  have spotted := resolve_destination _ _ _ reached
  rw [stays.here, ← same] at spotted
  exact apart spotted.symm

theorem signed_stays (pipeline : Pipeline) (unsigned output : Path) (entry : String)
    (material : List Signer) (session after : Session) (result : Except Fault Conclusion)
    (quiet : Quiet pipeline.setting.progress)
    (only : WritesFile (pipeline.setting.toolbox.sign unsigned output material pipeline.minSdk)
      output) (apart : destination here output ≠ place)
    (stays : Stays here place node session.files)
    (done : (signed pipeline unsigned output entry material).perform session = (result, after)) :
    Stays here place node after.files ∨ ∃ conclusion, result = .ok conclusion ∧
      ∀ attempts, KeptOver pipeline here place output
        (Report.unsignedOutput? ⟨conclusion, attempts⟩) := by
  have tolerant : Tolerant pipeline.setting (fun session => Stays here place node session.files)
      (fun _ => True) := tolerant_files _ quiet
  have recording : ∀ event, Keeps (fun session => Stays here place node session.files)
      (fun _ => True) (record event) := fun event => keeps_record_files event
  have answering : ∀ handler : Fault → Action (Option String),
      (∀ fault, Keeps (fun session => Stays here place node session.files) (fun _ => True)
        (handler fault)) →
      Keeps (fun session => Stays here place node session.files) (fun _ => True)
        (tryCatch (do
          pipeline.setting.toolbox.sign unsigned output material pipeline.minSdk
          return none) handler) :=
    fun handler handled => keeps_tryCatch (keeps_bind (only.keeps apart) fun _ => keeps_pure _)
      fun fault _ => handled fault
  unfold signed at done
  refine (tolerant.told _).bind_or _ _ _ stays done fun _ _ stays done => ?_
  refine (recording _).bind_or _ _ _ stays done fun _ _ stays done => ?_
  refine (answering _ fun fault => ?_).bind_or _ _ _ stays done fun refusal? _ stays done => ?_
  · split
    · exact keeps_pure _
    · exact keeps_throw trivial
  cases refusal? with
  | none =>
      refine (tolerant.logged _ _).bind_or _ _ _ stays done fun _ _ stays done => ?_
      refine (tolerant.told _).bind_or _ _ _ stays done fun _ _ stays done => ?_
      cases done
      exact Or.inl stays
  | some text =>
      refine (tolerant.logged _ _).bind_or _ _ _ stays done fun _ _ stays done => ?_
      refine (tolerant.told _).bind_or _ _ _ stays done fun _ shown stays done => ?_
      rw [perform_bind] at done
      rcases keeping : (keep pipeline unsigned output).perform shown with ⟨fault | kept?, kept⟩
      all_goals
        rw [keeping] at done
        cases done
        rcases keep_stays pipeline unsigned output shown _ _ quiet stays keeping with
          held | ⟨kept?, same, covers⟩
      · exact Or.inl held
      · cases same
      · exact Or.inl held
      · cases same
        exact Or.inr ⟨_, rfl, fun _ => covers⟩

theorem concluded_stays (pipeline : Pipeline) (archive output : Path) (material : List Signer)
    (attempts : List Attempt) (winner : Option Attempt) (session after : Session)
    (result : Except Fault Conclusion) {begun : Files} {root : Path} {rootPlace : Place}
    (quiet : Quiet pipeline.setting.progress) (site : Site begun root rootPlace)
    (only : ∀ unsigned, WritesFile
      (pipeline.setting.toolbox.sign unsigned output material pipeline.minSdk) output)
    (apart : destination here output ≠ place) (beside : ¬rootPlace <+: place)
    (stays : Stays here place node begun) (underway : Underway begun rootPlace session.files)
    (done : (concluded pipeline root archive output material attempts winner).perform session =
      (result, after)) :
    Stays here place node after.files ∨ ∃ conclusion, result = .ok conclusion ∧
      ∀ attempts, KeptOver pipeline here place output
        (Report.unsignedOutput? ⟨conclusion, attempts⟩) := by
  have tolerant : Tolerant pipeline.setting
      (fun session => Underway begun rootPlace session.files) (fun _ => True) :=
    tolerant_files _ quiet
  have staying : ∀ files, Underway begun rootPlace files → Stays here place node files :=
    fun files underway => stays.outside underway.outside beside
  cases concluded_onward root archive output material attempts winner session after result quiet
    tolerant underway ((underway_held site _ unsigned_plain).write fun _ => trivial) done with
  | lost held _ _ => exact Or.inl (staying _ held)
  | broken _ held _ => exact Or.inl (staying _ held)
  | signing image _ _ ready _ _ _ _ underway signing =>
      exact signed_stays pipeline _ output image.entry material _ _ _ quiet (only _) apart
        (staying _ underway) signing

end

/-- A run leaves the archive that it is given as it is, however it ends. The one exception is an
unsigned archive that is kept beside the output under the given archive's own name. -/
theorem run_keeps_source (pipeline : Pipeline) (input output : Path) (material : List Signer)
    (session after : Session) (result : Except Fault Report) (place : Place) (content : Bytes)
    (mode : Nat) (orderly : Orderly pipeline.setting)
    (only : ∀ unsigned, WritesFile
      (pipeline.setting.toolbox.sign unsigned output material pipeline.minSdk) output)
    (sound : session.files.Sound) (given : session.files.resolve input = .ok place)
    (file : session.files.node? place = some (.file content mode))
    (apart : destination session.files.here output ≠ place)
    (done : (pipeline.run input output material).perform session = (result, after)) :
    after.files.node? place = some (.file content mode) ∨
      ∃ report kept, result = .ok report ∧ report.unsignedOutput? = some kept ∧
        pipeline.keepUnsigned = true ∧ output.withName? (unsignedName output) = some kept ∧
        destination session.files.here kept = place := by
  have stays : Stays session.files.here place (.file content mode) session.files := ⟨rfl, file⟩
  have tolerant : Tolerant pipeline.setting
      (fun session' : Session => Stays session.files.here place (.file content mode) session'.files)
      (fun _ => True) := tolerant_files _ orderly.progress
  -- The archive does not stand in the run's directory, since nothing stood there.
  have beside : ∀ made root rootPlace, Opened session made root rootPlace →
      ¬rootPlace <+: place := by
    rintro made root rootPlace opened ⟨more, rfl⟩
    rw [sound.nothing_under rootPlace opened.site.free more] at file
    cases file
  have cleared : ∀ made root rootPlace, Opened session made root rootPlace → ∀ stopped : Session,
      Stays session.files.here place (.file content mode) stopped.files →
        Stays session.files.here place (.file content mode) (swept root stopped).files := by
    intro made root rootPlace opened stopped stays
    have spotted := resolve_destination _ _ _ opened.site.reached
    rw [← stays.here] at spotted
    have named : rootPlace ≠ [] :=
      named_of_open session.files rootPlace (by simp [opened.site.free])
    have gone := clearTree_within stopped.files root (spotted ▸ named)
    exact stays.outside gone (spotted ▸ beside made root rootPlace opened)
  have reported : ∀ attempts fault stopped result after,
      Stays session.files.here place (.file content mode) stopped.files →
        (faulted pipeline attempts fault).perform stopped = (result, after) →
          Stays session.files.here place (.file content mode) after.files :=
    fun attempts fault stopped result after stays done =>
      (faulted_keeps pipeline attempts fault tolerant).after _ _ _ stays done
  cases run_cases pipeline input output material session after result done with
  | unmade fault result stopped after making reporting =>
      rw [making_refused pipeline session stopped fault making] at reporting
      exact Or.inl (reported _ _ _ _ _ stays reporting).there
  | unprepared root fault result made stopped after making preparing reporting =>
      obtain ⟨rootPlace, opened⟩ := making_ok pipeline session made root sound making
      have underway := prepared_underway pipeline orderly.progress input session made stopped _
        opened preparing
      have left := stays.outside underway.outside (beside made root rootPlace opened)
      exact Or.inl (reported _ _ _ _ _ (cleared made root rootPlace opened stopped left)
        reporting).there
  | unfound root images fault result made ready after making preparing broken reporting =>
      obtain ⟨rootPlace, opened⟩ := making_ok pipeline session made root sound making
      have underway := found_underway pipeline orderly input images session made ready opened
        preparing
      have left := stays.outside underway.outside (beside made root rootPlace opened)
      exact Or.inl (reported _ _ _ _ _ (cleared made root rootPlace opened _ left) reporting).there
  | unended root images winner fault result made ready stopped after making preparing finding
      concluding reporting =>
      obtain ⟨rootPlace, opened⟩ := making_ok pipeline session made root sound making
      have underway := found_underway pipeline orderly input images session made ready opened
        preparing
      rcases concluded_stays pipeline _ output material _ winner _ _ _ orderly.progress opened.site
        only apart (beside made root rootPlace opened) stays underway concluding with
        left | ⟨conclusion, same, _⟩
      · exact Or.inl (reported _ _ _ _ _ (cleared made root rootPlace opened stopped left)
          reporting).there
      · cases same
  | ended root images winner conclusion made ready closing making preparing finding concluding =>
      obtain ⟨rootPlace, opened⟩ := making_ok pipeline session made root sound making
      have underway := found_underway pipeline orderly input images session made ready opened
        preparing
      rcases concluded_stays pipeline _ output material _ winner _ _ _ orderly.progress opened.site
        only apart (beside made root rootPlace opened) stays underway concluding with
        left | ⟨conclusion, same, covers⟩
      · exact Or.inl (cleared made root rootPlace opened closing left).there
      · cases same
        obtain ⟨kept, named, wanted, given, there⟩ :=
          covers (pipeline.found root ready images).attempts
        exact Or.inr ⟨_, kept, rfl, named, wanted, given, there⟩

theorem givenPipeline_orderly : Orderly givenPipeline.setting :=
  ⟨rfl, fun _ _ => rfl, plainTools_confined,
    staysInside_of_descends (by decide +kernel)⟩

theorem run_keeps_source_given :
    Orderly givenPipeline.setting ∧
      (∀ unsigned, WritesFile
        (givenPipeline.setting.toolbox.sign unsigned ⟨0, ["out.apk"]⟩ [] givenPipeline.minSdk)
        ⟨0, ["out.apk"]⟩) ∧
      givenSession.files.Sound ∧ givenSession.files.resolve ⟨0, ["in.apk"]⟩ = .ok ["in.apk"] ∧
      ∃ result after,
        (givenPipeline.run ⟨0, ["in.apk"]⟩ ⟨0, ["out.apk"]⟩ []).perform givenSession =
          (result, after) ∧
        after.files.node? ["in.apk"] = some (.file givenArchive newFileMode) := by
  have only : ∀ unsigned, WritesFile
      (givenPipeline.setting.toolbox.sign unsigned ⟨0, ["out.apk"]⟩ [] givenPipeline.minSdk)
      ⟨0, ["out.apk"]⟩ := fun _ => ⟨fun _ => rfl, fun _ _ _ => rfl⟩
  have leads : givenSession.files.resolve ⟨0, ["in.apk"]⟩ = .ok ["in.apk"] := rfl
  rcases done : (givenPipeline.run ⟨0, ["in.apk"]⟩ ⟨0, ["out.apk"]⟩ []).perform givenSession with
    ⟨result, after⟩
  refine ⟨givenPipeline_orderly, only, givenSession_sound, leads, result, after, rfl, ?_⟩
  rcases run_keeps_source givenPipeline _ ⟨0, ["out.apk"]⟩ [] _ _ _ _ givenArchive newFileMode
      givenPipeline_orderly only givenSession_sound leads rfl (by decide) done with
    same | ⟨_, _, _, _, wanted, _⟩
  · exact same
  · cases wanted

def keepingSession : Session :=
  { givenSession with
    files := ⟨[(["tmp"], .directory),
      (["out.unsigned.apk"], .file givenArchive newFileMode)], []⟩ }

/-- An archive that has the name under which the unsigned one is kept is lost. -/
theorem run_loses_source :
    Orderly keepingPipeline.setting ∧
      (∀ unsigned, WritesFile
        (keepingPipeline.setting.toolbox.sign unsigned ⟨0, ["out.apk"]⟩ [] keepingPipeline.minSdk)
        ⟨0, ["out.apk"]⟩) ∧
      keepingSession.files.read ⟨0, ["out.unsigned.apk"]⟩ = .ok givenArchive ∧
      destination keepingSession.files.here ⟨0, ["out.apk"]⟩ ≠ ["out.unsigned.apk"] ∧
      ((keepingPipeline.run ⟨0, ["out.unsigned.apk"]⟩ ⟨0, ["out.apk"]⟩ []).perform
        keepingSession).2.files.read ⟨0, ["out.unsigned.apk"]⟩ ≠ .ok givenArchive := by
  have orderly : Orderly keepingPipeline.setting :=
    ⟨rfl, fun _ _ => rfl, ⟨plainTools_confined.disassemble, plainTools_confined.assemble⟩,
      givenPipeline_orderly.target⟩
  have lost : (((keepingPipeline.run ⟨0, ["out.unsigned.apk"]⟩ ⟨0, ["out.apk"]⟩ []).perform
      keepingSession).2.files.read ⟨0, ["out.unsigned.apk"]⟩).toOption ≠ some givenArchive := by
    decide +kernel
  refine ⟨orderly, fun _ => ⟨fun _ => rfl, fun _ _ _ => rfl⟩, rfl, by decide, fun same => lost ?_⟩
  rw [same]
  rfl

end DexGraft.Search
