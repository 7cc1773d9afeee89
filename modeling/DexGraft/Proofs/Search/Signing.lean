import DexGraft.Proofs.Search.Calls
import DexGraft.Proofs.Search.Course

/-!
What becomes of the outcome of a search. Without a patched image no more is called;
with one the archive is rebuilt, and only when that stands is the signer called, once.
What the signer answers is the conclusion.
-/
namespace DexGraft.Search

open Files DexGraft.Action

variable {pipeline : Pipeline} {inv : Session → Prop} {calls : List Event} {allowed : Fault → Prop}

theorem keep_aside (unsigned output : Path) :
    Keeps (fun session => session.calls = calls) (fun fault => isReported fault = false)
      (keep pipeline unsigned output) := by
  have logging : ∀ level message, Keeps (fun session => session.calls = calls)
      (fun fault => isReported fault = false) (log level message) :=
    fun level message => keeps_record fun session before => by
      rw [calls_record, before, if_neg (by simp [Event.isCall]), List.append_nil]
  have refused : ∀ cause : Cause, ∃ found, Fault.cause cause = .cause found :=
    fun cause => ⟨cause, rfl⟩
  have copying : ∀ target, Keeps (fun session => session.calls = calls)
      (fun fault => ∃ cause, fault = .cause cause) (copyFile unsigned target) :=
    fun target => keeps_bind (keeps_ask refused) fun _ =>
      keeps_change refused fun _ _ before _ => before
  unfold keep
  refine keeps_if (keeps_pure _) ?_
  split
  · exact keeps_throw rfl
  refine keeps_bind (keeps_tryCatch (keeps_bind (copying _) fun _ => keeps_pure _) ?_) fun copied =>
    keeps_if (keeps_pure _) (keeps_bind (logging ..) fun _ => keeps_pure _)
  rintro _ ⟨cause, rfl⟩
  cases refusal : cause.isRefusal with
  | true =>
      simp only [refusal, Bool.not_true, Bool.false_eq_true, if_false]
      exact keeps_bind (logging ..) fun _ => keeps_pure _
  | false =>
      simp only [refusal, Bool.not_false, if_true]
      exact keeps_bind (keeps_throw refusal) fun _ => keeps_bind (logging ..) fun _ => keeps_pure _

/-- What becomes of the unsigned archive that the signer has refused. It is kept if that is wanted
and a copy can be written beside the output. -/
inductive Keeping (pipeline : Pipeline) (unsigned output : Path) (refused closing : Files) :
    Option Path → Prop
  | unwanted (off : pipeline.keepUnsigned = false) (same : closing = refused) :
      Keeping pipeline unsigned output refused closing none
  | barred (target : Path) (cause : Cause) (wanted : pipeline.keepUnsigned = true)
      (named : output.withName? (unsignedName output) = some target)
      (failed : (refused.read unsigned >>= refused.write target) = .error cause)
      (same : closing = refused) : Keeping pipeline unsigned output refused closing none
  | copied (target : Path) (content : Bytes) (wanted : pipeline.keepUnsigned = true)
      (named : output.withName? (unsignedName output) = some target)
      (read : refused.read unsigned = .ok content)
      (written : refused.write target content = .ok closing) :
      Keeping pipeline unsigned output refused closing (some target)

theorem keep_keeping (unsigned output : Path) (session after : Session) (kept? : Option Path)
    (done : (keep pipeline unsigned output).perform session = (.ok kept?, after)) :
    Keeping pipeline unsigned output session.files after.files kept? := by
  unfold keep at done
  cases wanted : pipeline.keepUnsigned with
  | false =>
      rw [wanted] at done
      cases done
      exact .unwanted wanted rfl
  | true =>
      cases named : output.withName? (unsignedName output) with
      | none =>
          rw [wanted, named] at done
          cases done
      | some target =>
          have barred : ∀ cause, (session.files.read unsigned >>= session.files.write target) =
              .error cause → (copyFile unsigned target).perform session =
                (.error (.cause cause), session) := by
            intro cause failed
            rw [copyFile, perform_bind, perform_ask]
            cases read : session.files.read unsigned with
            | error other =>
                rw [read] at failed
                cases failed
                rfl
            | ok content =>
                rw [read] at failed
                change session.files.write target content = .error cause at failed
                simp only [Except.mapError, perform_change, failed]
          simp only [wanted, named, Bool.not_true, Bool.false_eq_true, if_false, perform_bind,
            perform_tryCatch] at done
          cases copying : session.files.read unsigned >>= session.files.write target with
          | error cause =>
              simp only [barred cause copying] at done
              -- Of a refusal the user is warned, and any other cause goes on.
              cases refusal : cause.isRefusal <;> simp only [refusal] at done <;> cases done
              exact .barred target cause wanted named copying rfl
          | ok files =>
              obtain ⟨content, read, written⟩ := Checked.bind_eq_ok.mp copying
              have copied : (copyFile unsigned target).perform session =
                  (.ok (), { session with files }) := by
                simp only [copyFile, bind_eq_ok, ask_eq_ok, change_eq_ok]
                exact ⟨content, session, ⟨read, rfl⟩, files, written, rfl⟩
              simp only [copied, perform_pure] at done
              cases done
              exact .copied target content wanted named read written

/-- The pipeline with a signer that refuses, where unsigned archives are kept. -/
def keepingPipeline : Pipeline :=
  { givenPipeline with
    setting := { givenPipeline.setting with
      toolbox := { plainTools with sign := fun _ _ _ _ => throw (.signing "refused") } }
    keepUnsigned := true }

/-- What is concluded from the signer's answer, and what is done about the unsigned archive. -/
inductive Concluded (pipeline : Pipeline) (unsigned output : Path) (entry : String)
    (left closing : Files) : Except Fault Unit → Except Fault Conclusion → Prop
  | signed (same : closing = left) :
      Concluded pipeline unsigned output entry left closing (.ok ()) (.ok (.signed output entry))
  | refused (text : String) (kept? : Option Path)
      (keeping : Keeping pipeline unsigned output left closing kept?) :
      Concluded pipeline unsigned output entry left closing (.error (.signing text))
        (.ok (.unsigned (.signing text) entry kept?))
  | unkept (text : String) (fault : Fault) (unreported : isReported fault = false) :
      Concluded pipeline unsigned output entry left closing (.error (.signing text)) (.error fault)
  | broken (fault : Fault) (other : ∀ text, fault ≠ .signing text) :
      Concluded pipeline unsigned output entry left closing (.error fault) (.error fault)

theorem signed_concluded (unsigned output : Path) (entry : String) (material : List Signer)
    (session after : Session) (result : Except Fault Conclusion)
    (polite : Polite pipeline.setting.progress) (discreet : Discreet pipeline.setting.toolbox)
    (done : (signed pipeline unsigned output entry material).perform session = (result, after)) :
    after.calls = session.calls ++ [.signed unsigned output material pipeline.minSdk] ∧
      ∃ answer calling left,
        (pipeline.setting.toolbox.sign unsigned output material pipeline.minSdk).perform calling =
          (answer, left) ∧ calling.files = session.files ∧
        Concluded pipeline unsigned output entry left.files after.files answer result := by
  obtain ⟨told, files, calls, done⟩ := polite.bind _ _ _ _ _ done
  rw [perform_bind_ok _ _ _ _ _ (perform_record _ _), perform_bind, perform_tryCatch,
    perform_bind] at done
  have uncalled := discreet.sign unsigned output material pipeline.minSdk
    { told with journal := told.journal ++ [.signed unsigned output material pipeline.minSdk] }
  rw [calls_record, calls] at uncalled
  rcases run : (pipeline.setting.toolbox.sign unsigned output material pipeline.minSdk).perform
    { told with journal := told.journal ++ [.signed unsigned output material pipeline.minSdk] } with
    ⟨fault | _, left⟩
  all_goals simp only [run] at done uncalled
  · cases fault with
    | signing text =>
        simp only [perform_pure] at done
        rw [perform_bind_ok _ _ _ _ _ (perform_log ..)] at done
        obtain ⟨shown, still, unheard, done⟩ := polite.bind _ _ _ _ _ done
        rw [calls_record, if_neg (by simp [Event.isCall]), List.append_nil, uncalled] at unheard
        rw [perform_bind] at done
        rcases keeping : (keep pipeline unsigned output).perform shown with ⟨fault | kept?, kept⟩
        all_goals
          rw [keeping] at done
          cases done
          have aside := (keep_aside unsigned output).after _ _ _ unheard keeping
        · exact ⟨aside, _, _, _, run, files, .unkept text fault
            ((keep_aside unsigned output).broken _ _ _ unheard keeping)⟩
        · have kept := keep_keeping _ _ _ _ _ keeping
          rw [still] at kept
          exact ⟨aside, _, _, _, run, files, .refused text kept? kept⟩
    | _ =>
        cases done
        exact ⟨uncalled, _, _, _, run, files, .broken _ (by simp)⟩
  · simp only [perform_pure] at done
    rw [perform_bind_ok _ _ _ _ _ (perform_log ..)] at done
    obtain ⟨shown, still, unheard, done⟩ := polite.bind _ _ _ _ _ done
    cases done
    rw [calls_record, if_neg (by simp [Event.isCall]), List.append_nil, uncalled] at unheard
    exact ⟨unheard, _, _, _, run, files, .signed still⟩

def Rebuilt (pipeline : Pipeline) (root archive : Path) (image : Apk.Image) (content : Bytes)
    (session ready : Session) : Prop :=
  ∃ file zip clock rebuilt, session.files.read archive = .ok file ∧
    Zip.readWith pipeline.setting.reader.decoders file = .ok zip ∧
    Apk.rebuild pipeline.deflate zip ⟨image.entry, content, Apk.defaultAlignment, clock⟩ =
      .ok rebuilt ∧
    ready.files.read (root / "unsigned_modified.apk") = .ok rebuilt.bytes

/-- How a run goes on from its search. Either nothing was found, or something breaks on the way to
the signer, or the archive is rebuilt around the winner and signed. -/
inductive Onward (pipeline : Pipeline) (root archive output : Path) (material : List Signer)
    (inv : Session → Prop) (allowed : Fault → Prop) (winner : Option Attempt)
    (session after : Session) : Except Fault Conclusion → Prop
  | lost (stays : inv after) (same : after.files = session.files)
      (unpatched : ∀ image path, winner ≠ some ⟨image, .promoted path⟩) :
      Onward pipeline root archive output material inv allowed winner session after (.ok .notFound)
  | broken (fault : Fault) (stays : inv after) (known : allowed fault) :
      Onward pipeline root archive output material inv allowed winner session after (.error fault)
  | signing (image : Apk.Image) (path : Path) (content : Bytes) (ready : Session)
      (result : Except Fault Conclusion) (won : winner = some ⟨image, .promoted path⟩)
      (found : session.files.read path = .ok content)
      (rebuilt : Rebuilt pipeline root archive image content session ready) (holds : inv ready)
      (run : (signed pipeline (root / "unsigned_modified.apk") output image.entry material).perform
        ready = (result, after)) :
      Onward pipeline root archive output material inv allowed winner session after result

theorem concluded_onward (root archive output : Path) (material : List Signer)
    (attempts : List Attempt) (winner : Option Attempt) (session after : Session)
    (result : Except Fault Conclusion) (quiet : Quiet pipeline.setting.progress)
    (tolerant : Tolerant pipeline.setting inv allowed) (before : inv session)
    (filled : ∀ content, Keeps inv allowed
      (change fun files => files.write (root / "unsigned_modified.apk") content))
    (done : (concluded pipeline root archive output material attempts winner).perform session =
      (result, after)) :
    Onward pipeline root archive output material inv allowed winner session after result := by
  unfold concluded at done
  split at done
  · rename_i image path
    have telling := tolerant.told s!"Updating APK with modified {image.entry}"
    obtain ⟨fault, rfl, broken, left⟩ | ⟨_, told, shown, before', done⟩ :=
      telling.bind_cases _ _ _ before done
    · exact .broken fault left (telling.broken _ _ _ before broken)
    have files := quiet_ok quiet _ _ _ _ shown
    have reading : Keeps inv allowed ((ask fun files => files.read path).rewording
        Cause.isRefusal fun cause => .io (.readPatched image.entry cause)) :=
      keeps_rewording (keeps_ask tolerant.cause) fun _ => tolerant.io _
    obtain ⟨fault, rfl, broken, left⟩ | ⟨content, read, found, before', done⟩ :=
      reading.bind_cases _ _ _ before' done
    · exact .broken fault left (reading.broken _ _ _ before' broken)
    obtain ⟨there, rfl⟩ := (ask_eq_ok ..).mp ((rewording_eq_ok ..).mp found)
    have rebuilding := rebuildFile_keeps tolerant pipeline.setting.reader.decoders pipeline.deflate
      archive (root / "unsigned_modified.apk") image.entry content Apk.defaultAlignment filled
    obtain ⟨fault, rfl, broken, left⟩ | ⟨rebuilt, ready, rebuilding', before'', done⟩ :=
      rebuilding.bind_cases _ _ _ before' done
    · exact .broken fault left (rebuilding.broken _ _ _ before' broken)
    obtain ⟨file, zip, _, read, opened, made, _, written⟩ :=
      Apk.rebuildFile_ok _ _ _ _ _ _ _ _ _ _ rebuilding'
    rw [files] at there read
    exact .signing image path content ready result rfl there
      ⟨file, zip, _, rebuilt, read, opened, made, write_read _ _ _ _ written⟩ before'' done
  · rename_i other
    obtain ⟨_, _, broken, _⟩ | ⟨_, logged, logging, before', done⟩ :=
      (tolerant.logged ..).bind_cases _ _ _ before done
    · cases broken
    obtain rfl := (log_eq_ok ..).mp logging
    have telling := tolerant.told (notFoundMessage attempts)
    obtain ⟨fault, rfl, broken, left⟩ | ⟨_, told, shown, left, done⟩ :=
      telling.bind_cases _ _ _ before' done
    · exact .broken fault left (telling.broken _ _ _ before' broken)
    cases done
    have files := quiet_ok quiet _ _ _ _ shown
    exact .lost left files fun image path same => other _ _ same

end DexGraft.Search
