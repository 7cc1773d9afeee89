import DexGraft.Proofs.Search.Course
import DexGraft.Proofs.Search.Signing
import DexGraft.Proofs.Search.Tidy

/-!
Where relative paths begin. No operation on files changes it, and no tool that keeps it
makes a run change it; so a path leads the same way from a run's beginning to its end.
-/
namespace DexGraft.Files

section

variable {files after : Files} {path : Path}

theorem write_here {content : Bytes} (done : files.write path content = .ok after) :
    after.here = files.here := by
  obtain ⟨_, _, _, _, rfl⟩ := write_ok _ _ _ _ done
  exact here_put ..

theorem makeDirectory_here (done : files.makeDirectory path = .ok after) :
    after.here = files.here := by
  obtain ⟨_, _, _, _, rfl⟩ := makeDirectory_ok _ _ _ done
  exact here_put ..

theorem makeMissing_here (done : files.makeMissing path = .ok after) :
    after.here = files.here := by
  unfold Files.makeMissing at done
  split at done
  · cases done
    rfl
  · split at done
    · exact makeDirectory_here done
    · cases done
  · cases done

theorem makeAll_here (paths : List Path) (done : paths.foldlM Files.makeMissing files = .ok after) :
    after.here = files.here := by
  induction paths generalizing files with
  | nil =>
      cases done
      rfl
  | cons path rest ih =>
      rw [List.foldlM_cons] at done
      cases first : files.makeMissing path with
      | error cause => simp [first, bind, Except.bind] at done
      | ok next =>
          rw [first] at done
          exact (ih done).trans (makeMissing_here first)

theorem makeDirectories_here (done : files.makeDirectories path = .ok after) :
    after.here = files.here := by
  unfold Files.makeDirectories at done
  simp only [bind, Except.bind] at done
  split at done
  · cases done
  · rename_i prior made
    exact (makeDirectory_here done).trans (makeAll_here _ made)

theorem remove_here (done : files.remove path = .ok after) : after.here = files.here := by
  obtain ⟨_, _, _, _, _, rfl⟩ := remove_ok _ _ _ done
  rfl

theorem removeTree_here (done : files.removeTree path = .ok after) :
    after.here = files.here := by
  obtain ⟨_, _, _, rfl⟩ := removeTree_ok _ _ _ done
  rfl

theorem clearTree_here (files : Files) (path : Path) :
    (files.clearTree path).here = files.here := by
  unfold Files.clearTree
  cases removed : files.removeTree path with
  | error cause => rfl
  | ok after => exact removeTree_here removed

end

end DexGraft.Files

namespace DexGraft.Search

open Files DexGraft.Action

/-- Neither tool changes where relative paths begin. -/
structure Grounded (toolbox : Toolbox) : Prop where
  disassemble : ∀ image tree session,
    ((toolbox.disassemble image tree).perform session).2.files.here = session.files.here
  assemble : ∀ tree image session,
    ((toolbox.assemble tree image).perform session).2.files.here = session.files.here

section

variable {setting : Setting} {here : Place}

theorem change_grounded (operation : Files → Except Cause Files)
    (each : ∀ files after, operation files = .ok after → after.here = files.here) :
    Keeps (fun session => session.files.here = here) (fun _ => True) (change operation) :=
  keeps_change (fun _ => trivial) fun session files before done =>
    (each session.files files done).trans before

theorem replace_grounded (path : Path) (signature replacement marker : String) :
    Keeps (fun session => session.files.here = here) (fun _ => True)
      (Smali.replace Smali.Disk.plain path signature replacement marker) := by
  refine ⟨fun session before => ?_, fun _ _ _ _ => trivial⟩
  rcases ran : (Smali.replace Smali.Disk.plain path signature replacement marker).perform session
    with ⟨result, after⟩
  rcases replace_swaps _ _ _ _ _ _ _ ran with same | ⟨_, _, _, _, _, _, _, swapped⟩
  · rw [same]
    exact before
  · exact swapped.here.trans before

theorem tool_grounded {α : Type} {action : Action α}
    (grounded : ∀ session, (action.perform session).2.files.here = session.files.here) :
    Keeps (fun session => session.files.here = here) (fun _ => True) action :=
  ⟨fun session before => (grounded session).trans before, fun _ _ _ _ => trivial⟩

theorem record_grounded (event : Event) :
    Keeps (fun session => session.files.here = here) (fun _ => True) (record event) :=
  keeps_record fun _ before => before

theorem clearTree_grounded (path : Path) :
    Keeps (fun session => session.files.here = here) (fun _ => True) (Action.clearTree path) :=
  keeps_clearTree fun session before => (clearTree_here session.files path).trans before

theorem write_grounded (path : Path) (content : Bytes) :
    Keeps (fun session => session.files.here = here) (fun _ => True)
      (change fun files => files.write path content) :=
  change_grounded _ fun _ _ => write_here

theorem attempt_grounded (archive : Path) (image : Apk.Image) (scratch : Path)
    (plain : PlainName (imageName image)) (quiet : Quiet setting.progress)
    (disk : setting.disk = Smali.Disk.plain) (grounded : Grounded setting.toolbox) :
    Keeps (fun session => session.files.here = here) (fun _ => True)
      (attempt setting archive image scratch) := by
  have moved := promote_keeps (tolerant_files (fun files => files.here = here) quiet)
    (scratch / ("modified_" ++ imageName image)) (scratch / imageName image)
    (change_grounded _ fun _ _ => remove_here) (change_grounded _ fun _ _ => rename_here)
    (write_grounded _) (change_grounded _ fun _ _ => remove_here)
  exact @attempt_keeps_each setting (fun files => files.here = here) scratch archive image plain
    quiet (write_grounded _) (change_grounded _ fun _ _ => makeDirectory_here)
    (tool_grounded (grounded.disassemble _ _)) (fun _ _ _ => disk ▸ replace_grounded _ _ _ _)
    (tool_grounded (grounded.assemble _ _)) moved (clearTree_grounded _)

theorem tryImage_grounded (archive workRoot : Path) (image : Apk.Image)
    (plain : PlainName (imageName image)) (quiet : Quiet setting.progress)
    (disk : setting.disk = Smali.Disk.plain) (grounded : Grounded setting.toolbox)
    (session after : Session) (result : Except Fault Attempt)
    (before : session.files.here = here)
    (done : (tryImage setting archive workRoot image).perform session = (result, after)) :
    after.files.here = here := by
  have fresh := freshScratch_keeps (tolerant_files (fun files => files.here = here) quiet)
    (scratchOf workRoot image) (change_grounded _ fun _ _ => removeTree_here)
    (change_grounded _ fun _ _ => makeDirectories_here)
  refine tryImage_keeps (fun files => files.here = here) (fun files => files.here = here) archive
    workRoot image quiet (fun session after result before making => ?_) (fun _ => id)
    (clearTree_grounded _) (attempt_grounded _ _ _ plain quiet disk grounded) session after result
    before done
  have kept := fresh.after _ _ _ before making
  exact ⟨kept, fun _ => kept⟩

theorem prepared_plain (pipeline : Pipeline) (input archive : Path) (session after : Session)
    (images : List Apk.Image)
    (done : (prepared pipeline input archive).perform session = (.ok images, after)) :
    ∀ image ∈ images, PlainName (imageName image) := by
  simp only [prepared, info, bind_eq_ok, log_eq_ok, pure_eq_ok] at done
  obtain ⟨_, _, _, _, _, _, _, _, _, _, _, selecting, _, _, _, rfl, _⟩ := done
  obtain ⟨_, _, _, _, chosen, _⟩ := (Apk.select_eq_ok ..).mp selecting
  exact fun image member => plainImage (Apk.selectImages_entries _ _ _ _ chosen image member).2

theorem signed_succeeds (pipeline : Pipeline) (unsigned output target : Path)
    (entry named : String) (material : List Signer) (session after : Session)
    (quiet : Quiet pipeline.setting.progress)
    (done : (signed pipeline unsigned output entry material).perform session =
      (.ok (.signed target named), after)) :
    target = output ∧ ∃ calling ended, calling.files = session.files ∧
      (pipeline.setting.toolbox.sign unsigned output material pipeline.minSdk).perform calling =
        (.ok (), ended) ∧ after.files = ended.files := by
  simp only [signed, bind_eq_ok, record_eq_ok] at done
  obtain ⟨_, told, progressed, _, calling, recorded, refusal?, ended, guarded, done⟩ := done
  have kept := quiet_ok quiet _ _ _ _ progressed
  have same : calling.files = session.files := (congrArg Session.files recorded).trans kept
  rcases guarded_ok _ _ _ _ _ guarded with ⟨ran, rfl⟩ | ⟨fault, stopped, ran, handled⟩
  · simp only [bind_eq_ok, log_eq_ok, pure_eq_ok] at done
    obtain ⟨_, _, rfl, _, _, shown, same', rfl⟩ := done
    cases same'
    have told := quiet_ok quiet _ _ _ _ shown
    exact ⟨rfl, calling, ended, same, ran, told⟩
  · cases fault with
    | signing text =>
        obtain ⟨rfl, rfl⟩ := (pure_eq_ok ..).mp handled
        simp only [bind_eq_ok, pure_eq_ok] at done
        obtain ⟨_, _, _, _, _, _, _, _, _, same', _⟩ := done
        cases same'
    | _ => exact absurd handled (throw_ne_ok _ _ _ _)

/-- A run that succeeds ends with the signer: it returned, and behind it only the run's own
directory was cleared. -/
theorem run_succeeds (pipeline : Pipeline) (input output : Path) (material : List Signer)
    (session after : Session) (report : Report) (quiet : Quiet pipeline.setting.progress)
    (disk : pipeline.setting.disk = Smali.Disk.plain)
    (grounded : Grounded pipeline.setting.toolbox)
    (done : (pipeline.run input output material).perform session = (.ok report, after))
    (success : report.isSuccess = true) :
    report.output? = some output ∧ ∃ root made calling ended,
      (pipeline.making session).perform session = (.ok root, made) ∧
      calling.files.here = session.files.here ∧
      (pipeline.setting.toolbox.sign (root / "unsigned_modified.apk") output material
        pipeline.minSdk).perform calling = (.ok (), ended) ∧
      after.files = ended.files.clearTree root := by
  obtain ⟨conclusion, attempts⟩ := report
  obtain ⟨target, entry, rfl⟩ : ∃ target entry, conclusion = .signed target entry := by
    cases conclusion with
    | signed target entry => exact ⟨target, entry, rfl⟩
    | _ => cases success
  have ran := run_steps pipeline input output material session after _ done (Or.inl success)
  obtain ⟨root, made, ending, making, processing, rfl⟩ := course_steps _ _ _ _ _ _ _ ran
  simp only [processed, bind_eq_ok] at processing
  obtain ⟨images, ready, preparing, searching⟩ := processing
  obtain ⟨winner, won, concluding⟩ := searched_steps _ _ _ _ _ _ _ _ _ _ searching
  have tolerant : Tolerant pipeline.setting
      (fun searched => searched.files.here = session.files.here) fun _ => True :=
    tolerant_files (fun files => files.here = session.files.here) quiet
  have opened : made.files.here = session.files.here := by
    obtain ⟨_, place, _, _, _, _, _, rfl⟩ :=
      makeTemporary_ok _ _ _ _ _ (Text.whole_of_all _ _ (by decide)) (by decide) making
    exact here_put ..
  have copied := (prepared_keeps pipeline tolerant (fun _ => trivial) input (root / "input.apk")
    fun _ => write_grounded _ _).after _ _ _ opened preparing
  have plain := prepared_plain pipeline input _ made ready images preparing
  have searched := @search_keeps pipeline.setting (fun files => files.here = session.files.here)
    (root / "input.apk") root images ready copied fun image member session after result before done =>
      tryImage_grounded _ _ image (plain image member) quiet disk grounded session after result
        before done
  cases concluded_onward root (root / "input.apk") output material _ winner _ _ _ quiet tolerant
    searched (fun _ => write_grounded _ _) concluding with
  | signing image _ _ handing _ _ _ _ before signing =>
      obtain ⟨rfl, calling, ended, same, returned, left⟩ :=
        signed_succeeds _ _ _ _ _ _ _ _ _ quiet signing
      refine ⟨rfl, root, made, calling, ended, making, by rw [same, before], returned, ?_⟩
      rw [← left]

end

end DexGraft.Search
