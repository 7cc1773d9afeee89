import DexGraft.Proofs.Files.Scratch
import DexGraft.Proofs.Search.Course

/-!
Work that stays inside. Attempts, failed and broken ones too, change the run's directory
and nothing else; when that directory is swept, all files are as they were before it
was made.
-/
namespace DexGraft.Search

open Files DexGraft.Action

theorem unsigned_plain : PlainName "unsigned_modified.apk" := ⟨by decide +kernel, by decide⟩

section

variable {begun : Files} {root : Path} {rootPlace : Place}

theorem underway_held (site : Site begun root rootPlace) (name : String) (plain : PlainName name) :
    Held (fun session => Underway begun rootPlace session.files) (root / name)
      (rootPlace ++ [name]) where
  named := by simp
  leads session spot underway reached :=
    (resolve_child _ root name rootPlace spot plain (underway.root site) reached).1
  under _ _ underway same := underway.step name [] same

def AtWork (begun : Files) (root : Path) (rootPlace : Place) (image : Apk.Image) (files : Files) :
    Prop :=
  ∃ prior, Underway begun rootPlace prior ∧ Working root rootPlace image prior files

theorem atWork_held (site : Site begun root rootPlace) {image : Apk.Image} (name : String)
    (plain : PlainName name) :
    Held (fun session => AtWork begun root rootPlace image session.files)
      (scratchOf root image / name) (rootPlace ++ [attemptName image] ++ [name]) where
  named := by simp
  leads := by
    rintro session spot ⟨prior, _, working⟩ reached
    exact working.child name plain spot reached
  under := by
    rintro session files ⟨prior, early, working⟩ same
    exact ⟨prior, early, working.step site early name same⟩

theorem freshScratch_underway (setting : Setting) (quiet : Quiet setting.progress)
    (site : Site begun root rootPlace) {image : Apk.Image} :
    Keeps (fun session => Underway begun rootPlace session.files) (fun _ => True)
      (freshScratch (scratchOf root image)) := by
  have tolerant : Tolerant setting (fun session => Underway begun rootPlace session.files)
      (fun _ => True) := tolerant_files _ quiet
  refine freshScratch_keeps tolerant _
    ((underway_held site _ (attemptName_plain _)).removeTree fun _ => trivial) ?_
  refine keeps_change (fun _ => trivial) fun session files underway made => ?_
  obtain ⟨_, _, rfl⟩ := makeDirectories_child session.files files root (attemptName image)
    rootPlace (attemptName_plain _) (underway.root site) underway.there made
  exact underway.step (attemptName image) [] (sameOutside_put _ _ _ (by simp))

theorem rewrite_atWork (setting : Setting) (orderly : Orderly setting)
    (site : Site begun root rootPlace) {image : Apk.Image} (customary : image.Customary)
    (once made : Files) (making : once.makeDirectory (treeOf root image) = .ok made) :
    Keeps (fun session => AtWork begun root rootPlace image session.files) (fun _ => True)
      (Smali.replace setting.disk (treeOf root image / Smali.classFile setting.patch.targetClass)
        setting.patch.signature setting.patch.replacement Smali.endMarker) := by
  obtain ⟨_, sayable, _⟩ := makeDirectory_ok _ _ _ making
  refine .of_perform fun session atWork => ⟨?_, fun _ _ => trivial⟩
  rw [orderly.disk]
  rcases ran : (Smali.replace Smali.Disk.plain
    (treeOf root image / Smali.classFile setting.patch.targetClass) setting.patch.signature
    setting.patch.replacement Smali.endMarker).perform session with ⟨result, after⟩
  rcases Smali.replace_files _ _ _ _ _ _ _ ran with same |
    ⟨old, content, readable, _, stored⟩
  · rw [same]
    exact atWork
  · obtain ⟨prior, early, working⟩ := atWork
    have leads := working.child_again once "smali" smali_plain _ sayable
    have inTree := stored_outside _ _ _ _ old content customary orderly.target leads readable stored
    exact ⟨prior, early, working.step site early "smali" inTree⟩

theorem tryImage_underway (setting : Setting) (orderly : Orderly setting) (archive : Path)
    (site : Site begun root rootPlace) (image : Apk.Image) (customary : image.Customary)
    (session after : Session) (result : Except Fault Attempt)
    (underway : Underway begun rootPlace session.files)
    (done : (tryImage setting archive root image).perform session = (result, after)) :
    Underway begun rootPlace after.files := by
  refine tryImage_keeps _ (AtWork begun root rootPlace image) archive root image orderly.progress
    ?fresh ?within ?cleared ?tried session after result underway done
  case fresh =>
    intro session after result underway made
    refine ⟨(freshScratch_underway setting orderly.progress site).after _ _ _ underway
      made, ?_⟩
    rintro rfl
    exact ⟨session.files, underway,
      (freshScratch_ok session after site underway _ made).1⟩
  case within =>
    rintro files ⟨prior, early, working⟩
    exact working.underway early
  case cleared => exact (underway_held site _ (attemptName_plain _)).clearTree
  case tried =>
    exact attempt_keeps archive image (plainImage customary)
      (fun name member => atWork_held site name (attemptNames_plain (plainImage customary) name member))
      orderly.progress orderly.toolbox fun once made making =>
        rewrite_atWork setting orderly site customary once made making

theorem found_underway (pipeline : Pipeline) (orderly : Orderly pipeline.setting) (input : Path)
    (images : List Apk.Image) (session made ready : Session)
    (opened : Opened session made root rootPlace)
    (preparing : (prepared pipeline input (root / "input.apk")).perform made =
      (.ok images, ready)) :
    Underway session.files rootPlace (pipeline.found root ready images).session.files := by
  obtain ⟨_, _, _, _, selected, between⟩ := prepared_ok pipeline input made ready images
    orderly.progress opened.site opened.underway opened.bare preparing
  exact search_keeps _ _ images ready between.underway fun image member session after result
    underway done => tryImage_underway pipeline.setting orderly _ opened.site image
      (Apk.selectImages_entries _ _ _ _ selected image member).2 session after result underway done

theorem prepared_underway (pipeline : Pipeline) (quiet : Quiet pipeline.setting.progress)
    (input : Path) (session made after : Session) (result : Except Fault (List Apk.Image))
    (opened : Opened session made root rootPlace)
    (preparing : (prepared pipeline input (root / "input.apk")).perform made = (result, after)) :
    Underway session.files rootPlace after.files :=
  (prepared_keeps pipeline (tolerant_files _ quiet) (fun _ => trivial) input _
    ((underway_held opened.site _ input_plain).write fun _ => trivial)).after _ _ _
      opened.underway preparing

def Restored (begun files : Files) : Prop :=
  ∀ place, files.node? place = begun.node? place

theorem Underway.swept {session stopped : Session}
    (underway : Underway session.files rootPlace stopped.files)
    (site : Site session.files root rootPlace) (sound : session.files.Sound) :
    Restored session.files (swept root stopped).files := by
  intro place
  have named : rootPlace ≠ [] := named_of_open session.files rootPlace (by simp [site.free])
  change (stopped.files.clearTree root).node? place = _
  rw [clearTree_directory _ _ _ (underway.root site) underway.there, node_dropUnder _ _ _ named]
  split
  · rename_i under
    obtain ⟨names, rfl⟩ := under
    exact (sound.nothing_under rootPlace site.free names).symm
  · rename_i apart
    exact underway.outside.rest place apart

end

end DexGraft.Search
