import DexGraft.Proofs.Search.InTree
import DexGraft.Proofs.Search.Inside
import DexGraft.Proofs.Search.Order

/-!
What a report stands for. With a signed archive, or one that the signer refused, the
signer was called once and last; with any other outcome it was not called. The run's
directory is gone in any case, and elsewhere only the output and an unsigned archive that
was kept beside it can differ from before.
-/
namespace DexGraft.Search

open Files DexGraft.Action

/-- A fair setting whose class stays inside its tree. Each tool refuses in its own words; the tools
for images may also break off for other causes. -/
structure Regular (setting : Setting) : Prop extends Fair setting where
  target : StaysInside setting.patch.targetClass
  disassemble : ∀ image tree session fault,
    ((setting.toolbox.disassemble image tree).perform session).1 = .error fault →
      (∃ text, fault = .disassembly text) ∨ ∃ cause, fault = .cause cause
  assemble : ∀ tree image session fault,
    ((setting.toolbox.assemble tree image).perform session).1 = .error fault →
      (∃ text, fault = .assembly text) ∨ ∃ cause, fault = .cause cause
  sign : ∀ unsigned output material minSdk session fault,
    ((setting.toolbox.sign unsigned output material minSdk).perform session).1 = .error fault →
      ∃ text, fault = .signing text
  signs : ∀ unsigned output material minSdk,
    WritesFile (setting.toolbox.sign unsigned output material minSdk) output

def HasImages (fault : Fault) : Prop :=
  ∀ base ending, fault ≠ .noImages base ending

theorem Regular.orderly {setting : Setting} (regular : Regular setting) : Orderly setting :=
  ⟨regular.disk, regular.progress.quiet, regular.confined, regular.target⟩

theorem Regular.tame {setting : Setting} (regular : Regular setting) : Tame setting HasImages where
  toFair := regular.toFair
  usual := ⟨fun _ _ _ => nofun, fun _ _ _ => nofun, fun _ _ _ _ => nofun⟩
  disassemble image tree session fault ended := by
    refine (regular.disassemble image tree session fault ended).imp_right ?_
    rintro ⟨cause, rfl⟩ base ending
    nofun
  assemble tree image session fault ended := by
    refine (regular.assemble tree image session fault ended).imp_right ?_
    rintro ⟨cause, rfl⟩ base ending
    nofun

/-- The tools that were called in between are not the signer. -/
def Unsigned (session after : Session) : Prop :=
  ∃ tools, after.calls = session.calls ++ tools ∧ ∀ event ∈ tools, event.isSigning = false

/-- The signer was called on the archive that is rebuilt around an image, and answered. -/
structure Delivered (pipeline : Pipeline) (root output : Path) (material : List Signer)
    (archive : Zip.Archive) (entry : String) (content handed : Bytes) (answer : Except Fault Unit)
    (left : Session) : Prop where
  rebuilds : ∃ clock rebuilt, Apk.rebuild pipeline.deflate archive
    ⟨entry, content, Apk.defaultAlignment, clock⟩ = .ok rebuilt ∧ rebuilt.bytes = handed
  called : ∃ calling : Session,
    calling.files.read (root / "unsigned_modified.apk") = .ok handed ∧
    (pipeline.setting.toolbox.sign (root / "unsigned_modified.apk") output material
      pipeline.minSdk).perform calling = (answer, left)

/-- The run's directory is gone with all that was in it. Elsewhere nothing differs but the output
and what was kept; that is the archive which was handed to the signer. -/
structure Cleared (before after : Files) (root output : Path) (handed : Bytes)
    (kept? : Option Path) : Prop where
  absent : after.isDirectory root ≠ .ok true
  gone : before.node? (destination before.here output) ≠ some .directory →
    destination before.here output ≠ destination before.here root →
      ∀ more, after.node? (destination before.here root ++ more) = none
  kept : ∀ target, kept? = some target →
    destination before.here output ≠ destination before.here (root / "unsigned_modified.apk") →
      ¬destination before.here root <+: destination before.here target →
        ∃ mode, after.node? (destination before.here target) = some (.file handed mode)
  rest : ∀ place, ¬destination before.here root <+: place →
    place ≠ destination before.here output →
      (∀ target, kept? = some target → place ≠ destination before.here target) →
        after.node? place = before.node? place

/-- The run came to its signer: the last attempt is the only patched one, the archive was rebuilt
around its image, and the signer was called once, after all other tools. After its answer nothing
was left to do but to keep the unsigned archive, if it was refused, and to sweep. -/
def SignedOnce (pipeline : Pipeline) (input output : Path) (material : List Signer)
    (session after : Session) (report : Report) (answer : Except Fault Unit) : Prop :=
  ∃ root images made ready file archive trials failed image path content handed left closing tools,
    Surveyed pipeline input root images session made ready file archive trials ∧
    report.attempts = failed ++ [⟨image, .promoted path⟩] ∧
    (∀ attempt ∈ failed, attempt.isPatched = false) ∧
    report.patchedEntry? = some image.entry ∧
    (pipeline.found root ready images).session.files.read path = .ok content ∧
    Delivered pipeline root output material archive image.entry content handed answer left ∧
    Concluded pipeline (root / "unsigned_modified.apk") output image.entry left.files closing answer
      (.ok report.conclusion) ∧
    after.files = closing.clearTree root ∧
    Cleared session.files after.files root output handed report.unsignedOutput? ∧
    after.calls = session.calls ++ tools ++
      [.signed (root / "unsigned_modified.apk") output material pipeline.minSdk] ∧
    ∀ event ∈ tools, event.isSigning = false

/-- The run has tried all its images in vain. When its directory is swept, only the copy of the
input is in it. -/
def TriedAll (pipeline : Pipeline) (input : Path) (session after : Session) (report : Report) :
    Prop :=
  ∃ root rootPlace images made ready file archive trials closing,
    Surveyed pipeline input root images session made ready file archive trials ∧
    report.attempts.map Attempt.image = images ∧
    (∀ attempt ∈ report.attempts, attempt.isPatched = false) ∧
    made.files.resolve root = .ok rootPlace ∧
    closing.files = (pipeline.found root ready images).session.files ∧
    (∀ name more, name ≠ "input.apk" → closing.files.node? (rootPlace ++ name :: more) = none) ∧
    after = swept root closing

/-- What goes with each cause of failure, and with none. -/
def Settled (pipeline : Pipeline) (input output : Path) (material : List Signer)
    (session after : Session) (report : Report) : Option FailureCause → Prop
  | none =>
      SignedOnce pipeline input output material session after report (.ok ()) ∧
      report.output? = some output ∧ report.unsignedOutput? = none
  | some .signingError =>
      ∃ text, report.fault? = some (.signing text) ∧ SignedOnce pipeline input output material
        session after report (.error (.signing text))
  | some .noCandidateImages =>
      report.attempts = [] ∧ after.calls = session.calls ∧ Restored session.files after.files
  | some .targetNotFound =>
      TriedAll pipeline input session after report ∧ Unsigned session after ∧
      Restored session.files after.files
  | some .ioFailure =>
      (∃ fault, report.fault? = some fault ∧ isReported fault = true) ∧
      report.patchedEntry? = none ∧ Unsigned session after ∧ Restored session.files after.files

section

variable {pipeline : Pipeline} {input output root : Path} {rootPlace : Place}
  {material : List Signer} {session made ready stopped after : Session} {report : Report}

theorem Surveyed.unsigned {images : List Apk.Image} {file : Bytes} {archive : Zip.Archive}
    {trials : List Trial}
    (surveyed : Surveyed pipeline input root images session made ready file archive trials)
    (uncalled : stopped.calls = (pipeline.found root ready images).session.calls) :
    Unsigned session (swept root stopped) := by
  refine ⟨_, uncalled.trans surveyed.calls, fun event member => ?_⟩
  obtain ⟨trial, _, member⟩ := List.mem_flatMap.mp member
  exact trial_unsigned trial event member

theorem faulted_settled (polite : Polite pipeline.setting.progress) (attempts : List Attempt)
    (fault : Fault) (unsigned : Unsigned session stopped)
    (restored : Restored session.files stopped.files)
    (early : ¬HasImages fault → attempts = [] ∧ stopped.calls = session.calls)
    (done : (faulted pipeline attempts fault).perform stopped = (.ok report, after)) :
    Settled pipeline input output material session after report report.cause? := by
  obtain ⟨kept, _⟩ := faulted_at polite attempts fault stopped after _
    (⟨restored, rfl⟩ : At (Restored session.files) stopped.calls stopped) done
  obtain ⟨reported, ⟨⟨base, ending, none⟩, rfl⟩ | ⟨_, rfl⟩⟩ := faulted_ok _ _ _ _ _ _ done
  · obtain ⟨untried, uncalled⟩ := early fun images => images base ending none
    exact ⟨untried, kept.calls.trans uncalled, kept.files⟩
  · refine ⟨⟨fault, rfl, reported⟩, rfl, ?_, kept.files⟩
    rw [Unsigned, kept.calls]
    exact unsigned

theorem Concluded.closing {unsigned : Path} {entry : String} {left closing : Files}
    {answer : Except Fault Unit} {conclusion : Conclusion} (attempts : List Attempt)
    (concluded : Concluded pipeline unsigned output entry left closing answer (.ok conclusion)) :
    closing.here = left.here ∧
      (∀ place, (∀ target, Report.unsignedOutput? ⟨conclusion, attempts⟩ = some target →
          place ≠ destination left.here target) → closing.node? place = left.node? place) ∧
      ∀ target, Report.unsignedOutput? ⟨conclusion, attempts⟩ = some target →
        left.node? (destination left.here target) ≠ some .directory ∧
        ∃ content mode, left.read unsigned = .ok content ∧
          closing.node? (destination left.here target) = some (.file content mode) := by
  have none : ∀ {kept? : Option Path}, kept? = none → closing = left →
      closing.here = left.here ∧
        (∀ place, (∀ target, kept? = some target → place ≠ destination left.here target) →
          closing.node? place = left.node? place) ∧
        ∀ target, kept? = some target →
          left.node? (destination left.here target) ≠ some .directory ∧
          ∃ content mode, left.read unsigned = .ok content ∧
            closing.node? (destination left.here target) = some (.file content mode) := by
    rintro _ rfl rfl
    exact ⟨rfl, fun _ _ => rfl, nofun⟩
  cases concluded with
  | signed same => exact none rfl same
  | refused text kept? keeping =>
      cases keeping with
      | unwanted off same => exact none rfl same
      | barred _ _ _ _ _ same => exact none rfl same
      | copied target content wanted named read written =>
          obtain ⟨place, mode, reached, open_, rfl⟩ := write_ok _ _ _ _ written
          obtain rfl := resolve_destination _ _ _ reached
          have node := fun other => node_put left _ other (.file content mode)
            (named_of_open _ _ open_)
          refine ⟨here_put .., fun other apart => ?_, ?_⟩
          · rw [node, if_neg (apart target rfl)]
          · rintro _ ⟨⟩
            exact ⟨open_, content, mode, read, by rw [node, if_pos rfl]⟩

theorem signed_cleared (regular : Regular pipeline.setting)
    (site : Site session.files root rootPlace)
    (sound : session.files.Sound) {calling left : Session} {closing : Files} {handed : Bytes}
    {entry : String} {answer : Except Fault Unit} {conclusion : Conclusion}
    (attempts : List Attempt) (underway : Underway session.files rootPlace calling.files)
    (there : calling.files.read (root / "unsigned_modified.apk") = .ok handed)
    (run : (pipeline.setting.toolbox.sign (root / "unsigned_modified.apk") output material
      pipeline.minSdk).perform calling = (answer, left))
    (concluded : Concluded pipeline (root / "unsigned_modified.apk") output entry left.files closing
      answer (.ok conclusion)) :
    Cleared session.files (closing.clearTree root) root output handed
      (Report.unsignedOutput? ⟨conclusion, attempts⟩) := by
  have only := regular.signs (root / "unsigned_modified.apk") output material pipeline.minSdk
  have signHere := only.here calling
  have signRest := only.rest calling
  rw [run] at signHere signRest
  have begun : calling.files.here = session.files.here := underway.outside.here
  obtain ⟨closeHere, closeRest, copied⟩ := concluded.closing attempts
  rw [signHere, begun] at closeHere closeRest copied
  have goal : destination session.files.here root = rootPlace :=
    (resolve_destination _ _ _ site.reached).symm
  have named : rootPlace ≠ [] := named_of_open session.files rootPlace (by simp [site.free])
  have wrote : ∀ place, place ≠ destination session.files.here output →
      left.files.node? place = calling.files.node? place := by
    refine fun place apart => signRest place fun spot reached => ?_
    rw [resolve_destination _ _ _ reached, begun]
    exact apart
  have swept := clearTree_within closing root (by rw [closeHere, goal]; exact named)
  rw [closeHere, goal] at swept
  refine ⟨clearTree_gone closing root (by rw [closeHere, goal]; exact named), ?_, ?_, ?_⟩
  · intro open_ apart more
    rw [goal] at apart ⊢
    -- All directories on the way to the run's, and itself, stand as before.
    have standing : ∀ place, calling.files.node? place = some .directory →
        place ≠ destination session.files.here output → closing.node? place = some .directory := by
      intro place directory beside
      rw [closeRest place fun target kept same => ?_, wrote place beside, directory]
      exact (copied target kept).1 (by rw [← same, wrote place beside, directory])
    have reached : closing.resolve root = .ok rootPlace := by
      refine resolve_mono session.files closing root rootPlace closeHere (fun place directory => ?_)
        site.reached
      refine standing place ?_ fun same => open_ (same ▸ directory)
      rw [underway.outside.rest place fun under => ?_, directory]
      obtain ⟨names, rfl⟩ := under
      rw [sound.nothing_under rootPlace site.free names] at directory
      cases directory
    rw [clearTree_directory closing root rootPlace reached
      (standing rootPlace underway.there apart.symm), node_dropUnder _ _ _ named,
      if_pos (List.prefix_append _ _)]
  · intro target kept apart outside
    rw [goal] at outside
    obtain ⟨_, content, mode, read, copy⟩ := (copied target kept)
    obtain ⟨spot, _, reached, node⟩ := (read_eq_ok ..).mp read
    obtain ⟨spot', _, reached', node'⟩ := (read_eq_ok ..).mp there
    have first := resolve_destination _ _ _ reached
    have second := resolve_destination _ _ _ reached'
    rw [signHere, begun] at first
    rw [begun] at second
    rw [first, wrote _ apart.symm, ← second, node'] at node
    cases node
    exact ⟨mode, by rw [swept.rest _ outside, copy]⟩
  · intro place outside beside unkept
    rw [goal] at outside
    rw [swept.rest place outside, closeRest place unkept, wrote place beside,
      underway.outside.rest place outside]

theorem signed_settled (regular : Regular pipeline.setting) (images : List Apk.Image)
    (file : Bytes) (archive : Zip.Archive) (trials : List Trial) (image : Apk.Image) (path : Path)
    (content : Bytes) (closing : Session) (conclusion : Conclusion)
    (site : Site session.files root rootPlace) (sound : session.files.Sound)
    (surveyed : Surveyed pipeline input root images session made ready file archive trials)
    (won : (pipeline.found root ready images).winner = .ok (some ⟨image, .promoted path⟩))
    (found : (pipeline.found root ready images).session.files.read path = .ok content)
    (rebuilt : Rebuilt pipeline root (root / "input.apk") image content
      (pipeline.found root ready images).session stopped)
    (before : At (Underway session.files rootPlace)
      (pipeline.found root ready images).session.calls stopped)
    (done : (signed pipeline (root / "unsigned_modified.apk") output image.entry material).perform
      stopped = (.ok conclusion, closing)) :
    Settled pipeline input output material session (swept root closing)
      ⟨conclusion, (pipeline.found root ready images).attempts⟩
      (Report.cause? ⟨conclusion, (pipeline.found root ready images).attempts⟩) := by
  obtain ⟨called, answer, calling, left, run, files, concluded⟩ := signed_concluded _ _ _ _ _ _ _
    regular.progress regular.discreet done
  obtain ⟨copy, zip, clock, made', read, opened, remade, there⟩ := rebuilt
  obtain rfl := surveyed.copy copy read
  obtain rfl := Except.ok.inj (surveyed.opened.symm.trans opened)
  obtain ⟨failed, attempts, unpatched, _⟩ := surveyed.searched.won won
  obtain ⟨tools, calls, unsigned⟩ := surveyed.unsigned before.calls
  rw [show stopped.calls = session.calls ++ tools from calls] at called
  have cleared := signed_cleared regular site sound (pipeline.found root ready images).attempts
    (files ▸ before.files) (files ▸ there) run concluded
  have once : Report.patchedEntry? ⟨conclusion, (pipeline.found root ready images).attempts⟩ =
      some image.entry → SignedOnce pipeline input output material session (swept root closing)
        ⟨conclusion, (pipeline.found root ready images).attempts⟩ answer := fun named =>
    ⟨root, images, made, ready, copy, archive, trials, failed, image, path, content, made'.bytes,
      left, closing.files, _, surveyed, surveyed.attempts.trans attempts, unpatched, named, found,
      ⟨⟨clock, made', remade, rfl⟩, calling, files ▸ there, run⟩, concluded, rfl, cleared, called,
      unsigned⟩
  cases concluded with
  | signed => exact ⟨once rfl, rfl, rfl⟩
  | refused text kept? _ => exact ⟨text, rfl, once rfl⟩

theorem Surveyed.lost {images : List Apk.Image} {file : Bytes} {archive : Zip.Archive}
    {trials : List Trial} {winner : Option Attempt}
    (surveyed : Surveyed pipeline input root images session made ready file archive trials)
    (finding : (pipeline.found root ready images).winner = .ok winner)
    (lost : ∀ image path, winner ≠ some ⟨image, .promoted path⟩) : winner = none := by
  cases winner with
  | none => rfl
  | some attempt =>
      obtain ⟨image, outcome⟩ := attempt
      obtain ⟨_, _, _, patched⟩ := surveyed.searched.won finding
      cases outcome with
      | promoted path => exact absurd rfl (lost image path)
      | failed reason detail => cases patched

theorem lost_settled (regular : Regular pipeline.setting) (images : List Apk.Image) (file : Bytes)
    (archive : Zip.Archive) (trials : List Trial) (closing : Session)
    (opened : Opened session made root rootPlace) (sound : session.files.Sound)
    (surveyed : Surveyed pipeline input root images session made ready file archive trials)
    (finding : (pipeline.found root ready images).winner = .ok none)
    (files : closing.files = (pipeline.found root ready images).session.files)
    (uncalled : closing.calls = (pipeline.found root ready images).session.calls) :
    Settled pipeline input output material session (swept root closing)
      ⟨.notFound, (pipeline.found root ready images).attempts⟩ (some .targetNotFound) := by
  obtain ⟨_, _, _, _, selected, between⟩ := prepared_ok pipeline input made ready images
    regular.progress.quiet opened.site opened.underway opened.bare surveyed.preparing
  have alone := search_none pipeline.setting images ready opened.site
    (fun image member => (Apk.selectImages_entries _ _ _ _ selected image member).2)
    regular.orderly between finding
  obtain ⟨all, unpatched⟩ := surveyed.searched.lost finding
  rw [← surveyed.attempts] at all unpatched
  have underway : Underway session.files rootPlace closing.files := files ▸ alone.underway
  exact ⟨⟨root, rootPlace, images, made, ready, file, archive, trials, closing, surveyed, all,
    unpatched, opened.leads, files, files ▸ alone.bare, rfl⟩, surveyed.unsigned uncalled,
    underway.swept opened.site sound⟩

theorem found_inside (regular : Regular pipeline.setting) (images : List Apk.Image)
    (sound : session.files.Sound)
    (making : (pipeline.making session).perform session = (.ok root, made))
    (preparing : (prepared pipeline input (root / "input.apk")).perform made =
      (.ok images, ready)) :
    ∃ rootPlace file archive trials, Opened session made root rootPlace ∧
      Surveyed pipeline input root images session made ready file archive trials ∧
      (∀ fault, (pipeline.found root ready images).winner = .error fault → HasImages fault) ∧
      At (Underway session.files rootPlace) (pipeline.found root ready images).session.calls
        (pipeline.found root ready images).session := by
  obtain ⟨rootPlace, opened⟩ := making_ok pipeline session made root sound making
  obtain ⟨file, archive, trials, surveyed, fine⟩ := found_surveyed regular.tame input root images
    session made ready sound making preparing
  exact ⟨rootPlace, file, archive, trials, opened, surveyed, fine,
    found_underway pipeline regular.orderly input images session made ready opened preparing, rfl⟩

/-- What a report stands for, by its cause of failure. -/
theorem run_settled (pipeline : Pipeline) (input output : Path) (material : List Signer)
    (session after : Session) (report : Report) (regular : Regular pipeline.setting)
    (sound : session.files.Sound)
    (done : (pipeline.run input output material).perform session = (.ok report, after)) :
    (report.isSuccess = true ↔ report.cause? = none) ∧
      Settled pipeline input output material session after report report.cause? := by
  refine ⟨?_, ?_⟩
  · unfold Report.isSuccess Report.cause?
    cases report.conclusion <;> simp
  have polite := regular.progress
  have tolerant : ∀ rootPlace calls, Tolerant pipeline.setting
      (At (Underway session.files rootPlace) calls) HasImages :=
    fun _ _ => tolerant_at polite regular.tame.usual
  have writing : ∀ made root rootPlace calls, Opened session made root rootPlace → ∀ content,
      Keeps (At (Underway session.files rootPlace) calls) HasImages
        (change fun files => files.write (root / "unsigned_modified.apk") content) :=
    fun made root rootPlace calls opened =>
      (underway_held opened.site _ unsigned_plain).called.write regular.tame.usual.cause
  cases run_cases pipeline input output material session after _ done with
  | unmade fault result stopped after making reporting =>
      rw [making_refused pipeline session stopped fault making] at reporting
      exact faulted_settled polite [] fault ⟨[], by simp, nofun⟩ (fun _ => rfl)
        (fun _ => ⟨rfl, rfl⟩) reporting
  | unprepared root fault result made stopped after making preparing reporting =>
      obtain ⟨rootPlace, opened⟩ := making_ok pipeline session made root sound making
      have underway := prepared_underway pipeline polite.quiet input session made stopped _ opened
        preparing
      have uncalled : (swept root stopped).calls = session.calls :=
        (prepared_calls polite _ _ _ _ _ preparing).trans
          (congrArg (List.filter Event.isCall) opened.journal)
      exact faulted_settled polite [] fault ⟨[], by simp [uncalled], nofun⟩
        (underway.swept opened.site sound) (fun _ => ⟨rfl, uncalled⟩) reporting
  | unfound root images fault result made ready after making preparing broken reporting =>
      obtain ⟨rootPlace, file, archive, trials, opened, surveyed, fine, inside⟩ :=
        found_inside regular images sound making preparing
      exact faulted_settled polite _ fault (surveyed.unsigned rfl)
        (inside.files.swept opened.site sound) (fun none => absurd (fine fault broken) none)
        reporting
  | unended root images winner fault result made ready stopped after making preparing finding
      concluding reporting =>
      obtain ⟨rootPlace, file, archive, trials, opened, surveyed, _, inside⟩ :=
        found_inside regular images sound making preparing
      cases concluded_onward root _ output material _ winner _ stopped _ polite.quiet (tolerant ..)
        inside (writing made root rootPlace _ opened) concluding with
      | broken fault left fine =>
          exact faulted_settled polite _ fault (surveyed.unsigned left.calls)
            (left.files.swept opened.site sound) (fun none => absurd fine none) reporting
      | signing image path content calling _ _ _ _ _ signing =>
          obtain ⟨_, answer, _, _, run, _, concluded⟩ := signed_concluded _ _ _ _ _ _ _ polite
            regular.discreet signing
          -- Neither a refusal of the signer nor what goes wrong behind it is reported as a fault.
          cases concluded with
          | unkept text fault unreported =>
              have reported := (faulted_ok _ _ _ _ _ _ reporting).1
              rw [unreported] at reported
              cases reported
          | broken fault other =>
              obtain ⟨text, own⟩ := regular.sign _ _ _ _ _ _ (congrArg Prod.fst run)
              exact absurd own (other text)
  | ended root images winner conclusion made ready closing making preparing finding concluding =>
      obtain ⟨rootPlace, file, archive, trials, opened, surveyed, _, inside⟩ :=
        found_inside regular images sound making preparing
      cases concluded_onward root _ output material _ winner _ closing _ polite.quiet (tolerant ..)
        inside (writing made root rootPlace _ opened) concluding with
      | lost left files lost =>
          obtain rfl := surveyed.lost finding lost
          exact lost_settled regular images file archive trials closing opened sound surveyed
            finding files left.calls
      | signing image path content calling _ won found rebuilt before signing =>
          cases won
          exact signed_settled regular images file archive trials image path content closing
            conclusion opened.site sound surveyed finding found rebuilt before signing

end

theorem givenPipeline_regular : Regular givenPipeline.setting where
  toFair := givenPipeline_fair
  target := staysInside_of_descends (by decide +kernel)
  disassemble image tree session fault ended :=
    Or.inr ((plainTools_disassemble image tree _).fault session rfl fault ended)
  assemble tree image session fault ended :=
    Or.inr ((plainTools_assemble tree image _).fault session rfl fault ended)
  sign _ _ _ _ _ _ ended := nomatch ended
  signs _ _ _ _ := ⟨fun _ => rfl, fun _ _ _ => rfl⟩

theorem keepingPipeline_regular : Regular keepingPipeline.setting where
  disk := rfl
  progress := givenPipeline_regular.progress
  confined := ⟨plainTools_confined.disassemble, plainTools_confined.assemble⟩
  discreet := ⟨plainTools_discreet.disassemble, plainTools_discreet.assemble, fun _ _ _ _ _ => rfl⟩
  target := givenPipeline_regular.target
  disassemble := givenPipeline_regular.disassemble
  assemble := givenPipeline_regular.assemble
  sign _ _ _ _ _ _ ended := ⟨"refused", (Except.error.inj ended).symm⟩
  signs _ _ _ _ := ⟨fun _ => rfl, fun _ _ _ => rfl⟩

theorem run_settled_given :
    givenSession.files.Sound ∧ Regular givenPipeline.setting ∧ Regular keepingPipeline.setting ∧
      (∃ report after,
        (givenPipeline.run ⟨0, ["in.apk"]⟩ ⟨0, ["out.apk"]⟩ []).perform givenSession =
          (.ok report, after) ∧
        report.cause? = none ∧ report.isSuccess = true ∧
        SignedOnce givenPipeline ⟨0, ["in.apk"]⟩ ⟨0, ["out.apk"]⟩ [] givenSession after report
          (.ok ())) ∧
      ∃ report after text,
        (keepingPipeline.run ⟨0, ["in.apk"]⟩ ⟨0, ["out.apk"]⟩ []).perform givenSession =
          (.ok report, after) ∧
        report.unsignedOutput? = some ⟨0, ["out.unsigned.apk"]⟩ ∧
        SignedOnce keepingPipeline ⟨0, ["in.apk"]⟩ ⟨0, ["out.apk"]⟩ [] givenSession after report
          (.error (.signing text)) := by
  have works : ((givenPipeline.run ⟨0, ["in.apk"]⟩ ⟨0, ["out.apk"]⟩ []).perform
      givenSession).1.toOption.map Report.cause? = some none := by
    decide +kernel
  have refuses : ((keepingPipeline.run ⟨0, ["in.apk"]⟩ ⟨0, ["out.apk"]⟩ []).perform
      givenSession).1.toOption.map (fun report => (report.cause?, report.unsignedOutput?)) =
        some (some .signingError, some ⟨0, ["out.unsigned.apk"]⟩) := by
    decide +kernel
  refine ⟨givenSession_sound, givenPipeline_regular, keepingPipeline_regular, ?signed, ?refused⟩
  case signed =>
    rcases done : (givenPipeline.run ⟨0, ["in.apk"]⟩ ⟨0, ["out.apk"]⟩ []).perform givenSession with
      ⟨fault | report, after⟩ <;> rw [done] at works
    · cases works
    · have unfailed : report.cause? = none := Option.some.inj works
      obtain ⟨success, settled⟩ := run_settled givenPipeline _ _ _ _ _ _ givenPipeline_regular
        givenSession_sound done
      rw [unfailed] at settled
      exact ⟨report, after, rfl, unfailed, success.mpr unfailed, settled.1⟩
  case refused =>
    rcases done : (keepingPipeline.run ⟨0, ["in.apk"]⟩ ⟨0, ["out.apk"]⟩ []).perform givenSession with
      ⟨fault | report, after⟩ <;> rw [done] at refuses
    · cases refuses
    · obtain ⟨failed, kept⟩ := Prod.mk.inj (Option.some.inj refuses)
      obtain ⟨_, settled⟩ := run_settled keepingPipeline _ _ _ _ _ _ keepingPipeline_regular
        givenSession_sound done
      rw [failed] at settled
      obtain ⟨text, _, once⟩ := settled
      exact ⟨report, after, text, rfl, kept, once⟩

end DexGraft.Search
