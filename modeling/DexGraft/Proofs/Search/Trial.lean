import DexGraft.Proofs.Search.Pinned

/-!
One image on trial. The disassembler is handed what the archive has under the image's
name; what it answers, then the class and the method in its tree, and then what the
assembler answers make the verdict, and each is asked only if all before it allow it.
-/
namespace DexGraft.Search

open Files DexGraft.Action

/-- What an image on trial comes to: what the disassembler was handed, if it came to that, whether
the assembler was called, and how the trial ended. -/
structure Trial where
  image : Apk.Image
  handed? : Option Bytes
  assembled : Bool
  result : Except Fault Attempt

def Trial.calls (trial : Trial) : List Event :=
  (trial.handed?.map (Event.disassembled trial.image.entry)).toList ++
    if trial.assembled then [.assembled ("modified_" ++ trial.image.entry)] else []

theorem trial_unsigned (trial : Trial) : ∀ event ∈ trial.calls, event.isSigning = false := by
  intro event member
  rcases List.mem_append.mp member with handed | assembled
  · obtain ⟨content, _, rfl⟩ := Option.map_eq_some_iff.mp (Option.mem_toList.mp handed)
    rfl
  · split at assembled
    · rw [List.mem_singleton.mp assembled]
      rfl
    · cases assembled

/-- An image can only be handed over when its directory is made, the image is extracted into it,
and there is a directory for the tree. -/
inductive Unready (reader : Zip.Reader) (root : Path) (image : Apk.Image) (before : Session)
    (fault : Fault) : Prop
  | unmade (after : Session)
      (making : (freshScratch (scratchOf root image)).perform before = (.error fault, after))
  | unextracted (told after : Session) (fresh : Freshened root image before told)
      (extracting : (Apk.extract (root / "input.apk") image.entry
        (scratchOf root image / image.entry) reader).perform told = (.error fault, after))
  | treeless (told taken : Session) (size : Nat) (cause : Cause)
      (fresh : Freshened root image before told)
      (extracting : (Apk.extract (root / "input.apk") image.entry
        (scratchOf root image / image.entry) reader).perform told = (.ok size, taken))
      (making : taken.files.makeDirectory (treeOf root image) = .error cause)

structure Readied (reader : Zip.Reader) (root : Path) (image : Apk.Image) (before : Session)
    (content : Bytes) (ready : Session) : Prop where
  steps : ∃ told taken size, Freshened root image before told ∧
    (Apk.extract (root / "input.apk") image.entry (scratchOf root image / image.entry)
      reader).perform told = (.ok size, taken) ∧
    taken.files.makeDirectory (treeOf root image) = .ok ready.files
  readable : ready.files.read (scratchOf root image / image.entry) = .ok content

def Drew (setting : Setting) (root : Path) (image : Apk.Image) (before : Session) (content : Bytes)
    (answer : Except Fault Unit) (drawn : Session) : Prop :=
  ∃ ready drawing, Readied setting.reader root image before content ready ∧
    drawing.files = ready.files ∧
    drawing.calls = before.calls ++ [.disassembled image.entry content] ∧
    (setting.toolbox.disassemble (scratchOf root image / image.entry)
      (treeOf root image)).perform drawing = (answer, drawn)

def Built (setting : Setting) (root : Path) (image : Apk.Image) (drawn : Session)
    (answer : Except Fault Unit) : Prop :=
  ∃ building built, ClassRewritten setting.patch (treeOf root image) drawn.files building.files ∧
    building.calls = drawn.calls ++ [.assembled ("modified_" ++ image.entry)] ∧
    (setting.toolbox.assemble (treeOf root image)
      (scratchOf root image / ("modified_" ++ image.entry))).perform building = (answer, built)

/-- The verdict on an image, by the disassembler's answer `drew`, its tree in `files` and the
assembler's answer `built`. -/
structure Verdict (patch : Patch) (tree : Path) (files : Files) (drew built : Except Fault Unit)
    (assembled : Bool) (reason? : Option Reason) : Prop where
  undrawn : reason? = some .disassemblyError ↔ ∃ text, drew = .error (.disassembly text)
  classMissing : reason? = some .classNotFound ↔
    drew = .ok () ∧ files.isFile (tree / Smali.classFile patch.targetClass) = .ok false
  methodMissing : reason? = some .methodNotFound ↔
    drew = .ok () ∧ files.isFile (tree / Smali.classFile patch.targetClass) = .ok true ∧
      ¬HasMethod patch tree files
  called : assembled = true ↔
    drew = .ok () ∧ files.isFile (tree / Smali.classFile patch.targetClass) = .ok true ∧
      HasMethod patch tree files
  unbuilt : reason? = some .assemblyError ↔
    assembled = true ∧ ∃ text, built = .error (.assembly text)
  patched : reason? = none ↔ assembled = true ∧ built = .ok ()

/-- How a trial goes. It breaks before or after the image is handed over, or comes to a verdict. -/
inductive Went (setting : Setting) (root : Path) (archive : Zip.Archive) (before : Session) :
    Trial → Prop
  | unready {image : Apk.Image} {fault : Fault}
      (why : Unready setting.reader root image before fault) :
      Went setting root archive before ⟨image, none, false, .error fault⟩
  | broken {image : Apk.Image} {content : Bytes} {assembled : Bool} {fault : Fault}
      {answer built : Except Fault Unit} {drawn : Session}
      (holds : Apk.LastContent archive image.entry content)
      (drew : Drew setting root image before content answer drawn)
      (called : assembled = true → Built setting root image drawn built) :
      Went setting root archive before ⟨image, some content, assembled, .error fault⟩
  | judged {image : Apk.Image} {content : Bytes} {assembled : Bool} {outcome : Outcome}
      {answer built : Except Fault Unit} {drawn : Session}
      (holds : Apk.LastContent archive image.entry content)
      (drew : Drew setting root image before content answer drawn)
      (called : assembled = true → Built setting root image drawn built)
      (verdict : Verdict setting.patch (treeOf root image) drawn.files answer built assembled
        (Attempt.reason? ⟨image, outcome⟩)) :
      Went setting root archive before ⟨image, some content, assembled, .ok ⟨image, outcome⟩⟩

section

variable {patch : Patch} {tree : Path} {files after : Files}

theorem verdict_undrawn (text : String) : Verdict patch tree files (.error (.disassembly text))
    (.ok ()) false (some .disassemblyError) := by
  constructor <;> simp

theorem Sought.verdict {outcome : Outcome} {image : Apk.Image}
    (sought : Sought patch tree files after (some outcome)) :
    Verdict patch tree files (.ok ()) (.ok ()) false (Attempt.reason? ⟨image, outcome⟩) := by
  cases sought with
  | classMissing absent same => constructor <;> simp [Attempt.reason?, absent]
  | methodMissing there lacking same => constructor <;> simp [Attempt.reason?, there, lacking]

theorem verdict_unbuilt (there : files.isFile (tree / Smali.classFile patch.targetClass) = .ok true)
    (has : HasMethod patch tree files) (text : String) :
    Verdict patch tree files (.ok ()) (.error (.assembly text)) true (some .assemblyError) := by
  constructor <;> simp [there, has]

theorem verdict_patched (there : files.isFile (tree / Smali.classFile patch.targetClass) = .ok true)
    (has : HasMethod patch tree files) :
    Verdict patch tree files (.ok ()) (.ok ()) true none := by
  constructor <;> simp [there, has]

end

section

variable {session made : Session} {root : Path} {rootPlace : Place} {file : Bytes}
  {archive : Zip.Archive} {image : Apk.Image} {calls : List Event} {allowed : Fault → Prop}
  {setting : Setting}

theorem replace_aside (path : Path) (signature replacement marker : String) :
    Keeps (fun session => session.calls = calls) (fun fault => ∃ cause, fault = .cause cause)
      (Smali.replace Smali.Disk.plain path signature replacement marker) := by
  have refused : ∀ cause : Cause, ∃ found, Fault.cause cause = .cause found :=
    fun cause => ⟨cause, rfl⟩
  have reading : Keeps (fun session => session.calls = calls)
      (fun fault => ∃ cause, fault = .cause cause) (ask fun files => files.read path) :=
    keeps_ask refused
  have changing : ∀ operation, Keeps (fun session => session.calls = calls)
      (fun fault => ∃ cause, fault = .cause cause) (change operation) :=
    fun operation => keeps_change refused fun _ _ before _ => before
  have logging : ∀ message, Keeps (fun session => session.calls = calls)
      (fun fault => ∃ cause, fault = .cause cause) (info message) :=
    fun message => keeps_record fun session before => by
      rw [calls_record, before, if_neg (by simp [Event.isCall]), List.append_nil]
  have discarding : ∀ path, Keeps (fun session => session.calls = calls)
      (fun fault => ∃ cause, fault = .cause cause) (Smali.discard path) :=
    fun path => keeps_bind (keeps_ask refused) fun _ => keeps_if (changing _) (keeps_pure _)
  refine keeps_bind reading fun content => ?_
  split
  · exact keeps_throw ⟨_, rfl⟩
  split
  · exact keeps_bind (logging _) fun _ => keeps_pure _
  refine keeps_bind ?_ fun _ => keeps_bind (logging _) fun _ => keeps_pure _
  unfold Smali.store
  split
  · exact keeps_throw ⟨_, rfl⟩
  · exact keeps_ensuring (keeps_bind (changing _) fun _ => changing _) (discarding _)

theorem rewrite_keeps (opened : Opened session made root rootPlace) (usual : Usual allowed)
    (tree : Path) (target signature replacement marker : String) :
    Keeps (At (Pinned made.files rootPlace file) calls) allowed
      (Smali.replace Smali.Disk.plain (tree / Smali.classFile target) signature replacement
        marker) := by
  have aside : Keeps (fun session => session.calls = calls)
      (fun fault => ∃ cause, fault = .cause cause) (Smali.replace Smali.Disk.plain
        (tree / Smali.classFile target) signature replacement marker) :=
    replace_aside _ _ _ _
  refine ⟨fun session before => ⟨?_, aside.session session before.calls⟩,
    fun session before fault ended => ?_⟩
  · rcases ran : (Smali.replace Smali.Disk.plain (tree / Smali.classFile target) signature
      replacement marker).perform session with ⟨result, after⟩
    rcases Smali.replace_files _ _ _ _ _ _ _ ran with same |
      ⟨old, content, readable, room, stored⟩
    · rw [same]
      exact before.files
    · exact before.files.stored opened tree target old content readable room stored
  · obtain ⟨cause, rfl⟩ := aside.fault session before.calls fault ended
    exact usual.cause cause

theorem freshScratch_pinned (opened : Opened session made root rootPlace)
    (tame : Tame setting allowed) :
    Keeps (At (Pinned made.files rootPlace file) calls) allowed
      (freshScratch (scratchOf root image)) := by
  refine freshScratch_keeps (tolerant_at tame.progress tame.usual) _
    (opened.scratch.removeTree tame.usual.cause) ?_
  refine keeps_change tame.usual.cause fun session files before done => ?_
  obtain ⟨_, _, rfl⟩ := makeDirectories_child session.files files root (attemptName image)
    rootPlace (attemptName_plain _) (before.files.leads opened) (before.files.there opened)
    done
  exact opened.scratch.under session _ before (sameOutside_put _ _ _ (by simp))

theorem promoted_pinned (opened : Opened session made root rootPlace) (tame : Tame setting allowed)
    (customary : image.Customary) :
    Keeps (At (Pinned made.files rootPlace file) calls) allowed
      (promoted setting image (treeOf root image)
        (scratchOf root image / ("modified_" ++ image.entry))
        (scratchOf root image / image.entry)) := by
  have inner : ∀ name, PlainName name → Held (At (Pinned made.files rootPlace file) calls)
      (scratchOf root image / name) (rootPlace ++ [attemptName image, name]) :=
    opened.inner
  have extracted := inner _ customary.plain
  have rebuilt := inner _ (modified_plain customary.plain)
  have tolerant : Tolerant setting (At (Pinned made.files rootPlace file) calls) allowed :=
    tolerant_at tame.progress tame.usual
  refine promoted_keeps tolerant image _ _ _ ?_ (inner _ smali_plain).clearTree
  exact promote_keeps tolerant _ _ (extracted.remove tolerant.cause)
    (rebuilt.rename extracted (by simp [(image_apart customary).2.2]) tolerant.cause)
    (extracted.write tolerant.cause) (rebuilt.remove tolerant.cause)

theorem disassembled_pinned (opened : Opened session made root rootPlace)
    (tame : Tame setting allowed) (customary : image.Customary) (content : Bytes)
    (begun before after : Session) (result : Except Fault (Option Outcome))
    (readied : Readied setting.reader root image begun content before)
    (uncalled : begun.calls = calls) (pinned : At (Pinned made.files rootPlace file) calls before)
    (done : (disassembled setting image (scratchOf root image / image.entry)
      (treeOf root image)).perform before = (result, after)) :
    At (Pinned made.files rootPlace file) (calls ++ [.disassembled image.entry content]) after ∧
      (∀ fault, result = .error fault → allowed fault) ∧
      ∃ answer drawn, Drew setting root image begun content answer drawn ∧
        Answered .disassembly .disassemblyError answer result ∧ after.files = drawn.files ∧
        drawn.calls = calls ++ [.disassembled image.entry content] := by
  obtain ⟨answer, calling, drawn, asked⟩ := disassembled_answered image _ _ content before after
    result tame.progress tame.discreet readied.readable done
  have tool : Keeps (At (Pinned made.files rootPlace file) calling.calls)
      (fun fault => (∃ text, fault = .disassembly text) ∨ allowed fault)
      (setting.toolbox.disassemble (scratchOf root image / image.entry) (treeOf root image)) :=
    (opened.inner _ smali_plain).tool (tame.confined.disassemble _ _)
      (fun session kept => ⟨kept.files, (tame.discreet.disassemble _ _ session).trans kept.calls⟩)
      (tame.disassemble _ _)
  have ready : At (Pinned made.files rootPlace file) calling.calls calling :=
    ⟨asked.files.symm ▸ pinned.files, rfl⟩
  have named := child_name (scratchOf root image) _ customary.plain
  have called := asked.calls
  have left := asked.called
  rw [named, pinned.calls] at called left
  refine ⟨⟨?_, asked.quiet.trans left⟩, ?_, answer, drawn,
    ⟨before, calling, readied, asked.files, uncalled.symm ▸ called, asked.run⟩, asked.answered,
    asked.same, left⟩
  · rw [asked.same]
    exact (tool.after _ _ _ ready asked.run).files
  · rintro fault rfl
    obtain _ | _ | ⟨_, other⟩ := asked.answered
    exact (tool.broken _ _ _ ready asked.run).resolve_left fun own => own.elim other

theorem reassembled_pinned (opened : Opened session made root rootPlace)
    (tame : Tame setting allowed) (customary : image.Customary) (drawn before after : Session)
    (result : Except Fault (Option Outcome)) (uncalled : drawn.calls = calls)
    (pinned : At (Pinned made.files rootPlace file) calls before)
    (rewritten : ClassRewritten setting.patch (treeOf root image) drawn.files before.files)
    (done : (reassembled setting image (treeOf root image)
      (scratchOf root image / ("modified_" ++ image.entry))).perform before = (result, after)) :
    At (Pinned made.files rootPlace file) (calls ++ [.assembled ("modified_" ++ image.entry)])
        after ∧
      (∀ fault, result = .error fault → allowed fault) ∧
      ∃ answer, Built setting root image drawn answer ∧
        Answered .assembly .assemblyError answer result := by
  obtain ⟨answer, calling, built, asked⟩ := reassembled_answered image _ _ before after result
    tame.progress tame.discreet done
  have tool : Keeps (At (Pinned made.files rootPlace file) calling.calls)
      (fun fault => (∃ text, fault = .assembly text) ∨ allowed fault)
      (setting.toolbox.assemble (treeOf root image)
        (scratchOf root image / ("modified_" ++ image.entry))) :=
    (opened.inner _ (modified_plain customary.plain)).tool (tame.confined.assemble _ _)
      (fun session kept => ⟨kept.files, (tame.discreet.assemble _ _ session).trans kept.calls⟩)
      (tame.assemble _ _)
  have ready : At (Pinned made.files rootPlace file) calling.calls calling :=
    ⟨asked.files.symm ▸ pinned.files, rfl⟩
  have named := child_name (scratchOf root image) _ (modified_plain customary.plain)
  have called := asked.calls
  have left := asked.called
  rw [named, pinned.calls] at called left
  refine ⟨⟨?_, asked.quiet.trans left⟩, ?_, answer,
    ⟨calling, built, asked.files.symm ▸ rewritten, uncalled.symm ▸ called, asked.run⟩,
    asked.answered⟩
  · rw [asked.same]
    exact (tool.after _ _ _ ready asked.run).files
  · rintro fault rfl
    obtain _ | _ | ⟨_, other⟩ := asked.answered
    exact (tool.broken _ _ _ ready asked.run).resolve_left fun own => own.elim other

structure Tells (setting : Setting) (root : Path) (archive : Zip.Archive) (allowed : Fault → Prop)
    (holds : Files → Prop) (calls : List Event) (image : Apk.Image) (before : Session)
    (result : Except Fault Attempt) (after : Session) (trial : Trial) : Prop where
  subject : trial.image = image
  ended : trial.result = result
  went : Went setting root archive before trial
  left : At holds (calls ++ trial.calls) after
  fault : ∀ fault, result = .error fault → allowed fault

theorem rebuilt_went (opened : Opened session made root rootPlace) (tame : Tame setting allowed)
    (customary : image.Customary) {content : Bytes} {begun drawn : Session}
    (holds : Apk.LastContent archive image.entry content)
    (drew : Drew setting root image begun content (.ok ()) drawn)
    (called : drawn.calls = calls ++ [.disassembled image.entry content])
    (there : drawn.files.isFile (treeOf root image / Smali.classFile setting.patch.targetClass) =
      .ok true)
    (has : HasMethod setting.patch (treeOf root image) drawn.files) (before after : Session)
    (result : Except Fault Attempt)
    (pinned : At (Pinned made.files rootPlace file) (calls ++ [.disassembled image.entry content])
      before)
    (rewritten : ClassRewritten setting.patch (treeOf root image) drawn.files before.files)
    (done : (do
      if let some outcome ← reassembled setting image (treeOf root image)
        (scratchOf root image / ("modified_" ++ image.entry)) then return ⟨image, outcome⟩
      return ⟨image, ← promoted setting image (treeOf root image)
        (scratchOf root image / ("modified_" ++ image.entry))
        (scratchOf root image / image.entry)⟩ : Action Attempt).perform before = (result, after)) :
    ∃ trial, Tells setting root archive allowed (Pinned made.files rootPlace file) calls image begun
      result after trial := by
  rw [perform_bind] at done
  rcases building : (reassembled setting image (treeOf root image)
    (scratchOf root image / ("modified_" ++ image.entry))).perform before with
    ⟨fault | built?, built⟩
  all_goals
    rw [building] at done
    obtain ⟨left, fine, answer, assembled, answered⟩ := reassembled_pinned opened tame customary
      drawn before built _ called pinned rewritten building
    rw [List.append_assoc] at left
  · cases done
    exact ⟨⟨image, some content, true, .error fault⟩, rfl, rfl,
      .broken holds drew fun _ => assembled, left,
      fun _ same => Except.error.inj same ▸ fine fault rfl⟩
  cases answered with
  | refused text =>
      cases done
      exact ⟨⟨image, some content, true, .ok ⟨image, .failed .assemblyError text⟩⟩, rfl, rfl,
        .judged holds drew (fun _ => assembled) (verdict_unbuilt there has text), left, unbroken⟩
  | done =>
      have promoting : Keeps (At (Pinned made.files rootPlace file) (calls ++
          ([.disassembled image.entry content] ++ [.assembled ("modified_" ++ image.entry)])))
            allowed (promoted setting image (treeOf root image)
              (scratchOf root image / ("modified_" ++ image.entry))
              (scratchOf root image / image.entry)) :=
        promoted_pinned opened tame customary
      obtain ⟨fault, rfl, broken, kept⟩ | ⟨outcome, won, promoted, kept, done⟩ :=
        promoting.bind_cases _ _ _ left done
      · have fine := promoting.broken _ _ _ left broken
        exact ⟨⟨image, some content, true, .error fault⟩, rfl, rfl,
          .broken holds drew fun _ => assembled, kept, fun _ same => Except.error.inj same ▸ fine⟩
      · obtain ⟨rfl, _⟩ := promoted_steps _ _ _ _ _ _ _ _ tame.progress.quiet promoted
        cases done
        exact ⟨⟨image, some content, true, .ok ⟨image, .promoted _⟩⟩, rfl, rfl,
          .judged holds drew (fun _ => assembled) (verdict_patched there has), kept, unbroken⟩

/-- An image that is ready is handed to the disassembler; the trial goes on from there until a step
refuses it or breaks. -/
theorem judged_went (opened : Opened session made root rootPlace) (tame : Tame setting allowed)
    (customary : image.Customary) {content : Bytes} {begun : Session}
    (holds : Apk.LastContent archive image.entry content) (uncalled : begun.calls = calls)
    (before after : Session) (result : Except Fault Attempt)
    (readied : Readied setting.reader root image begun content before)
    (pinned : At (Pinned made.files rootPlace file) calls before)
    (done : (do
      if let some outcome ← disassembled setting image (scratchOf root image / image.entry)
        (treeOf root image) then return ⟨image, outcome⟩
      if let some outcome ← patched setting image (treeOf root image) then return ⟨image, outcome⟩
      if let some outcome ← reassembled setting image (treeOf root image)
        (scratchOf root image / ("modified_" ++ image.entry)) then return ⟨image, outcome⟩
      return ⟨image, ← promoted setting image (treeOf root image)
        (scratchOf root image / ("modified_" ++ image.entry))
        (scratchOf root image / image.entry)⟩ : Action Attempt).perform before = (result, after)) :
    ∃ trial, Tells setting root archive allowed (Pinned made.files rootPlace file) calls image begun
      result after trial := by
  -- As long as the assembler was not called, nothing is to be said about it.
  have idle : ∀ drawn, false = true → Built setting root image drawn (.ok ()) :=
    fun _ never => absurd never Bool.false_ne_true
  rw [perform_bind] at done
  rcases drawing : (disassembled setting image (scratchOf root image / image.entry)
    (treeOf root image)).perform before with ⟨fault | drawn?, drawn⟩
  all_goals
    rw [drawing] at done
    obtain ⟨handed, fine, answer, left, drew, answered, same, called⟩ := disassembled_pinned opened
      tame customary content begun before drawn _ readied uncalled pinned drawing
  · cases done
    exact ⟨⟨image, some content, false, .error fault⟩, rfl, rfl, .broken holds drew (idle left),
      handed, fun _ same => Except.error.inj same ▸ fine fault rfl⟩
  cases answered with
  | refused text =>
      cases done
      exact ⟨⟨image, some content, false, .ok ⟨image, .failed .disassemblyError text⟩⟩, rfl, rfl,
        .judged holds drew (idle left) (verdict_undrawn text), handed, unbroken⟩
  | done =>
      have seeking : Keeps (At (Pinned made.files rootPlace file)
          (calls ++ [.disassembled image.entry content])) allowed
          (patched setting image (treeOf root image)) :=
        patched_keeps (tolerant_at tame.progress tame.usual) image _
          (tame.disk.symm ▸ rewrite_keeps opened tame.usual _ _ _ _ _)
      obtain ⟨fault, rfl, broken, kept⟩ | ⟨sought?, given, searching, kept, done⟩ :=
        seeking.bind_cases _ _ _ handed done
      · have fine := seeking.broken _ _ _ handed broken
        exact ⟨⟨image, some content, false, .error fault⟩, rfl, rfl,
          .broken holds drew (idle left), kept, fun _ same => Except.error.inj same ▸ fine⟩
      have sought := patched_ok setting image _ drawn given sought? tame.disk tame.progress.quiet
        searching
      rw [same] at sought
      cases sought? with
      | some outcome =>
          cases done
          exact ⟨⟨image, some content, false, .ok ⟨image, outcome⟩⟩, rfl, rfl,
            .judged holds drew (idle left) sought.verdict, kept, unbroken⟩
      | none =>
          obtain _ | _ | ⟨there, has, rewritten⟩ := sought
          exact rebuilt_went opened tame customary holds drew called there has given after result
            kept rewritten done

theorem attempt_went (opened : Opened session made root rootPlace) (tame : Tame setting allowed)
    (customary : image.Customary) (zip : Zip.readWith setting.reader.decoders file = .ok archive)
    (begun before after : Session) (result : Except Fault Attempt)
    (fresh : Freshened root image begun before)
    (uncalled : begun.calls = calls) (pinned : At (Pinned made.files rootPlace file) calls before)
    (done : (attempt setting (root / "input.apk") image (scratchOf root image)).perform before =
      (result, after)) :
    ∃ trial, Tells setting root archive allowed (Pinned made.files rootPlace file) calls image begun
      result after trial := by
  have tolerant : Tolerant setting (At (Pinned made.files rootPlace file) calls) allowed :=
    tolerant_at tame.progress tame.usual
  have named : imageName image = image.entry := imageName_customary customary
  have again := child_name (scratchOf root image) _ customary.plain
  unfold attempt at done
  simp only [named, again] at done
  -- Up to the making of the tree nothing is called, so whatever breaks leaves the image unhanded.
  have unready : ∀ fault, allowed fault →
      Unready setting.reader root image begun fault → ∀ after,
      At (Pinned made.files rootPlace file) calls after →
        ∃ trial, Tells setting root archive allowed (Pinned made.files rootPlace file) calls image
          begun (.error fault) after trial := fun fault fine why after left =>
    ⟨⟨image, none, false, .error fault⟩, rfl, rfl, .unready why, by simpa [Trial.calls] using left,
      fun _ same => Except.error.inj same ▸ fine⟩
  have extracting := extract_keeps tolerant setting.reader (root / "input.apk")
    (scratchOf root image / image.entry) image.entry
    ((opened.inner _ customary.plain).write tame.usual.cause)
  obtain ⟨fault, rfl, broken, left⟩ | ⟨size, taken, extracted, pinned', done⟩ :=
    extracting.bind_cases _ _ _ pinned done
  · exact unready fault (extracting.broken _ _ _ pinned broken) (.unextracted _ _ fresh broken)
      after left
  have apart : ∀ emptied content, before.files.write (scratchOf root image / image.entry) [] =
      .ok emptied → before.files.read (root / "input.apk") = .ok content →
        emptied.read (root / "input.apk") = .ok content := by
    intro emptied content written found
    obtain ⟨place, _, reached, _, _⟩ := write_ok _ _ _ _ written
    have held : Held (At (Pinned made.files rootPlace file) calls) (scratchOf root image / image.entry)
        (rootPlace ++ [attemptName image, image.entry]) := opened.inner _ customary.plain
    obtain rfl := held.leads before place pinned reached
    have later := held.under before emptied pinned (write_outside _ _ _ _ _ reached written)
    -- The emptied file is not the archive: that is read with the same content all along.
    rcases read_written _ _ _ _ _ _ found written with same | none
    · exact same
    · rw [none, pinned.files.read opened content found, later.files.read opened [] none]
  obtain ⟨foundFile, foundArchive, content, emptied, found, read, last, _, filled⟩ :=
    Apk.extract_apart setting.reader _ _ _ _ _ _ apart extracted
  rw [pinned.files.read opened foundFile found, zip] at read
  cases read
  obtain ⟨_, _, broken, _⟩ | ⟨_, shown, logged, pinned', done⟩ :=
    (tolerant.logged ..).bind_cases _ _ _ pinned' done
  · cases broken
  have same : shown.files = taken.files := by rw [(log_eq_ok ..).mp logged]
  have making : Keeps (At (Pinned made.files rootPlace file) calls) allowed
      ((change fun files => files.makeDirectory (treeOf root image)).rewording Cause.isRefusal
        fun cause => .io (.createDirectory (treeOf root image).text cause)) :=
    keeps_rewording ((opened.inner _ smali_plain).makeDirectory tame.usual.cause)
      fun _ => tame.usual.io _
  obtain ⟨fault, rfl, broken, left⟩ | ⟨_, tree, treed, pinned', done⟩ :=
    making.bind_cases _ _ _ pinned' done
  · refine unready fault (making.broken _ _ _ pinned' broken) ?_ after left
    cases refused : taken.files.makeDirectory (treeOf root image) with
    | error cause => exact .treeless _ taken size cause fresh extracted refused
    | ok files => simp [perform_rewording, perform_change, same, refused] at broken
  obtain ⟨files, madeTree, rfl⟩ := (change_eq_ok ..).mp ((rewording_eq_ok ..).mp treed)
  rw [same] at madeTree
  obtain ⟨place, _, free, _, rfl⟩ := makeDirectory_ok _ _ _ madeTree
  have readied : Readied setting.reader root image begun content
      { shown with files := taken.files.put place .directory } :=
    { steps := ⟨before, taken, size, fresh, extracted, madeTree⟩
      readable := read_put _ _ place .directory _ free (write_read _ _ _ _ filled) }
  exact judged_went opened tame customary last uncalled _ after result readied pinned' done

end

end DexGraft.Search
