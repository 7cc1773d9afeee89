import DexGraft.Proofs.Search.Grounded
import DexGraft.Proofs.Tool.Answers

/-!
What a success leaves behind. The assembler makes sure of its file; the signer trusts the
exit status of its program, so that the output is there if and only if that program has
left it.
-/
namespace DexGraft.Tool

open Files Signing DexGraft.Action

def Launcher.Grounded (launcher : Launcher) : Prop :=
  ∀ command timeout environment files,
    (launcher command timeout environment files).2.here = files.here

/-- No name on a path's way is one that a temporary directory may have. -/
def Aside (stem : String) (files : Files) (path : Path) : Prop :=
  ∀ number, stem ++ suffix number ∉ files.start path ++ path.parts

theorem Aside.again {stem : String} {files after : Files} {path : Path}
    (aside : Aside stem files path) (here : after.here = files.here) : Aside stem after path := by
  have same : after.start path = files.start path := by simp [start, here]
  exact fun number => same ▸ aside number

theorem acceptAssembly_ok (output : Path) (finished : Finished) (session after : Session)
    (done : (acceptAssembly output finished).perform session = (.ok (), after)) :
    finished.status = 0 ∧ after.files = session.files ∧
      ∃ content, session.files.read output = .ok content := by
  unfold acceptAssembly at done
  by_cases well : finished.status = 0
  · rw [if_neg (by simp [well])] at done
    simp only [bind_eq_ok, ask_eq_ok] at done
    obtain ⟨isMade, _, ⟨there, rfl⟩, done⟩ := done
    cases isMade with
    | false => exact absurd done (by simp [throw_ne_ok])
    | true =>
        simp only [Bool.not_true, Bool.false_eq_true, if_false, bind_eq_ok, fileSize_eq_ok, info,
          log_eq_ok] at done
        obtain ⟨_, _, ⟨_, rfl⟩, rfl⟩ := done
        exact ⟨well, rfl, isFile_read _ _ there⟩
  · rw [if_pos well] at done
    exact absurd done (by simp [throw_ne_ok])

theorem assemble_returned (launcher : Launcher) (settings : Settings) (source output : Path)
    (session after : Session)
    (done : (assemble launcher settings source output).perform session = (.ok (), after)) :
    ∃ run left content,
      launcher (jarCommand settings settings.smaliJar "a" source output) settings.timeout
        session.environment session.files = (run, left) ∧
      run.Ended 0 ∧ after.files = left ∧ left.read output = .ok content := by
  rw [assemble_eq, bind_eq_ok] at done
  obtain ⟨finished, middle, heard, done⟩ := done
  obtain ⟨run, left, ran, _, status, rfl⟩ := runTool_ok _ _ _ _ _ _ _ _ heard
  obtain ⟨well, same, content, read⟩ := acceptAssembly_ok _ _ _ _ done
  exact ⟨run, left, content, ran, well ▸ status, same, read⟩

theorem sign_returned (launcher : Launcher) (settings : Settings) (unsigned output : Path)
    (material : List Signer) (minSdk : Int) (session after : Session)
    (done : (sign launcher settings unsigned output material minSdk).perform session =
      (.ok (), after)) :
    ∃ program directory ready run left,
      Prepared settings material session program directory ready ∧
      launcher (signCommand program directory unsigned output material minSdk) settings.timeout
        session.environment ready.files = (run, left) ∧
      run.Ended 0 ∧ after.files = left.clearTree directory := by
  have calling := sign_calling launcher settings unsigned output material minSdk session
  rw [done] at calling
  generalize ended : (Except.ok () : Except Fault Unit) = result at calling
  cases calling with
  | run program directory ready run left _ prepared _ ran answers =>
      exact ⟨program, directory, ready, run, left, prepared, ran, answers.returns.mp ended.symm, rfl⟩
  | _ => cases ended

theorem making_aside {base directory path : Path} {stem : String} {session made : Session}
    {files : Files} (whole : ∀ c ∈ stem.toList, c ≠ '/') (long : 2 < stem.length)
    (making : (makeTemporary base stem).perform session = (.ok directory, made))
    (aside : Aside stem files path) :
    (files.clearTree directory).read path = files.read path := by
  obtain ⟨number, rfl⟩ := makeTemporary_numbered _ _ _ _ _ making
  exact clearTree_read files base path _ (temporary_plain stem number whole long) (aside number)

theorem sign_output (launcher : Launcher) (settings : Settings) (unsigned output : Path)
    (material : List Signer) (minSdk : Int) (session after : Session)
    (grounded : launcher.Grounded) (aside : Aside "apksurgeon_keys_" session.files output)
    (done : (sign launcher settings unsigned output material minSdk).perform session =
      (.ok (), after)) :
    ∃ program directory ready run left,
      Prepared settings material session program directory ready ∧
      launcher (signCommand program directory unsigned output material minSdk) settings.timeout
        session.environment ready.files = (run, left) ∧
      run.Ended 0 ∧ left.here = session.files.here ∧
      after.files = left.clearTree directory ∧ after.files.read output = left.read output := by
  obtain ⟨program, directory, ready, run, left, prepared, ran, ended, files⟩ :=
    sign_returned launcher settings unsigned output material minSdk session after done
  obtain ⟨made, paths, making, written⟩ := prepared.written
  obtain ⟨_, place, _, _, reached, _⟩ := makingKeys_ok making
  have here : left.here = session.files.here := by
    have kept := grounded (signCommand program directory unsigned output material minSdk)
      settings.timeout session.environment ready.files
    rw [ran] at kept
    exact kept.trans ((written_inside _ _ making written).2 place reached).here
  refine ⟨program, directory, ready, run, left, prepared, ran, ended, here, files, ?_⟩
  rw [files]
  exact making_aside (Text.whole_of_all _ _ (by decide)) (by decide) making (aside.again here)

section

variable {here : Place}

theorem runTool_grounded (launcher : Launcher) (grounded : launcher.Grounded) (tool : String)
    (own : String → Fault) (command : List String) (timeout : Int) :
    Keeps (fun session => session.files.here = here) (fun _ => True)
      (runTool launcher tool own command timeout) := by
  refine Search.tool_grounded fun session => ?_
  by_cases passable : Passable command
  · obtain ⟨heard, performed, _⟩ := runTool_heard launcher tool own command timeout session _ _
      passable rfl
    rw [performed]
    exact grounded command timeout session.environment session.files
  · rw [runTool_impassable _ _ _ _ _ _ passable]

end

theorem toolbox_grounded (launcher : Launcher) (settings : Settings)
    (grounded : launcher.Grounded) : Search.Grounded (toolbox launcher settings) where
  disassemble image tree session := by
    have keeps : Keeps (fun other => other.files.here = session.files.here) (fun _ => True)
        (disassemble launcher settings image tree) := by
      refine keeps_bind (runTool_grounded launcher grounded ..) fun finished => ?_
      refine keeps_if (keeps_bind (keeps_throw trivial) fun _ => ?_) ?_
      all_goals
        exact keeps_bind (keeps_ask fun _ => trivial) fun _ => Search.record_grounded _
    exact keeps.session session rfl
  assemble tree image session := by
    have keeps : Keeps (fun other => other.files.here = session.files.here) (fun _ => True)
        (assemble launcher settings tree image) := by
      rw [assemble_eq]
      refine keeps_bind (runTool_grounded launcher grounded ..) fun finished => ?_
      have accepting : ∀ isMade : Bool, Keeps (fun other => other.files.here = session.files.here)
          (fun _ => True) (do
            if !isMade then throw (.assembly (failureText "smali" finished))
            let size := Apk.kilobytes (← Action.fileSize image)
            Action.info s!"    smali output: {size}" : Action Unit) := by
        intro isMade
        refine keeps_if (keeps_bind (keeps_throw trivial) fun _ => ?_) ?_
        all_goals
          exact keeps_bind (keeps_ask fun _ => trivial) fun _ => Search.record_grounded _
      exact keeps_if (keeps_bind (keeps_pure false) accepting)
        (keeps_bind (keeps_ask fun _ => trivial) accepting)
    exact keeps.session session rfl

/-- What a success leaves behind. An assembler that returns has its output before it. A signer
that returns has had its program end well, and finds at the output just what the program has left
there; so does a run that succeeds, which has come to its end by nothing but such a return. -/
theorem success_leaves (launcher : Launcher) (settings : Settings) :
    (∀ source output session after,
      (assemble launcher settings source output).perform session = (.ok (), after) →
      ∃ content, after.files.read output = .ok content) ∧
    (∀ unsigned output material minSdk session after, launcher.Grounded →
      Aside "apksurgeon_keys_" session.files output →
      (sign launcher settings unsigned output material minSdk).perform session = (.ok (), after) →
      ∃ program directory ready run left,
        Prepared settings material session program directory ready ∧
        launcher (signCommand program directory unsigned output material minSdk) settings.timeout
          session.environment ready.files = (run, left) ∧
        run.Ended 0 ∧ after.files = left.clearTree directory ∧
        after.files.read output = left.read output) ∧
    ∀ (pipeline : Search.Pipeline) input output material session after (report : Search.Report),
      launcher.Grounded → pipeline.setting.toolbox = toolbox launcher settings →
      pipeline.setting.disk = Smali.Disk.plain → Search.Quiet pipeline.setting.progress →
      Aside "apksurgeon_keys_" session.files output →
      Aside "apk_processing_" session.files output →
      (pipeline.run input output material).perform session = (.ok report, after) →
      report.isSuccess = true →
      report.output? = some output ∧ ∃ root program directory calling ready run left,
        Prepared settings material calling program directory ready ∧
        launcher (signCommand program directory (root / "unsigned_modified.apk") output material
          pipeline.minSdk) settings.timeout calling.environment ready.files = (run, left) ∧
        run.Ended 0 ∧ after.files = (left.clearTree directory).clearTree root ∧
        after.files.read output = left.read output := by
  refine ⟨?assembler, ?signer, ?run⟩
  case assembler =>
    intro source output session after done
    obtain ⟨_, left, content, _, _, same, read⟩ := assemble_returned _ _ _ _ _ _ done
    exact ⟨content, same ▸ read⟩
  case signer =>
    intro unsigned output material minSdk session after grounded aside done
    obtain ⟨program, directory, ready, run, left, prepared, ran, ended, _, files, same⟩ :=
      sign_output _ _ _ _ _ _ _ _ grounded aside done
    exact ⟨program, directory, ready, run, left, prepared, ran, ended, files, same⟩
  case run =>
    intro pipeline input output material session after report grounded tools disk quiet keys
      processing done success
    obtain ⟨delivered, root, made, calling, ended, making, here, returned, swept⟩ :=
      Search.run_succeeds pipeline input output material session after report quiet disk
        (tools ▸ toolbox_grounded launcher settings grounded) done success
    rw [tools] at returned
    obtain ⟨program, directory, ready, run, left, prepared, ran, well, kept, cleared, read⟩ :=
      sign_output _ _ _ _ _ _ _ _ grounded (keys.again here) returned
    refine ⟨delivered, root, program, directory, calling, ready, run, left, prepared, ran, well,
      by rw [swept, cleared], ?_⟩
    have same : ended.files.here = session.files.here := by
      rw [cleared, clearTree_here, kept, here]
    rw [swept, ← read]
    exact making_aside (Text.whole_of_all _ _ (by decide)) (by decide) making
      (processing.again same)

/-- A program that puts a copy of one file in another place. -/
def copying (source target : Path) (files : Files) : Run × Files :=
  match (do files.write target (← files.read source)) with
  | .ok after => (.finished 0 [] [], after)
  | .error _ => (.finished 1 [] [], files)

def copyingLauncher : Launcher := fun command _ _ files =>
  match command with
  | [_, "-jar", _, "d", _, _, _, _, image, _, tree] =>
      copying (Path.ofText image) (Path.ofText tree / "A.smali") files
  | [_, "-jar", _, "a", _, _, _, _, tree, _, image] =>
      copying (Path.ofText tree / "A.smali") (Path.ofText image) files
  | command =>
      match command.reverse with
      | unsigned :: output :: _ => copying (Path.ofText unsigned) (Path.ofText output) files
      | _ => (.finished 1 [] [], files)

def copyingPipeline : Search.Pipeline where
  setting := { Search.givenPipeline.setting with toolbox := toolbox copyingLauncher givenSettings }
  minSdk := 21
  temporaryRoot := none
  keepUnsigned := false
  deflate := Search.givenPipeline.deflate

theorem copying_here (source target : Path) (files : Files) :
    (copying source target files).2.here = files.here := by
  unfold copying
  split
  · rename_i after done
    cases read : files.read source with
    | error cause => simp [read, bind, Except.bind] at done
    | ok content => exact write_here (by simpa [read, bind, Except.bind] using done)
  · rfl

theorem copyingLauncher_grounded : copyingLauncher.Grounded := by
  intro command timeout environment files
  unfold copyingLauncher
  split
  · exact copying_here ..
  · exact copying_here ..
  · split
    · exact copying_here ..
    · rfl

theorem aside_of_short (stem name : String) (files : Files) (root : files.here = [])
    (short : name.length < stem.length) : Aside stem files ⟨0, [name]⟩ := by
  intro number member
  have same : stem ++ suffix number = name := by
    simpa [start, Path.isAbsolute, root] using member
  rw [← same, String.length_append] at short
  omega

theorem success_leaves_given :
    ∃ report after, (copyingPipeline.run ⟨0, ["in.apk"]⟩ ⟨0, ["out.apk"]⟩
        [⟨"CERT", .ok [1], [[2]]⟩]).perform Search.givenSession = (.ok report, after) ∧
      report.output? = some ⟨0, ["out.apk"]⟩ ∧
      ∃ root program directory calling ready run left,
        Prepared givenSettings [⟨"CERT", .ok [1], [[2]]⟩] calling program directory ready ∧
        copyingLauncher (signCommand program directory (root / "unsigned_modified.apk")
          ⟨0, ["out.apk"]⟩ [⟨"CERT", .ok [1], [[2]]⟩] 21) 600 calling.environment ready.files =
            (run, left) ∧
        run.Ended 0 ∧ after.files = (left.clearTree directory).clearTree root ∧
        after.files.read ⟨0, ["out.apk"]⟩ = left.read ⟨0, ["out.apk"]⟩ := by
  have works : ((copyingPipeline.run ⟨0, ["in.apk"]⟩ ⟨0, ["out.apk"]⟩
      [⟨"CERT", .ok [1], [[2]]⟩]).perform Search.givenSession).1.toOption.map
        Search.Report.isSuccess = some true := by
    decide +kernel
  rcases done : (copyingPipeline.run ⟨0, ["in.apk"]⟩ ⟨0, ["out.apk"]⟩
      [⟨"CERT", .ok [1], [[2]]⟩]).perform Search.givenSession with ⟨fault | report, after⟩
  · rw [done] at works
    cases works
  · rw [done] at works
    have success : report.isSuccess = true := by simpa [Except.toOption] using works
    exact ⟨report, after, rfl, (success_leaves copyingLauncher givenSettings).2.2 copyingPipeline
      _ _ _ _ _ _ copyingLauncher_grounded rfl rfl (fun _ _ => rfl)
      (aside_of_short _ _ _ rfl (by decide)) (aside_of_short _ _ _ rfl (by decide)) done success⟩

/-- A signer that returns, and nothing stands at its output. -/
theorem idle_signer_leaves_nothing :
    ∃ after, (sign idleLauncher givenSettings (Path.ofText "/in.apk") (Path.ofText "/out.apk")
        [⟨"CERT", .ok [1], [[2]]⟩] 21).perform givenSession = (.ok (), after) ∧
      after.files.resolve (Path.ofText "/out.apk") = .ok ["out.apk"] ∧
      after.files.node? ["out.apk"] = none := by
  refine ⟨_, perform_of_toOption _ _ () (by decide +kernel), ?_, by decide +kernel⟩
  exact (resolve_eq_ok ..).mpr ⟨⟨by decide +kernel, by decide +kernel⟩, by rfl⟩

end DexGraft.Tool
