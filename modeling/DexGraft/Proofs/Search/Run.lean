import DexGraft.Proofs.Apk.Archive
import DexGraft.Proofs.Search.Row

/-!
A whole run. What the signer is given is the input with one image replaced, and
the new image is what the tools and the rewrite made of the old one.
-/
namespace DexGraft.Search

open Files DexGraft.Action

theorem faulted_ok (pipeline : Pipeline) (attempts : List Attempt) (fault : Fault)
    (session after : Session) (report : Report)
    (done : (faulted pipeline attempts fault).perform session = (.ok report, after)) :
    isReported fault = true ∧
      ((∃ base ending, fault = .noImages base ending) ∧ report = ⟨.noImages fault, attempts⟩ ∨
        (∀ base ending, fault ≠ .noImages base ending) ∧ report = ⟨.failed fault, attempts⟩) := by
  simp only [faulted] at done
  split at done
  · simp only [bind_eq_ok, pure_eq_ok] at done
    obtain ⟨_, _, _, _, _, _, rfl, _⟩ := done
    exact ⟨rfl, Or.inl ⟨⟨_, _, rfl⟩, rfl⟩⟩
  · rename_i other
    split at done
    · exact absurd done (throw_ne_ok _ _ _ _)
    · rename_i reported
      simp only [bind_eq_ok, pure_eq_ok] at done
      obtain ⟨_, _, _, _, _, _, rfl, _⟩ := done
      exact ⟨by simpa using reported, Or.inr ⟨fun base ending same => other base ending same, rfl⟩⟩

theorem run_steps (pipeline : Pipeline) (input output : Path) (material : List Signer)
    (session after : Session) (report : Report)
    (done : (pipeline.run input output material).perform session = (.ok report, after))
    (ended : report.isSuccess = true ∨ report.cause? = some .signingError) :
    (course pipeline input output material).perform session =
      (.ok (report.attempts, .ok report.conclusion), after) := by
  simp only [Pipeline.run, bind_eq_ok] at done
  obtain ⟨⟨attempts, ending⟩, middle, ran, done⟩ := done
  cases ending with
  | error fault =>
      obtain ⟨_, ⟨_, rfl⟩ | ⟨_, rfl⟩⟩ := faulted_ok _ _ _ _ _ _ done
      all_goals simp [Report.isSuccess, Report.cause?] at ended
  | ok conclusion =>
      obtain ⟨rfl, rfl⟩ := (pure_eq_ok ..).mp done
      rcases (tryCatch_eq_ok ..).mp ran with went | ⟨fault, stopped, _, handled⟩
      · exact went
      · obtain ⟨same, _⟩ := (pure_eq_ok ..).mp handled
        cases same

def Pipeline.making (pipeline : Pipeline) (session : Session) : Action Path :=
  makeTemporary (pipeline.temporaryRoot.getD session.temporary) "apk_processing_"

structure Opened (session made : Session) (root : Path) (rootPlace : Place) : Prop where
  site : Site session.files root rootPlace
  underway : Underway session.files rootPlace made.files
  bare : ∀ name more, made.files.node? (rootPlace ++ name :: more) = none
  readable : ∀ path content, session.files.read path = .ok content →
    made.files.read path = .ok content
  sound : made.files.Sound
  journal : made.journal = session.journal

theorem making_ok (pipeline : Pipeline) (session made : Session) (root : Path)
    (sound : session.files.Sound)
    (making : (pipeline.making session).perform session = (.ok root, made)) :
    ∃ rootPlace, Opened session made root rootPlace := by
  obtain ⟨name, rootPlace, plainName, rooted, reached, free, named, rfl⟩ :=
    makeTemporary_ok _ _ _ _ _ (Text.whole_of_all _ _ (by decide)) (by decide) making
  have site : Site session.files root rootPlace := ⟨⟨_, name, plainName, rooted⟩, reached, free⟩
  refine ⟨rootPlace, site, ⟨sameOutside_put _ _ _ named, ?there⟩, fun name more => ?bare,
    fun path content given => read_put _ _ _ _ _ free given, ?sound, rfl⟩
  case there => rw [node_put _ _ _ _ named, if_pos rfl]
  case bare =>
    rw [node_put _ _ _ _ named, if_neg (by simp)]
    exact sound.nothing_under rootPlace free _
  case sound =>
    obtain ⟨base, name, plain, rfl⟩ := site.child
    obtain ⟨parent, _, above, spot⟩ := resolve_named _ _ _ base.parts name
      (by rw [child_eq base name plain]) plain.down site.reached
    subst spot
    exact sound.put_directory parent name above

theorem course_steps (pipeline : Pipeline) (input output : Path) (material : List Signer)
    (session after : Session) (found : Course)
    (done : (course pipeline input output material).perform session = (.ok found, after)) :
    ∃ root made ended,
      (pipeline.making session).perform session = (.ok root, made) ∧
      (processed pipeline root input output material).perform made = (.ok found, ended) ∧
      after = { ended with files := ended.files.clearTree root } := by
  simp only [course, bind_eq_ok, get_eq_ok] at done
  obtain ⟨_, _, ⟨rfl, rfl⟩, root, made, making, done⟩ := done
  refine ⟨root, made, ?_⟩
  rw [perform_ensuring] at done
  rcases ran : (processed pipeline root input output material).perform made with ⟨result, ended⟩
  simp only [ran, perform_clearTree] at done
  cases done
  exact ⟨ended, making, rfl, rfl⟩

theorem searched_steps (pipeline : Pipeline) (root archivePath output : Path)
    (material : List Signer) (images : List Apk.Image) (session after : Session)
    (attempts : List Attempt) (conclusion : Conclusion)
    (done : (searched pipeline root archivePath output material images).perform session =
      (.ok (attempts, .ok conclusion), after)) :
    ∃ winner, (row pipeline.setting archivePath root session images).search.winner = .ok winner ∧
      (concluded pipeline root archivePath output material attempts winner).perform
        (row pipeline.setting archivePath root session images).search.session =
          (.ok conclusion, after) := by
  simp only [searched, bind_eq_ok, get_eq_ok] at done
  obtain ⟨_, _, ⟨rfl, rfl⟩, done⟩ := done
  generalize (row pipeline.setting archivePath root session images).search = found at done ⊢
  simp only [set_eq_ok] at done
  obtain ⟨_, _, rfl, done⟩ := done
  cases winner : found.winner with
  | error fault =>
      simp only [winner, pure_eq_ok] at done
      obtain ⟨same, _⟩ := done
      cases same
  | ok chosen =>
      simp only [winner, bind_eq_ok, pure_eq_ok] at done
      obtain ⟨ending, _, caught, same, rfl⟩ := done
      cases same
      refine ⟨chosen, rfl, ?_⟩
      rcases (tryCatch_eq_ok ..).mp caught with went | ⟨fault, stopped, _, handled⟩
      · rw [perform_map] at went
        split at went
        · rename_i value middle ran
          cases went
          exact ran
        · cases went
      · obtain ⟨same, _⟩ := (pure_eq_ok ..).mp handled
        cases same

theorem concluded_ok (pipeline : Pipeline) (root archivePath output : Path)
    (material : List Signer) (attempts : List Attempt) (winner : Option Attempt)
    (session after : Session) (conclusion : Conclusion)
    (done : (concluded pipeline root archivePath output material attempts winner).perform session =
      (.ok conclusion, after)) :
    conclusion = .notFound ∨
      ∃ image path, winner = some ⟨image, .promoted path⟩ ∧
        (rebuiltAndSigned pipeline root archivePath output image path material).perform session =
          (.ok conclusion, after) := by
  unfold concluded at done
  split at done
  · rename_i image path
    exact Or.inr ⟨image, path, rfl, done⟩
  · simp only [bind_eq_ok, pure_eq_ok] at done
    obtain ⟨_, _, _, _, _, _, rfl, _⟩ := done
    exact Or.inl rfl

section

variable {begun : Files} {root : Path} {rootPlace : Place}

theorem prepared_ok (pipeline : Pipeline) (input : Path) (session after : Session)
    (images : List Apk.Image) (quiet : Quiet pipeline.setting.progress)
    (site : Site begun root rootPlace) (underway : Underway begun rootPlace session.files)
    (bare : ∀ name more, session.files.node? (rootPlace ++ name :: more) = none)
    (done : (prepared pipeline input (root / "input.apk")).perform session = (.ok images, after)) :
    ∃ file archive, session.files.read input = .ok file ∧
      Zip.readWith pipeline.setting.reader.decoders file = .ok archive ∧
      Apk.selectImages archive.names Apk.defaultBase Apk.defaultExtension = .ok images ∧
      Between begun root rootPlace file after.files := by
  simp only [prepared, copyFile, info, bind_eq_ok, rewording_eq_ok, ask_eq_ok, change_eq_ok,
    log_eq_ok, pure_eq_ok] at done
  obtain ⟨_, told, progressed, _, copied, ⟨content, _, ⟨read, rfl⟩, files, written, rfl⟩, _, shown,
    progressed', selected, _, selecting, _, _, rfl, rfl, rfl⟩ := done
  have kept := quiet_ok quiet _ _ _ _ progressed
  have still := quiet_ok quiet _ _ _ _ progressed'
  rw [kept] at read written
  obtain ⟨_, archive, found, opened, chosen, rfl⟩ := (Apk.select_eq_ok ..).mp selecting
  have copy := write_read _ _ _ _ written
  rw [still, copy] at found
  cases found
  obtain ⟨place, _, reached, _, _⟩ := write_ok _ _ _ _ written
  obtain ⟨rfl, _⟩ := resolve_child _ root _ _ place input_plain (underway.root site) reached
  have same := write_outside _ _ _ _ _ reached written
  refine ⟨content, archive, read, opened, chosen, ?_, ?_, ?_⟩
  · rw [still]
    exact underway.step "input.apk" [] same
  · rw [still]
    exact copy
  · intro name more apart
    rw [still, same.rest _ fun under => ?_, bare]
    rw [List.prefix_append_right_inj, List.cons_prefix_cons] at under
    exact apart under.1.symm

/-- The last thing that happens is that the signer is given an archive, and the conclusion tells
what it answered. -/
structure Handed (pipeline : Pipeline) (unsigned output : Path) (entry : String)
    (material : List Signer) (handed : Bytes) (handing : Session) (conclusion : Conclusion)
    (closing : Session) : Prop where
  given : handing.files.read unsigned = .ok handed
  last : (signed pipeline unsigned output entry material).perform handing =
    (.ok conclusion, closing)
  answered : ∃ signing ended answer, signing.files = handing.files ∧
    (pipeline.setting.toolbox.sign unsigned output material pipeline.minSdk).perform signing =
      (answer, ended) ∧
    (answer = .ok () ∧ conclusion = .signed output entry ∨
      ∃ text kept, answer = .error (.signing text) ∧
        conclusion = .unsigned (.signing text) entry kept)

theorem Handed.patchedEntry {pipeline : Pipeline} {unsigned output : Path} {entry : String}
    {material : List Signer} {handed : Bytes} {handing closing : Session} {conclusion : Conclusion}
    (done : Handed pipeline unsigned output entry material handed handing conclusion closing)
    (attempts : List Attempt) :
    Report.patchedEntry? ⟨conclusion, attempts⟩ = some entry := by
  obtain ⟨_, _, _, _, _, ⟨_, rfl⟩ | ⟨_, _, _, rfl⟩⟩ := done.answered
  · rfl
  · rfl

theorem signed_ok (pipeline : Pipeline) (unsigned output : Path) (entry : String)
    (material : List Signer) (session after : Session) (conclusion : Conclusion) (handed : Bytes)
    (quiet : Quiet pipeline.setting.progress)
    (archive : session.files.read unsigned = .ok handed)
    (done : (signed pipeline unsigned output entry material).perform session =
      (.ok conclusion, after)) :
    Handed pipeline unsigned output entry material handed session conclusion after := by
  refine ⟨archive, done, ?_⟩
  simp only [signed, bind_eq_ok, record_eq_ok] at done
  obtain ⟨_, told, progressed, _, signing, recorded, refusal?, ended, guarded, done⟩ := done
  have kept := quiet_ok quiet _ _ _ _ progressed
  have same : signing.files = session.files := (congrArg Session.files recorded).trans kept
  refine ⟨signing, ?_⟩
  rcases guarded_ok _ _ _ _ _ guarded with ⟨ran, rfl⟩ | ⟨fault, stopped, ran, handled⟩
  · simp only [bind_eq_ok, pure_eq_ok] at done
    obtain ⟨_, _, _, _, _, _, rfl, _⟩ := done
    exact ⟨ended, _, same, ran, Or.inl ⟨rfl, rfl⟩⟩
  · cases fault with
    | signing text =>
        obtain ⟨rfl, rfl⟩ := (pure_eq_ok ..).mp handled
        simp only [bind_eq_ok, pure_eq_ok] at done
        obtain ⟨_, _, _, _, _, _, kept?, _, _, rfl, _⟩ := done
        exact ⟨stopped, _, same, ran, Or.inr ⟨text, kept?, rfl, rfl⟩⟩
    | _ => exact absurd handled (throw_ne_ok _ _ _ _)

theorem rebuiltAndSigned_ok (pipeline : Pipeline) (root archivePath output promotedPath : Path)
    (image : Apk.Image) (material : List Signer) (session after : Session)
    (conclusion : Conclusion) (file : Bytes) (archive : Zip.Archive)
    (quiet : Quiet pipeline.setting.progress) (inverts : Deflate.Inverts pipeline.deflate)
    (found : session.files.read archivePath = .ok file)
    (opened : Zip.readWith pipeline.setting.reader.decoders file = .ok archive)
    (listed : image.entry ∈ archive.names)
    (done : (rebuiltAndSigned pipeline root archivePath output image promotedPath material).perform
      session = (.ok conclusion, after)) :
    ∃ content others handed handing, session.files.read promotedPath = .ok content ∧
      Apk.Others archive image.entry others ∧ image.entry ∉ others.map Prod.fst ∧
      Zip.Consists handed (others ++ [(image.entry, content)]) ∧
      Handed pipeline (root / "unsigned_modified.apk") output image.entry material handed handing
        conclusion after := by
  simp only [rebuiltAndSigned, bind_eq_ok, rewording_eq_ok, ask_eq_ok] at done
  obtain ⟨_, told, progressed, content, _, ⟨read, rfl⟩, rebuilt, made, rebuilding, done⟩ := done
  have kept := quiet_ok quiet _ _ _ _ progressed
  rw [kept] at read
  obtain ⟨_, _, emptied, found', opened', rewriting, _, written⟩ :=
    Apk.rebuildFile_ok _ _ _ _ _ _ _ _ _ _ rebuilding
  rw [kept, found] at found'
  cases found'
  rw [opened] at opened'
  cases opened'
  obtain ⟨items, last, rewritten⟩ := (Apk.rebuild_eq_ok ..).mp rewriting
  obtain ⟨old, member, named⟩ := List.mem_map.mp listed
  have free : Zip.NulFree image.entry := named ▸ Zip.read_names file archive opened old member
  exact ⟨content, items.map Apk.member, rebuilt.bytes, made, read, rewritten.members,
    rewritten.members.apart, rewritten.consists inverts free,
    signed_ok _ _ _ _ _ _ _ _ _ quiet (write_read _ _ _ _ written) done⟩

end

/-- A run comes to an attempt on an image: its directory was made, the archive prepared, and all
images before it failed. -/
def Pipeline.Attempts (pipeline : Pipeline) (input root : Path) (image : Apk.Image)
    (session begun : Session) : Prop :=
  ∃ made images ready before later,
    (pipeline.making session).perform session = (.ok root, made) ∧
    (prepared pipeline input (root / "input.apk")).perform made = (.ok images, ready) ∧
    (row pipeline.setting (root / "input.apk") root ready images).Reaches
      (row pipeline.setting (root / "input.apk") root before (image :: later)) ∧
    Freshened root image before begun

/-- Whenever a run comes to its signer, the signer is given the input with one entry replaced. All
other entries but those of an earlier signature keep their order and their contents. The one entry
comes last, and its content is what the assembler made, in the run's last attempt, of a tree that
the disassembler drew from the entry's old content and in which only the class's file was
rewritten. -/
theorem run_hands_over (pipeline : Pipeline) (input output : Path) (material : List Signer)
    (session after : Session) (report : Report) (file : Bytes)
    (orderly : Orderly pipeline.setting) (inverts : Deflate.Inverts pipeline.deflate)
    (sound : session.files.Sound) (given : session.files.read input = .ok file)
    (done : (pipeline.run input output material).perform session = (.ok report, after))
    (ended : report.isSuccess = true ∨ report.cause? = some .signingError) :
    ∃ root image archive original content others handed,
      report.patchedEntry? = some image.entry ∧
      Zip.readWith pipeline.setting.reader.decoders file = .ok archive ∧
      Apk.LastContent archive image.entry original ∧
      Apk.Others archive image.entry others ∧ image.entry ∉ others.map Prod.fst ∧
      (∃ begun ready drawn given made won handing closing,
        pipeline.Attempts input root image session begun ∧
        Patched pipeline.setting root file image original begun ready drawn given made won ∧
        made.files.read (scratchOf root image / ("modified_" ++ image.entry)) = .ok content ∧
        (rebuiltAndSigned pipeline root (root / "input.apk") output image
          (scratchOf root image / image.entry) material).perform won =
            (.ok report.conclusion, closing) ∧
        Handed pipeline (root / "unsigned_modified.apk") output image.entry material handed handing
          report.conclusion closing ∧
        after = { closing with files := closing.files.clearTree root }) ∧
      Zip.Consists handed (others ++ [(image.entry, content)]) := by
  have ran := run_steps pipeline input output material session after report done ended
  obtain ⟨root, made, ending, making, processing, closed⟩ := course_steps _ _ _ _ _ _ _ ran
  obtain ⟨rootPlace, opened⟩ := making_ok pipeline session made root sound making
  simp only [processed, bind_eq_ok] at processing
  obtain ⟨images, ready, preparing, searching⟩ := processing
  obtain ⟨_, archive, read, zip, selected, between⟩ := prepared_ok pipeline input made ready images
    orderly.progress opened.site opened.underway opened.bare preparing
  rw [opened.readable input file given] at read
  cases read
  have chosen := Apk.selectImages_entries _ _ _ _ selected
  obtain ⟨winner, won, concluding⟩ := searched_steps _ _ _ _ _ _ _ _ _ _ searching
  rcases concluded_ok _ _ _ _ _ _ _ _ _ _ concluding with none | ⟨image, path, rfl, signing⟩
  -- Without a winner the run does not come to its signer.
  · simp [Report.isSuccess, Report.cause?, none] at ended
  · obtain ⟨member, promoted, before, later, reached, winning⟩ := search_ok pipeline.setting images
      ready _ opened.site (fun image member => (chosen image member).2) orderly between won
    injection promoted with promoted
    rw [promoted] at signing
    obtain ⟨original, begun, readied, drawn, giving, built, fresh, patched⟩ := winning.patched
    obtain ⟨content, others, handed, handing, there, members, apart, consists, last⟩ :=
      rebuiltAndSigned_ok _ _ _ _ _ _ _ _ _ _ _ archive orderly.progress inverts winning.archive
        zip (chosen image member).1 signing
    obtain ⟨_, zip', holds⟩ := patched.holds
    rw [zip] at zip'
    cases zip'
    exact ⟨root, image, archive, original, content, others, handed, last.patchedEntry _, zip, holds,
      members, apart, ⟨begun, readied, drawn, giving, built, _, handing, ending,
        ⟨made, images, ready, before, later, making, preparing, reached, fresh⟩, patched,
        patched.passed.read there, signing, last, closed⟩, consists⟩

def plainTools : Toolbox where
  disassemble image tree := do
    let _ ← ask fun files => files.find tree
    let content ← ask fun files => files.read image
    change fun files => files.write (tree / "A.smali") content
  assemble tree image := do
    let content ← ask fun files => files.read (tree / "A.smali")
    change fun files => files.write image content
  sign _ _ _ _ := pure ()

theorem plainClass_plain : PlainName "A.smali" := ⟨by decide +kernel, by decide⟩

def givenPatch : Patch where
  targetClass := "A"
  signature := ".method a"
  replacement := ".method a\n  return\n.end method"
  class_filled := by decide +kernel
  signature_filled := by decide +kernel
  replacement_filled := by decide +kernel

def givenPipeline : Pipeline where
  setting := ⟨plainTools, Zip.plainReader, Smali.Disk.plain, givenPatch, fun _ => pure ()⟩
  minSdk := 21
  temporaryRoot := none
  keepUnsigned := false
  deflate := Deflate.packing Apk.greeting Apk.packedGreeting

def givenImage : Bytes := Bytes.ofText ".method a\n  nop\n.end method\n"

/-- An image between two other entries, one of them deflated, and the manifest of a signature. -/
def givenArchive : Bytes := Zip.archiveBytes [
  Apk.givenEntry "b" .deflated Apk.greeting Apk.packedGreeting 0,
  Apk.givenEntry "META-INF/MANIFEST.MF" .stored [] [] 41,
  Apk.givenEntry "classes.dex" .stored givenImage givenImage 91,
  Apk.givenEntry "a" .stored [1] [1] 160]

def givenSession : Session where
  files := ⟨[(["tmp"], .directory), (["in.apk"], .file givenArchive newFileMode)], []⟩
  journal := []
  clock := Zip.Stamp.earliest
  environment := []
  temporary := ⟨1, ["tmp"]⟩

theorem plainTools_confined : Confined plainTools where
  disassemble image tree session place within := by
    apply asked_only
    intro node found
    obtain ⟨spot, reached, _⟩ := (find_eq_ok ..).mp found
    apply asked_only
    intro content _
    apply written_only
    intro inner leads
    rw [resolve_down _ tree "A.smali" ["A.smali"] spot inner (by decide +kernel) (by decide) reached
      leads]
    exact (within spot reached).trans (List.prefix_append _ _)
  assemble tree image session place within := by
    apply asked_only
    intro content _
    exact written_only image content session place within

theorem givenSession_sound : givenSession.files.Sound := by
  intro place name there
  cases place with
  | nil => rfl
  | cons first more =>
      exfalso
      apply there
      simp [givenSession, node?]

theorem run_hands_over_given :
    Orderly givenPipeline.setting ∧ givenSession.files.Sound ∧
      givenSession.files.read ⟨0, ["in.apk"]⟩ = .ok givenArchive ∧
      ∃ report after content others handed,
        (givenPipeline.run ⟨0, ["in.apk"]⟩ ⟨0, ["out.apk"]⟩ []).perform givenSession =
          (.ok report, after) ∧
        report.isSuccess = true ∧ report.patchedEntry? = some "classes.dex" ∧
        Zip.Consists handed (others ++ [("classes.dex", content)]) := by
  have orderly : Orderly givenPipeline.setting := ⟨rfl, fun _ _ => rfl, plainTools_confined,
    staysInside_of_down _ ["A.smali"] (by decide +kernel) (by decide) (by decide)⟩
  have given : givenSession.files.read ⟨0, ["in.apk"]⟩ = .ok givenArchive := rfl
  have works : ((givenPipeline.run ⟨0, ["in.apk"]⟩ ⟨0, ["out.apk"]⟩ []).perform
      givenSession).1.toOption.map (fun report => (report.isSuccess, report.patchedEntry?)) =
        some (true, some "classes.dex") := by
    decide +kernel
  rcases done : (givenPipeline.run ⟨0, ["in.apk"]⟩ ⟨0, ["out.apk"]⟩ []).perform givenSession with
    ⟨fault | report, after⟩
  · rw [done] at works
    cases works
  · rw [done] at works
    simp only [Except.toOption, Option.map_some, Option.some.injEq, Prod.mk.injEq] at works
    obtain ⟨success, patched⟩ := works
    obtain ⟨_, image, _, _, content, others, handed, named, _, _, _, _, _, consists⟩ :=
      run_hands_over givenPipeline _ _ _ _ _ _ _ orderly Apk.greeting_inverts givenSession_sound
        given done (Or.inl success)
    rw [patched] at named
    injection named with named
    rw [← named] at consists
    exact ⟨orderly, givenSession_sound, given, report, after, content, others,
      handed, rfl, success, patched, consists⟩

end DexGraft.Search
