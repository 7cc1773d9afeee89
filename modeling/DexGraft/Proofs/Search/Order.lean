import DexGraft.Proofs.Search.Signing
import DexGraft.Proofs.Search.Trial
import Mathlib.Algebra.Group.Nat.Defs

/-!
The order of the trials. Images are tried one after the other as they are ranked; the
first one that is patched ends the search, and so does the first trial that breaks.
The calls of a whole run are those of its trials, and at most one of the signer.
-/
namespace DexGraft.Search

open Files DexGraft.Action

section

variable {session made : Session} {root : Path} {rootPlace : Place} {file : Bytes}
  {archive : Zip.Archive} {image : Apk.Image} {calls : List Event} {allowed : Fault → Prop}
  {setting : Setting}

theorem swept_pinned (opened : Opened session made root rootPlace) (tried : Session)
    (pinned : At (Pinned made.files rootPlace file) calls tried) :
    At (Pinned made.files rootPlace file) calls (swept (scratchOf root image) tried) := by
  have clearing : Keeps (At (Pinned made.files rootPlace file) calls) (fun _ => True)
      (Action.clearTree (scratchOf root image)) := opened.scratch.clearTree
  exact clearing.session tried pinned

theorem tryImage_went (opened : Opened session made root rootPlace) (tame : Tame setting allowed)
    (customary : image.Customary) (zip : Zip.readWith setting.reader.decoders file = .ok archive)
    (before after : Session) (result : Except Fault Attempt)
    (pinned : At (Pinned made.files rootPlace file) calls before)
    (done : (tryImage setting (root / "input.apk") root image).perform before = (result, after)) :
    ∃ trial, Tells setting root archive allowed (Pinned made.files rootPlace file) calls image
      before result after trial := by
  have tolerant : ∀ calls, Tolerant setting (At (Pinned made.files rootPlace file) calls) allowed :=
    fun calls => tolerant_at tame.progress tame.usual
  have freshening : Keeps (At (Pinned made.files rootPlace file) calls) allowed
      (freshScratch (scratchOf root image)) := freshScratch_pinned opened tame
  cases tryImage_tried _ _ _ _ _ _ _ done with
  | unmade fault after making =>
      have fine := freshening.broken _ _ _ pinned making
      exact ⟨⟨image, none, false, .error fault⟩, rfl, rfl, .unready (.unmade after making),
        by simpa [Trial.calls] using freshening.after _ _ _ pinned making,
        fun _ same => Except.error.inj same ▸ fine⟩
  | untold message fault made after making telling =>
      exact absurd telling (tame.progress.unbroken _ _ _ _)
  | tried message answer result made told tried after making telling trying closing =>
      have ready := ((tolerant _).told message).after _ _ _ (freshening.after _ _ _ pinned making)
        telling
      have fresh : Freshened root image before told :=
        ⟨made, making, quiet_ok tame.progress.quiet _ _ _ _ telling⟩
      obtain ⟨trial, subject, ended, went, left, fine⟩ := attempt_went opened tame customary zip
        before told tried answer fresh pinned.calls ready trying
      refine ⟨trial, ?_⟩
      cases closing with
      | broken fault => exact ⟨subject, ended, went, swept_pinned opened _ left, fine⟩
      | patched result won => exact ⟨subject, ended, went, left, fine⟩
      | failed result message _ _ lost shown =>
          exact ⟨subject, ended, went, ((tolerant _).told message).after _ _ _
            (swept_pinned opened _ left) shown, fine⟩
      | untold result message fault _ _ lost shown =>
          exact absurd shown (tame.progress.unbroken _ _ _ _)

/-- How a search goes over images: trials, as many as it makes, each from where the one before it
ended, and what it comes to. -/
inductive Searched (setting : Setting) (root : Path) (archive : Zip.Archive) :
    Session → List Apk.Image → List Trial → Except Fault (Option Attempt) → Session → Prop
  | exhausted {before : Session} : Searched setting root archive before [] [] (.ok none) before
  | broken {before after : Session} {rest : List Apk.Image} {trial : Trial} {fault : Fault}
      (run : (tryImage setting (root / "input.apk") root trial.image).perform before =
        (.error fault, after))
      (went : Went setting root archive before trial) (ended : trial.result = .error fault) :
      Searched setting root archive before (trial.image :: rest) [trial] (.error fault) after
  | patched {before after : Session} {rest : List Apk.Image} {trial : Trial} {attempt : Attempt}
      (run : (tryImage setting (root / "input.apk") root trial.image).perform before =
        (.ok attempt, after))
      (went : Went setting root archive before trial) (ended : trial.result = .ok attempt)
      (won : attempt.isPatched = true) :
      Searched setting root archive before (trial.image :: rest) [trial] (.ok (some attempt)) after
  | failed {before between after : Session} {rest : List Apk.Image} {trial : Trial}
      {trials : List Trial} {attempt : Attempt} {winner : Except Fault (Option Attempt)}
      (run : (tryImage setting (root / "input.apk") root trial.image).perform before =
        (.ok attempt, between))
      (went : Went setting root archive before trial) (ended : trial.result = .ok attempt)
      (lost : attempt.isPatched = false)
      (later : Searched setting root archive between rest trials winner after) :
      Searched setting root archive before (trial.image :: rest) (trial :: trials) winner after

def attemptsOf (trials : List Trial) : List Attempt :=
  trials.filterMap fun trial => trial.result.toOption

theorem attemptsOf_broken {trial : Trial} {fault : Fault} (ended : trial.result = .error fault)
    (trials : List Trial) : attemptsOf (trial :: trials) = attemptsOf trials := by
  simp [attemptsOf, ended, Except.toOption]

theorem attemptsOf_ended {trial : Trial} {attempt : Attempt} (ended : trial.result = .ok attempt)
    (trials : List Trial) : attemptsOf (trial :: trials) = attempt :: attemptsOf trials := by
  simp [attemptsOf, ended, Except.toOption]

-- By induction on the images, as the row itself goes over them.
theorem search_went (opened : Opened session made root rootPlace) (tame : Tame setting allowed)
    (images : List Apk.Image) (customary : ∀ image ∈ images, image.Customary)
    (zip : Zip.readWith setting.reader.decoders file = .ok archive) (before : Session)
    (pinned : At (Pinned made.files rootPlace file) calls before) :
    ∃ trials, Searched setting root archive before images trials
        (row setting (root / "input.apk") root before images).search.winner
        (row setting (root / "input.apk") root before images).search.session ∧
      (row setting (root / "input.apk") root before images).search.attempts = attemptsOf trials ∧
      At (Pinned made.files rootPlace file) (calls ++ trials.flatMap Trial.calls)
        (row setting (root / "input.apk") root before images).search.session ∧
      ∀ fault, (row setting (root / "input.apk") root before images).search.winner = .error fault →
        allowed fault := by
  induction images generalizing before calls with
  | nil =>
      rw [row_nil, Row.search]
      exact ⟨[], .exhausted, rfl, by rwa [List.flatMap_nil, List.append_nil], unbroken⟩
  | cons image rest ih =>
      rcases tried : (tryImage setting (root / "input.apk") root image).perform before with
        ⟨result, after⟩
      obtain ⟨trial, rfl, rfl, went, left, fine⟩ := tryImage_went opened tame
        (customary image List.mem_cons_self) zip before after result pinned tried
      cases ended : trial.result with
      | error fault =>
          rw [ended] at tried fine
          simp only [row_cons, tried, Row.search]
          exact ⟨[trial], .broken tried went ended, (attemptsOf_broken ended []).symm,
            by simpa using left, fun _ same => Except.error.inj same ▸ fine fault rfl⟩
      | ok attempt =>
          rw [ended] at tried
          simp only [row_cons, tried, Row.search]
          cases won : attempt.isPatched with
          | true =>
              simp only [if_true]
              exact ⟨[trial], .patched tried went ended won, (attemptsOf_ended ended []).symm,
                by simpa using left, unbroken⟩
          | false =>
              obtain ⟨trials, searched, attempts, later, fine⟩ := ih
                (fun other member => customary other (List.mem_cons_of_mem _ member)) after left
              simp only [Bool.false_eq_true, if_false]
              refine ⟨trial :: trials, .failed tried went ended won searched, ?_, ?_, fine⟩
              · rw [attempts, attemptsOf_ended ended]
              · simpa [List.append_assoc] using later

end

section

variable {setting : Setting} {root : Path} {archive : Zip.Archive} {before after : Session}

theorem Went.handed {trial : Trial} {attempt : Attempt}
    (went : Went setting root archive before trial) (ended : trial.result = .ok attempt) :
    trial.handed?.isSome = true := by
  cases went with
  | unready => cases ended
  | broken => cases ended
  | judged => rfl

/-- The trials begin with the first image, each but the last one hands its image over and fails,
and they end with the images, with a patched one, or with a fault. -/
structure InOrder (images : List Apk.Image) (trials : List Trial) : Prop where
  front : trials.map Trial.image <+: images
  onward : ∀ trial ∈ trials.dropLast, trial.handed?.isSome = true ∧
    ∃ attempt, trial.result = .ok attempt ∧ attempt.isPatched = false
  stop : trials.map Trial.image = images ∨ ∃ last, trials.getLast? = some last ∧
    ((∃ attempt, last.result = .ok attempt ∧ attempt.isPatched = true) ∨
      ∃ fault, last.result = .error fault)

theorem Searched.inOrder {images : List Apk.Image} {trials : List Trial}
    {winner : Except Fault (Option Attempt)}
    (searched : Searched setting root archive before images trials winner after) :
    InOrder images trials := by
  induction searched with
  | exhausted => exact ⟨List.prefix_refl _, by simp, Or.inl rfl⟩
  | broken run went ended => exact ⟨by simp, by simp, Or.inr ⟨_, rfl, Or.inr ⟨_, ended⟩⟩⟩
  | patched run went ended won =>
      exact ⟨by simp, by simp, Or.inr ⟨_, rfl, Or.inl ⟨_, ended, won⟩⟩⟩
  | @failed _ _ _ rest trial trials attempt winner run went ended lost later ih =>
      refine ⟨by simpa using ih.front, fun other member => ?_, ?_⟩
      · cases trials with
        | nil => simp at member
        | cons next more =>
            rcases List.mem_cons.mp member with rfl | member
            · exact ⟨went.handed ended, _, ended, lost⟩
            · exact ih.onward other member
      · rcases ih.stop with same | ⟨last, there, stopped⟩
        · exact Or.inl (by rw [List.map_cons, same])
        · cases trials with
          | nil => cases there
          | cons next more => exact Or.inr ⟨last, by rwa [List.getLast?_cons_cons], stopped⟩

theorem Went.subject {trial : Trial} {attempt : Attempt}
    (went : Went setting root archive before trial) (ended : trial.result = .ok attempt) :
    attempt.image = trial.image := by
  cases went with
  | unready => cases ended
  | broken => cases ended
  | judged => cases ended; rfl

theorem Searched.lost {images : List Apk.Image} {trials : List Trial}
    {winner : Except Fault (Option Attempt)}
    (searched : Searched setting root archive before images trials winner after)
    (lost : winner = .ok none) :
    (attemptsOf trials).map Attempt.image = images ∧
      ∀ attempt ∈ attemptsOf trials, attempt.isPatched = false := by
  induction searched with
  | exhausted => exact ⟨rfl, List.forall_mem_nil _⟩
  | broken => cases lost
  | patched => cases lost
  | failed run went ended unpatched later ih =>
      obtain ⟨images, others⟩ := ih lost
      rw [attemptsOf_ended ended, List.map_cons, went.subject ended, images]
      exact ⟨rfl, List.forall_mem_cons.mpr ⟨unpatched, others⟩⟩

theorem Searched.won {images : List Apk.Image} {trials : List Trial}
    {winner : Except Fault (Option Attempt)}
    (searched : Searched setting root archive before images trials winner after)
    {attempt : Attempt} (won : winner = .ok (some attempt)) :
    ∃ failed, attemptsOf trials = failed ++ [attempt] ∧
      (∀ other ∈ failed, other.isPatched = false) ∧ attempt.isPatched = true := by
  induction searched with
  | exhausted => cases won
  | broken => cases won
  | patched run went ended patched =>
      cases won
      exact ⟨[], attemptsOf_ended ended [], List.forall_mem_nil _, patched⟩
  | failed run went ended unpatched later ih =>
      obtain ⟨failed, attempts, others, patched⟩ := ih won
      rw [attemptsOf_ended ended, attempts]
      exact ⟨_ :: failed, rfl, List.forall_mem_cons.mpr ⟨unpatched, others⟩, patched⟩

theorem Searched.unhanded {image : Apk.Image} {rest : List Apk.Image} {trials : List Trial}
    {winner : Except Fault (Option Attempt)}
    (searched : Searched setting root archive before (image :: rest) trials winner after)
    (unmade : ∀ fresh, (freshScratch (scratchOf root image)).perform before ≠ (.ok (), fresh)) :
    trials.flatMap Trial.calls = [] ∧ attemptsOf trials = [] := by
  have undrawn : ∀ content answer drawn,
      ¬Drew setting root image before content answer drawn := by
    rintro content answer drawn ⟨_, _, ⟨⟨_, _, _, ⟨fresh, making, _⟩, _⟩, _⟩, _⟩
    exact unmade fresh making
  have ended : ∀ trial, trial.image = image → Went setting root archive before trial →
      trial.calls = [] ∧ ∃ fault, trial.result = .error fault := by
    rintro trial rfl went
    cases went with
    | unready why => exact ⟨rfl, _, rfl⟩
    | broken holds drew called => exact absurd drew (undrawn _ _ _)
    | judged holds drew called verdict => exact absurd drew (undrawn _ _ _)
  cases searched with
  | broken run went ended' =>
      obtain ⟨uncalled, _⟩ := ended _ rfl went
      exact ⟨by simp [uncalled], attemptsOf_broken ended' []⟩
  | patched run went ended' won =>
      obtain ⟨_, fault, broken⟩ := ended _ rfl went
      rw [broken] at ended'
      cases ended'
  | failed run went ended' lost later =>
      obtain ⟨_, fault, broken⟩ := ended _ rfl went
      rw [broken] at ended'
      cases ended'

end

/-- A run that comes to its search ends with what the search and the conclusion come to. -/
theorem run_found (pipeline : Pipeline) (input output root : Path) (material : List Signer)
    (images : List Apk.Image) (session made ready after : Session) (result : Except Fault Report)
    (making : (pipeline.making session).perform session = (.ok root, made))
    (preparing : (prepared pipeline input (root / "input.apk")).perform made = (.ok images, ready))
    (done : (pipeline.run input output material).perform session = (result, after)) :
    (∃ fault, (pipeline.found root ready images).winner = .error fault ∧
        (faulted pipeline (pipeline.found root ready images).attempts fault).perform
          (swept root (pipeline.found root ready images).session) = (result, after)) ∨
      ∃ winner ending closed, (pipeline.found root ready images).winner = .ok winner ∧
        (concluded pipeline root (root / "input.apk") output material
          (pipeline.found root ready images).attempts winner).perform
            (pipeline.found root ready images).session = (ending, closed) ∧
        ((∃ fault, ending = .error fault ∧
            (faulted pipeline (pipeline.found root ready images).attempts fault).perform
              (swept root closed) = (result, after)) ∨
          ∃ conclusion, ending = .ok conclusion ∧ after = swept root closed ∧
            result = .ok ⟨conclusion, (pipeline.found root ready images).attempts⟩) := by
  cases run_cases pipeline input output material session after result done with
  | unmade fault result stopped after making' => cases making.symm.trans making'
  | unprepared root' fault result made' stopped after making' preparing' =>
      cases making.symm.trans making'
      cases preparing.symm.trans preparing'
  | unfound root' images' fault result made' ready' after making' preparing' broken reporting =>
      cases making.symm.trans making'
      cases preparing.symm.trans preparing'
      exact Or.inl ⟨fault, broken, reporting⟩
  | unended root' images' winner fault result made' ready' stopped after making' preparing' finding
      concluding reporting =>
      cases making.symm.trans making'
      cases preparing.symm.trans preparing'
      exact Or.inr ⟨winner, _, stopped, finding, concluding, Or.inl ⟨fault, rfl, reporting⟩⟩
  | ended root' images' winner conclusion made' ready' closing making' preparing' finding
      concluding =>
      cases making.symm.trans making'
      cases preparing.symm.trans preparing'
      exact Or.inr ⟨winner, _, closing, finding, concluding, Or.inr ⟨conclusion, rfl, rfl, rfl⟩⟩

section

variable {pipeline : Pipeline} {holds : Files → Prop} {calls : List Event} {allowed : Fault → Prop}

theorem prepared_calls (polite : Polite pipeline.setting.progress) (input archive : Path)
    (session after : Session) (result : Except Fault (List Apk.Image))
    (done : (prepared pipeline input archive).perform session = (result, after)) :
    after.calls = session.calls := by
  have tolerant : Tolerant pipeline.setting (At (fun _ => True) session.calls) fun _ => True :=
    tolerant_at polite usual_any
  exact ((prepared_keeps pipeline tolerant (fun _ => trivial) input archive fun content =>
    keeps_change (fun _ => trivial) fun _ _ before _ => ⟨trivial, before.calls⟩).after _ _ _
      (at_calls session) done).calls

theorem prepared_chooses (pipeline : Pipeline) (polite : Polite pipeline.setting.progress)
    (input copy : Path) (session : Session) (file : Bytes) (files : Files) (archive : Zip.Archive)
    (images : List Apk.Image) (given : session.files.read input = .ok file)
    (written : session.files.write copy file = .ok files)
    (read : Zip.readWith pipeline.setting.reader.decoders file = .ok archive)
    (selected : Apk.selectImages archive.names Apk.defaultBase Apk.defaultExtension = .ok images) :
    ∃ ready, (prepared pipeline input copy).perform session = (.ok images, ready) := by
  obtain ⟨told, ran, kept, _⟩ := polite.ran "Copying input APK" session
  obtain ⟨shown, ran', kept', _⟩ :=
    polite.ran "Getting sorted DEX file list (highest to lowest)" { told with files }
  rw [← kept] at given written
  have found : shown.files.read copy = .ok file := by
    rw [kept']
    exact write_read _ _ _ _ written
  refine ⟨{ shown with journal := shown.journal ++
    [.logged .info ("Candidates: " ++ candidateList images)] }, ?_⟩
  simp only [prepared, copyFile, info, bind_eq_ok, rewording_eq_ok, ask_eq_ok, change_eq_ok,
    log_eq_ok, pure_eq_ok, Apk.select_eq_ok]
  exact ⟨(), told, ran, (), _, ⟨file, _, ⟨given, rfl⟩, files, written, rfl⟩, (), shown, ran',
    images, shown, ⟨file, archive, found, read, selected, rfl⟩, (), _, rfl, rfl, rfl⟩

theorem concluded_calls (polite : Polite pipeline.setting.progress)
    (discreet : Discreet pipeline.setting.toolbox) (root archive output : Path)
    (material : List Signer) (attempts : List Attempt) (winner : Option Attempt)
    (session after : Session) (result : Except Fault Conclusion)
    (done : (concluded pipeline root archive output material attempts winner).perform session =
      (result, after)) :
    ∃ closing, after.calls = session.calls ++ closing ∧
      ∀ event ∈ closing, event.isSigning = true := by
  cases concluded_onward root archive output material attempts winner session after result
    polite.quiet (tolerant_at polite usual_any) (at_calls session)
    (fun _ => keeps_change (fun _ => trivial) fun _ _ before _ => ⟨trivial, before.calls⟩) done with
  | lost left _ _ => exact ⟨[], by rw [left.calls, List.append_nil], nofun⟩
  | broken _ left _ => exact ⟨[], by rw [left.calls, List.append_nil], nofun⟩
  | signing image path content ready _ _ _ _ left signing =>
      obtain ⟨called, _⟩ := signed_concluded _ _ _ _ _ _ _ polite discreet signing
      exact ⟨_, by rw [called, left.calls], List.forall_mem_singleton.mpr rfl⟩

theorem faulted_at (polite : Polite pipeline.setting.progress) (attempts : List Attempt)
    (fault : Fault) (session after : Session) (result : Except Fault Report)
    (before : At holds calls session)
    (done : (faulted pipeline attempts fault).perform session = (result, after)) :
    At holds calls after ∧ ∀ report, result = .ok report → report.attempts = attempts := by
  refine ⟨(faulted_keeps pipeline attempts fault (tolerant_at polite usual_any)).after _ _ _ before
    done, ?_⟩
  rintro report rfl
  obtain ⟨_, ⟨_, rfl⟩ | ⟨_, rfl⟩⟩ := faulted_ok _ _ _ _ _ _ done
  · rfl
  · rfl

/-- A run on its way to the end of its search: what it has found, and what it has called. -/
structure Surveyed (pipeline : Pipeline) (input root : Path) (images : List Apk.Image)
    (session made ready : Session) (file : Bytes) (archive : Zip.Archive) (trials : List Trial) :
    Prop where
  making : (pipeline.making session).perform session = (.ok root, made)
  preparing : (prepared pipeline input (root / "input.apk")).perform made = (.ok images, ready)
  given : made.files.read input = .ok file
  opened : Zip.readWith pipeline.setting.reader.decoders file = .ok archive
  selected : Apk.selectImages archive.names Apk.defaultBase Apk.defaultExtension = .ok images
  searched : Searched pipeline.setting root archive ready images trials
    (pipeline.found root ready images).winner (pipeline.found root ready images).session
  attempts : (pipeline.found root ready images).attempts = attemptsOf trials
  calls : (pipeline.found root ready images).session.calls =
    session.calls ++ trials.flatMap Trial.calls
  copy : ∀ other, (pipeline.found root ready images).session.files.read (root / "input.apk") =
    .ok other → other = file

theorem found_surveyed (tame : Tame pipeline.setting allowed) (input root : Path)
    (images : List Apk.Image) (session made ready : Session) (sound : session.files.Sound)
    (making : (pipeline.making session).perform session = (.ok root, made))
    (preparing : (prepared pipeline input (root / "input.apk")).perform made =
      (.ok images, ready)) :
    ∃ file archive trials,
      Surveyed pipeline input root images session made ready file archive trials ∧
      ∀ fault, (pipeline.found root ready images).winner = .error fault → allowed fault := by
  obtain ⟨rootPlace, opened⟩ := making_ok pipeline session made root sound making
  obtain ⟨file, archive, given, read, selected, between⟩ := prepared_ok pipeline input made ready
    images tame.progress.quiet opened.site opened.underway opened.bare preparing
  have uncalled : ready.calls = session.calls := by
    rw [prepared_calls tame.progress _ _ _ _ _ preparing, Session.calls, opened.journal,
      Session.calls]
  obtain ⟨trials, searched, attempts, left, fine⟩ := search_went opened tame images
    (fun image member => (Apk.selectImages_entries _ _ _ _ selected image member).2) read ready
    ⟨between.pinned opened, uncalled⟩
  exact ⟨file, archive, trials, ⟨making, preparing, given, read, selected, searched, attempts,
    left.calls, left.files.read opened⟩, fine⟩

theorem run_called (polite : Polite pipeline.setting.progress)
    (discreet : Discreet pipeline.setting.toolbox) (input output root : Path)
    (material : List Signer) (images : List Apk.Image) (session made ready after : Session)
    (result : Except Fault Report) (file : Bytes) (archive : Zip.Archive) (trials : List Trial)
    (surveyed : Surveyed pipeline input root images session made ready file archive trials)
    (done : (pipeline.run input output material).perform session = (result, after)) :
    ∃ closing, after.calls = session.calls ++ trials.flatMap Trial.calls ++ closing ∧
      (∀ event ∈ closing, event.isSigning = true) ∧
      ∀ report, result = .ok report → report.attempts = attemptsOf trials := by
  rw [← surveyed.calls, ← surveyed.attempts]
  rcases run_found pipeline input output root material images session made ready after result
    surveyed.making surveyed.preparing done with
    ⟨fault, _, reporting⟩ | ⟨winner, ending, closed, _, concluding, last⟩
  · obtain ⟨left, attempts⟩ := faulted_at polite _ _ _ _ _ (at_calls _) reporting
    exact ⟨[], by rw [left.calls, List.append_nil]; rfl, nofun, attempts⟩
  · obtain ⟨closing, called, signing⟩ :=
      concluded_calls polite discreet _ _ _ _ _ _ _ _ _ concluding
    refine ⟨closing, ?_⟩
    rw [← called]
    rcases last with ⟨fault, _, reporting⟩ | ⟨conclusion, _, rfl, rfl⟩
    · obtain ⟨left, attempts⟩ := faulted_at polite _ _ _ _ _ (at_calls _) reporting
      exact ⟨left.calls, signing, attempts⟩
    · exact ⟨rfl, signing, fun _ same => Except.ok.inj same ▸ rfl⟩

/-- Where the name of the first image's directory is too long, the run ends before the image is
handed over. -/
theorem run_hands_nothing (fair : Fair pipeline.setting) (input output root : Path)
    (material : List Signer) (image : Apk.Image) (rest : List Apk.Image)
    (session made ready after : Session) (result : Except Fault Report)
    (sound : session.files.Sound)
    (making : (pipeline.making session).perform session = (.ok root, made))
    (preparing : (prepared pipeline input (root / "input.apk")).perform made =
      (.ok (image :: rest), ready))
    (long : nameLimit < (attemptName image).utf8ByteSize)
    (done : (pipeline.run input output material).perform session = (result, after)) :
    (∀ fresh, (freshScratch (scratchOf root image)).perform ready ≠ (.ok (), fresh)) ∧
      (∃ closing, after.calls = session.calls ++ closing ∧
        ∀ event ∈ closing, event.isSigning = true) ∧
      ∀ report, result = .ok report → report.attempts = [] := by
  obtain ⟨rootPlace, opened⟩ := making_ok pipeline session made root sound making
  obtain ⟨_, _, _, _, selected, between⟩ := prepared_ok pipeline input made ready _
    fair.progress.quiet opened.site opened.underway opened.bare preparing
  have customary : image.Customary :=
    (Apk.selectImages_entries _ _ _ _ selected image List.mem_cons_self).2
  have unmade : ∀ fresh, (freshScratch (scratchOf root image)).perform ready ≠ (.ok (), fresh) := by
    intro fresh making
    have working := (freshScratch_ok ready fresh opened.site between.underway () making).1
    exact Nat.not_lt.mpr
      (resolve_room _ root _ _ (attemptName_plain _) working.reached) long
  obtain ⟨file, archive, trials, surveyed, _⟩ :=
    found_surveyed fair.tame input root _ session made ready sound making preparing
  obtain ⟨closing, calls, signing, attempts⟩ := run_called fair.progress fair.discreet input output
    root material _ session made ready after result file archive trials surveyed done
  obtain ⟨uncalled, untried⟩ := surveyed.searched.unhanded unmade
  rw [uncalled, List.append_nil] at calls
  rw [untried] at attempts
  exact ⟨unmade, ⟨closing, calls, signing⟩, attempts⟩

end

/-- A run tries its images as they are ranked, each at most once, and stops at the first one that is
patched or whose trial breaks. What the disassembler is handed is what the archive has for the
image; the verdict on an image is that of the first step that refuses it. -/
theorem run_tries_in_order (pipeline : Pipeline) (input output root : Path)
    (material : List Signer) (images : List Apk.Image) (session made ready after : Session)
    (result : Except Fault Report) (fair : Fair pipeline.setting) (sound : session.files.Sound)
    (making : (pipeline.making session).perform session = (.ok root, made))
    (preparing : (prepared pipeline input (root / "input.apk")).perform made = (.ok images, ready))
    (done : (pipeline.run input output material).perform session = (result, after)) :
    ∃ file archive listed trials closing,
      made.files.read input = .ok file ∧
      Zip.readWith pipeline.setting.reader.decoders file = .ok archive ∧
      Apk.candidates archive.names Apk.defaultBase Apk.defaultExtension = .ok listed ∧
      (listed.map Apk.Image.entry).Sublist archive.names ∧ Apk.Ranked listed images ∧
      InOrder images trials ∧
      (∃ winner stopped,
        Searched pipeline.setting root archive ready images trials winner stopped) ∧
      after.calls = session.calls ++ trials.flatMap Trial.calls ++ closing ∧
      (∀ event ∈ closing, event.isSigning = true) ∧
      (∀ report, result = .ok report → report.attempts = attemptsOf trials) := by
  obtain ⟨file, archive, trials, surveyed, _⟩ :=
    found_surveyed fair.tame input root images session made ready sound making preparing
  obtain ⟨listed, found, ranked⟩ := Apk.selectImages_ranked _ _ _ _ surveyed.selected
  obtain ⟨closing, calls, signing, attempts⟩ := run_called fair.progress fair.discreet input output
    root material images session made ready after result file archive trials surveyed done
  exact ⟨file, archive, listed, trials, closing, surveyed.given, surveyed.opened, found,
    Apk.candidates_sublist _ _ _ _ found, ranked, surveyed.searched.inOrder,
    ⟨_, _, surveyed.searched⟩, calls, signing, attempts⟩

theorem plainTools_disassemble (image tree : Path) (calls : List Event) :
    Keeps (fun session => session.calls = calls) (fun fault => ∃ cause, fault = .cause cause)
      (plainTools.disassemble image tree) :=
  keeps_bind (keeps_ask fun cause => ⟨cause, rfl⟩) fun _ =>
    keeps_bind (keeps_ask fun cause => ⟨cause, rfl⟩) fun _ =>
      keeps_change (fun cause => ⟨cause, rfl⟩) fun _ _ before _ => before

theorem plainTools_assemble (tree image : Path) (calls : List Event) :
    Keeps (fun session => session.calls = calls) (fun fault => ∃ cause, fault = .cause cause)
      (plainTools.assemble tree image) :=
  keeps_bind (keeps_ask fun cause => ⟨cause, rfl⟩) fun _ =>
    keeps_change (fun cause => ⟨cause, rfl⟩) fun _ _ before _ => before

theorem plainTools_discreet : Discreet plainTools where
  disassemble image tree session := (plainTools_disassemble image tree _).session session rfl
  assemble tree image session := (plainTools_assemble tree image _).session session rfl
  sign _ _ _ _ _ := rfl

theorem givenPipeline_fair : Fair givenPipeline.setting where
  disk := rfl
  progress := ⟨fun _ _ => rfl, fun _ _ => rfl, fun _ _ => rfl⟩
  confined := plainTools_confined
  discreet := plainTools_discreet

def givenRoot : Path := ⟨1, ["tmp", "apk_processing_00000000"]⟩

theorem run_tries_in_order_given :
    Fair givenPipeline.setting ∧ givenSession.files.Sound ∧
      ∃ made ready after result trials closing,
        (givenPipeline.making givenSession).perform givenSession = (.ok givenRoot, made) ∧
        (prepared givenPipeline ⟨0, ["in.apk"]⟩ (givenRoot / "input.apk")).perform made =
          (.ok [⟨"classes.dex", 1⟩], ready) ∧
        (givenPipeline.run ⟨0, ["in.apk"]⟩ ⟨0, ["out.apk"]⟩ []).perform givenSession =
          (result, after) ∧
        InOrder [⟨"classes.dex", 1⟩] trials ∧
        after.calls = givenSession.calls ++ trials.flatMap Trial.calls ++ closing := by
  have making := perform_of_toOption (givenPipeline.making givenSession) givenSession givenRoot rfl
  have preparing := perform_of_toOption
    (prepared givenPipeline ⟨0, ["in.apk"]⟩ (givenRoot / "input.apk"))
    ((givenPipeline.making givenSession).perform givenSession).2 [⟨"classes.dex", 1⟩]
    (by decide +kernel)
  rcases done : (givenPipeline.run ⟨0, ["in.apk"]⟩ ⟨0, ["out.apk"]⟩ []).perform givenSession with
    ⟨result, after⟩
  obtain ⟨_, _, _, trials, closing, _, _, _, _, _, ordered, _, calls, _⟩ :=
    run_tries_in_order givenPipeline _ _ _ _ _ _ _ _ _ _ givenPipeline_fair givenSession_sound
      making preparing done
  exact ⟨givenPipeline_fair, givenSession_sound, _, _, after, result, trials, closing, making,
    preparing, rfl, ordered, calls⟩

def longImage : Apk.Image where
  entry := String.ofList ("classes".toList ++ List.replicate 240 '1' ++ ".dex".toList)
  priority := (10 ^ 240 - 1) / 9

def longEntry : Zip.Placed :=
  Apk.givenEntry longImage.entry .stored (Bytes.ofText "IMG") (Bytes.ofText "IMG") 0

def longSession : Session :=
  { givenSession with
    files := ⟨[(["tmp"], .directory),
      (["in.apk"], .file (Zip.archiveBytes [longEntry]) newFileMode)], []⟩ }

theorem longImage_spelled :
    longImage.entry.toList = "classes".toList ++ List.replicate 240 '1' ++ ".dex".toList :=
  String.toList_ofList

theorem longImage_selected :
    Apk.selectImages [longImage.entry] Apk.defaultBase Apk.defaultExtension = .ok [longImage] := by
  have digits : Apk.imageDigits? Apk.defaultBase Apk.defaultExtension longImage.entry =
      some (List.replicate 240 '1') := by
    rw [Apk.imageDigits?, longImage_spelled]
    decide +kernel
  exact Apk.selectImages_single _ _ _ _ (Apk.imagePriority_digits _ _ _ _ longImage.priority digits
    (by decide) (by decide +kernel) (by decide +kernel))

theorem longImage_long : nameLimit < (attemptName longImage).utf8ByteSize := by
  have customary : longImage.Customary :=
    (Apk.selectImages_entries _ _ _ _ longImage_selected longImage List.mem_cons_self).2
  have named : (⟨0, [longImage.entry]⟩ : Path).name = longImage.entry := rfl
  rw [attemptName, Apk.Image.stem, customary.plain.single, Path.stem, named, longImage_spelled]
  decide +kernel

theorem longEntry_read :
    ∃ archive, Zip.readWith Zip.noDecoders (Zip.archiveBytes [longEntry]) = .ok archive ∧
      archive.names = [longImage.entry] := by
  have plain : ∀ c ∈ longImage.entry.toList, c.toNat < 128 ∧ c.toNat ≠ 0 := by
    have outer : ∀ c ∈ "classes".toList ++ ".dex".toList, c.toNat < 128 ∧ c.toNat ≠ 0 := by
      simp
    simp only [longImage_spelled, List.mem_append, List.mem_replicate]
    rintro c ((base | ⟨_, rfl⟩) | ending)
    · exact outer c (List.mem_append_left _ base)
    · decide
    · exact outer c (List.mem_append_right _ ending)
  have size : longEntry.nameBytes.length = 251 := by decide +kernel
  have fits : longEntry.Fits :=
    ⟨by decide, Or.inl rfl, by decide, by decide, by decide +kernel, by decide +kernel,
      by decide +kernel, by rw [size]; decide, by decide, by decide, by decide⟩
  have named : longEntry.Named := by
    refine ⟨fun c member => (plain c member).2, ?_⟩
    change Zip.decodeName false (Bytes.ofText longImage.entry) = .ok longImage.entry
    simp only [Zip.decodeName, Bool.false_eq_true, if_false,
      Zip.ofCodePage_ascii _ fun c member => (plain c member).1]
  obtain ⟨archive, done⟩ : ∃ archive,
      Zip.readWith Zip.noDecoders (Zip.archiveBytes [longEntry]) = .ok archive :=
    Checked.ok_of_isSome (by decide +kernel)
  refine ⟨archive, done, ?_⟩
  rw [Zip.read_archiveBytes [longEntry] (List.forall_mem_singleton.mpr fits)
    (List.forall_mem_singleton.mpr named) (by decide) (by decide +kernel) (by decide +kernel)
    archive done]
  rfl

/-- No directory can be made for the long image, so the run does not come to its extraction, and no
image is handed over though there is one. -/
theorem run_ends_unhanded :
    Fair givenPipeline.setting ∧ longSession.files.Sound ∧
      ∃ made ready result after,
        (givenPipeline.making longSession).perform longSession = (.ok givenRoot, made) ∧
        (prepared givenPipeline ⟨0, ["in.apk"]⟩ (givenRoot / "input.apk")).perform made =
          (.ok [longImage], ready) ∧
        (givenPipeline.run ⟨0, ["in.apk"]⟩ ⟨0, ["out.apk"]⟩ []).perform longSession =
          (result, after) ∧
        (∀ fresh, (freshScratch (scratchOf givenRoot longImage)).perform ready ≠ (.ok (), fresh)) ∧
        ∀ event ∈ after.calls, event.isSigning = true := by
  have sound : longSession.files.Sound := by
    rintro (_ | ⟨first, more⟩) name there
    · rfl
    · exact absurd (by simp [longSession, node?]) there
  have making := perform_of_toOption (givenPipeline.making longSession) longSession givenRoot rfl
  obtain ⟨rootPlace, opened⟩ := making_ok givenPipeline longSession _ givenRoot sound making
  obtain ⟨archive, read, names⟩ := longEntry_read
  obtain ⟨files, copied⟩ : ∃ files, ((givenPipeline.making longSession).perform
      longSession).2.files.write (givenRoot / "input.apk") (Zip.archiveBytes [longEntry]) =
        .ok files := Checked.ok_of_isSome (by decide +kernel)
  obtain ⟨ready, preparing⟩ := prepared_chooses givenPipeline givenPipeline_fair.progress
    ⟨0, ["in.apk"]⟩ _ _ _ files archive [longImage]
    (opened.readable ⟨0, ["in.apk"]⟩ (Zip.archiveBytes [longEntry]) rfl) copied read
    (names.symm ▸ longImage_selected)
  rcases done : (givenPipeline.run ⟨0, ["in.apk"]⟩ ⟨0, ["out.apk"]⟩ []).perform longSession with
    ⟨result, after⟩
  obtain ⟨unmade, ⟨closing, calls, signing⟩, _⟩ := run_hands_nothing givenPipeline_fair _ _ _ _ _ _
    _ _ _ _ _ sound making preparing longImage_long done
  exact ⟨givenPipeline_fair, sound, _, ready, result, after, making, preparing, rfl, unmade,
    calls.symm ▸ signing⟩

end DexGraft.Search
