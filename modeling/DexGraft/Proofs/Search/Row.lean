import DexGraft.Proofs.Search.Reworked

/-!
A row of attempts. An attempt that does not come to a patched image leaves nothing
behind, so each attempt finds the run's directory with the archive alone in it.
-/
namespace DexGraft.Search

open Files DexGraft.Action

/-- The run's directory between two attempts: the archive is in it and nothing else. -/
structure Between (begun : Files) (root : Path) (rootPlace : Place) (file : Bytes)
    (files : Files) : Prop where
  underway : Underway begun rootPlace files
  archive : files.read (root / "input.apk") = .ok file
  bare : ∀ name more, name ≠ "input.apk" → files.node? (rootPlace ++ name :: more) = none

structure Won (setting : Setting) (root : Path) (file : Bytes) (image : Apk.Image)
    (before after : Session) : Prop where
  archive : after.files.read (root / "input.apk") = .ok file
  patched : ∃ original begun ready drawn given made, Freshened root image before begun ∧
    Patched setting root file image original begun ready drawn given made after

namespace Row

/-- What a row comes to by going on after failures. -/
inductive Reaches : Row → Row → Prop
  | here (row : Row) : Reaches row row
  | next {attempt : Attempt} {session : Session} {rest : Unit → Row} {later : Row}
      (failed : attempt.isPatched = false) (onward : Reaches (rest ()) later) :
      Reaches (.attempted attempt session rest) later

end Row

theorem tryImage_steps (setting : Setting) (archive workRoot : Path) (image : Apk.Image)
    (session after : Session) (result : Attempt) (quiet : Quiet setting.progress)
    (done : (tryImage setting archive workRoot image).perform session = (.ok result, after)) :
    ∃ fresh told tried,
      (freshScratch (scratchOf workRoot image)).perform session = (.ok (), fresh) ∧
      told.files = fresh.files ∧
      (attempt setting archive image (scratchOf workRoot image)).perform told =
        (.ok result, tried) ∧
      (result.isPatched = true ∧ after = tried ∨
        result.isPatched = false ∧
          after.files = tried.files.clearTree (scratchOf workRoot image)) := by
  unfold tryImage at done
  generalize scratchOf workRoot image = scratch at done ⊢
  simp only [bind_eq_ok] at done
  obtain ⟨_, fresh, freshened, _, told, progressed, result', tried, trying, done⟩ := done
  have kept := quiet_ok quiet _ _ _ _ progressed
  rcases (tryCatch_eq_ok ..).mp trying with ran | ⟨fault, middle, _, cleaned⟩
  · cases outcome : result'.outcome with
    | promoted path =>
        simp only [Attempt.reason?, outcome, pure_eq_ok] at done
        obtain ⟨rfl, rfl⟩ := done
        exact ⟨fresh, told, tried, freshened, kept, ran,
          Or.inl ⟨by rw [Attempt.isPatched, outcome], rfl⟩⟩
    | failed reason detail =>
        simp only [Attempt.reason?, outcome, bind_eq_ok, perform_clearTree, pure_eq_ok] at done
        obtain ⟨_, cleared, clearing, _, _, shown, rfl, rfl⟩ := done
        cases clearing
        have quietly := quiet_ok quiet _ _ _ _ shown
        exact ⟨fresh, told, tried, freshened, kept, ran,
          Or.inr ⟨by rw [Attempt.isPatched, outcome], quietly⟩⟩
  · simp only [bind_eq_ok] at cleaned
    obtain ⟨_, _, _, thrown⟩ := cleaned
    exact absurd thrown (throw_ne_ok _ _ _ _)

section

-- An open attempt would be evaluated wherever a row is unfolded.
attribute [local irreducible] tryImage

theorem row_nil (setting : Setting) (archive workRoot : Path) (session : Session) :
    row setting archive workRoot session [] = .finished session := rfl

theorem row_cons (setting : Setting) (archive workRoot : Path) (session : Session)
    (image : Apk.Image) (rest : List Apk.Image) :
    row setting archive workRoot session (image :: rest) =
      match (tryImage setting archive workRoot image).perform session with
      | (.ok result, after) =>
          .attempted result after fun _ => row setting archive workRoot after rest
      | (.error fault, after) => .broken fault after := rfl

end

section

variable {begun : Files} {root : Path} {rootPlace : Place} {file : Bytes} {image : Apk.Image}

theorem Between.again {prior files : Files} (between : Between begun root rootPlace file prior)
    (site : Site begun root rootPlace) (working : Working root rootPlace image prior files) :
    Between begun root rootPlace file (files.clearTree (scratchOf root image)) := by
  have named : rootPlace ++ [attemptName image] ≠ [] := by simp
  have swept := clearTree_directory files _ _ working.reached working.there
  have same := working.outside.trans (sameOutside_dropUnder files _ named)
  rw [swept]
  refine ⟨between.underway.step (attemptName image) [] same,
    archive_kept prior _ _ (attemptName_apart image) site between.underway same between.archive, ?_⟩
  -- What the attempt made is gone, and all else is as before it.
  intro name more apart
  by_cases under : rootPlace ++ [attemptName image] <+: rootPlace ++ name :: more
  · rw [node_dropUnder _ _ _ named, if_pos under]
  · rw [same.rest _ under, between.bare name more apart]

theorem tryImage_ok (setting : Setting) (session after : Session) (result : Attempt)
    (site : Site begun root rootPlace) (customary : image.Customary) (orderly : Orderly setting)
    (between : Between begun root rootPlace file session.files)
    (done : (tryImage setting (root / "input.apk") root image).perform session =
      (.ok result, after)) :
    (result.isPatched = false ∧ Between begun root rootPlace file after.files) ∨
      result = ⟨image, .promoted (scratchOf root image / image.entry)⟩ ∧
        Won setting root file image session after := by
  obtain ⟨fresh, told, tried, freshened, kept, ran, ending⟩ := tryImage_steps _ _ _ _ _ _ _
    orderly.progress done
  obtain ⟨working, emptied⟩ :=
    freshScratch_ok session fresh site between.underway _ freshened
  -- Nothing was left under the attempt's name, so the directory is empty, new or not.
  have bare : ∀ name more,
      fresh.files.node? (rootPlace ++ [attemptName image] ++ name :: more) = none := by
    intro name more
    rcases emptied name more with gone | same
    · exact gone
    · rw [same, List.append_assoc]
      exact between.bare _ _ (attemptName_apart image)
  have archive := archive_kept _ _ _ (attemptName_apart image) site between.underway working.outside
    between.archive
  rw [← kept] at working bare archive
  obtain ⟨held, tried_image, ⟨reason, detail, refused⟩ | ⟨won, found, original, ready, drawn,
    given, made, readable, patched⟩⟩ :=
    attempt_ok setting told tried result site between.underway customary orderly working bare ran
  · rcases ending with ⟨patched, _⟩ | ⟨unpatched, cleared⟩
    · simp [Attempt.isPatched, refused] at patched
    · rw [cleared]
      exact Or.inl ⟨unpatched, between.again site held⟩
  · rcases ending with ⟨_, rfl⟩ | ⟨unpatched, _⟩
    · rw [archive] at readable
      cases readable
      have still := archive_kept _ _ _ (attemptName_apart image) site between.underway held.outside
        between.archive
      exact Or.inr ⟨by rw [← won, ← tried_image], still, original, told, ready, drawn, given, made,
        ⟨fresh, freshened, kept⟩, patched⟩
    · simp [Attempt.isPatched, won] at unpatched

-- By induction on the images: as long as none is patched, the next attempt finds what the first
-- one found.
theorem search_ok (setting : Setting) (images : List Apk.Image) (session : Session)
    (attempt : Attempt) (site : Site begun root rootPlace)
    (customary : ∀ image ∈ images, image.Customary) (orderly : Orderly setting)
    (between : Between begun root rootPlace file session.files)
    (won : (row setting (root / "input.apk") root session images).search.winner =
      .ok (some attempt)) :
    attempt.image ∈ images ∧
      attempt.outcome = .promoted (scratchOf root attempt.image / attempt.image.entry) ∧
      ∃ before later, (row setting (root / "input.apk") root session images).Reaches
          (row setting (root / "input.apk") root before (attempt.image :: later)) ∧
        Won setting root file attempt.image before
          (row setting (root / "input.apk") root session images).search.session := by
  induction images generalizing session with
  | nil => cases won
  | cons image rest ih =>
      have here := customary image List.mem_cons_self
      have begin := row_cons setting (root / "input.apk") root session image rest
      rcases tried : (tryImage setting (root / "input.apk") root image).perform session with
        ⟨fault | result, after⟩
      · simp only [row_cons, tried, Row.search] at won
        cases won
      · rw [tried] at begin
        rcases tryImage_ok setting session after result site here orderly between tried with
          ⟨unpatched, again⟩ | ⟨rfl, patched⟩
        · simp only [begin, Row.search, unpatched, Bool.false_eq_true, if_false] at won ⊢
          obtain ⟨member, promoted, before, later, reached, winning⟩ := ih after (fun other member =>
            customary other (List.mem_cons_of_mem _ member)) again won
          exact ⟨List.mem_cons_of_mem _ member, promoted, before, later,
            .next unpatched reached, winning⟩
        · simp only [begin, Row.search, Attempt.isPatched, if_true, Except.ok.injEq,
            Option.some.injEq] at won ⊢
          rw [← won]
          refine ⟨List.mem_cons_self, rfl, session, rest, ?_, patched⟩
          dsimp only
          rw [begin]
          exact .here _

theorem search_none (setting : Setting) (images : List Apk.Image) (session : Session)
    (site : Site begun root rootPlace) (customary : ∀ image ∈ images, image.Customary)
    (orderly : Orderly setting) (between : Between begun root rootPlace file session.files)
    (lost : (row setting (root / "input.apk") root session images).search.winner = .ok none) :
    Between begun root rootPlace file
      (row setting (root / "input.apk") root session images).search.session.files := by
  induction images generalizing session with
  | nil => exact between
  | cons image rest ih =>
      rcases tried : (tryImage setting (root / "input.apk") root image).perform session with
        ⟨fault | result, after⟩
      · simp only [row_cons, tried, Row.search] at lost
        cases lost
      · simp only [row_cons, tried, Row.search] at lost ⊢
        rcases tryImage_ok setting session after result site (customary image List.mem_cons_self)
          orderly between tried with ⟨unpatched, again⟩ | ⟨rfl, patched⟩
        · simp only [unpatched, Bool.false_eq_true, if_false] at lost ⊢
          exact ih after (fun other member => customary other (List.mem_cons_of_mem _ member)) again
            lost
        · simp only [Attempt.isPatched, if_true] at lost
          cases lost

end

end DexGraft.Search
