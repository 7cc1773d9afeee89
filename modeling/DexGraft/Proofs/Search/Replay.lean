import DexGraft.Proofs.Search.Isolated
import DexGraft.Proofs.Search.Second

/-!
A search replayed in another place, in an archive that holds what the first search
promoted. The images that failed fail again, and the image that won wins again, with the
same content.
-/
namespace DexGraft.Search

open Files DexGraft.Action

section

variable {setting : Setting} {images images' : List Apk.Image} {root root' : Place}
  {workRoot workRoot' archive archive' path : Path} {file file' content : Bytes}
  {image : Apk.Image} {session session' after : Session}

theorem tryImage_opened (yard : Yard images workRoot archive root file session.files)
    (member : image ∈ images) (quiet : Quiet setting.progress) (result : Attempt)
    (done : (tryImage setting archive workRoot image).perform session = (.ok result, after)) :
    ∃ content, Apk.contentIn setting.reader file file image.entry = .ok (some content) := by
  obtain ⟨fresh, told, tried, making, kept, ran, _⟩ := tryImage_steps _ _ _ _ _ _ _ quiet done
  rcases yard.freshScratch member with ⟨prior, _, new, same, made⟩ | ⟨_, _, barred⟩
  · rw [made] at making
    cases making
    have beside : Aside root images session.files
        (prior.put (root ++ [attemptName image]) .directory) :=
      aside_of member (same.trans (sameOutside_put _ _ _ new.named))
    have read : told.files.read archive = .ok file := by
      rw [kept]
      exact yard.archive _ beside
    have clear : Clear told.files archive (scratchOf workRoot image / imageName image) := by
      rw [kept]
      exact yard.clear member new beside
    cases found : contentFor setting.reader told.files archive image.entry with
    | none =>
        simp only [attempt, bind_eq_ok] at ran
        obtain ⟨_, _, extracting, _⟩ := ran
        obtain ⟨_, _, lost⟩ := extract_lost _ archive (scratchOf workRoot image / imageName image) _
          _ clear found
        rw [lost] at extracting
        cases extracting
    | some content =>
        obtain ⟨_, read', given⟩ := (contentFor_some ..).mp found
        cases read.symm.trans read'
        exact ⟨content, given⟩
  · rw [barred] at making
    cases making

theorem tryImage_again (yard : Yard images workRoot archive root file session.files)
    (yard' : Yard images' workRoot' archive' root' file' session'.files) (member : image ∈ images)
    (member' : image ∈ images') (comparable : Comparable setting)
    (recurrent : Recurrent setting.patch) (returning : Returning setting.toolbox)
    (size : (scratchOf workRoot image).text.utf8ByteSize =
      (scratchOf workRoot' image).text.utf8ByteSize)
    (done : (tryImage setting archive workRoot image).perform session =
      (.ok ⟨image, .promoted path⟩, after))
    (read : after.files.read path = .ok content)
    (found : Apk.contentIn setting.reader file' file' image.entry = .ok (some content)) :
    ∃ path' again, (tryImage setting archive' workRoot' image).perform session' =
        (.ok ⟨image, .promoted path'⟩, again) ∧
      again.files.read path' = .ok content := by
  have quiet := comparable.polite.quiet
  obtain ⟨fresh, told, tried, making, kept, ran, ⟨_, left⟩ | ⟨lost, _⟩⟩ :=
    tryImage_steps _ _ _ _ _ _ _ quiet done
  · rcases freshScratch_paired yard yard' member member' size with
      ⟨prior, prior', pair, same, same', made, made'⟩ | ⟨_, _, barred, _⟩
    · rw [made] at making
      cases making
      have tidy : Tidy prior (root ++ [attemptName image]) (attemptNames image) told.files :=
        kept ▸ tidy_made pair.first
      have plain := attempt_plain pair.first told tried tidy quiet _ ran
      obtain ⟨told', telling, kept', _⟩ :=
        comparable.polite.ran s!"Attempting to find method in: {image.entry}"
          { session' with files := prior'.put (root' ++ [attemptName image]) .directory }
      have beside := aside_of member (same.trans (sameOutside_put _ _ .directory pair.first.named))
      have beside' :=
        aside_of member' (same'.trans (sameOutside_put _ _ .directory pair.second.named))
      have held : contentFor setting.reader told'.files archive' image.entry = some content := by
        refine (contentFor_some ..).mpr ⟨file', ?_, found⟩
        rw [kept']
        exact yard'.archive _ beside'
      rw [left] at read
      obtain ⟨again, promoting, back⟩ := attempt_again pair plain comparable recurrent returning
        told tried told' kept kept' (kept ▸ yard.clear member pair.first beside)
        (kept' ▸ yard'.clear member' pair.second beside') ran read held
      refine ⟨_, again, ?_, back⟩
      rw [tryImage, perform_bind_ok _ _ _ _ _ made', perform_bind_ok _ _ _ _ _ telling,
        perform_bind_ok _ _ _ _ _ ((tryCatch_eq_ok ..).mpr (Or.inl promoting))]
      rfl
    · rw [barred] at making
      cases making
  · cases lost

theorem tryImage_subject (yard : Yard images workRoot archive root file session.files)
    (member : image ∈ images) (comparable : Comparable setting) (subject : Apk.Image)
    (done : (tryImage setting archive workRoot image).perform session =
      (.ok ⟨subject, .promoted path⟩, after)) : subject = image := by
  have alike := tryImage_twins yard yard member member comparable (fun _ => Iff.rfl) rfl
  rw [done] at alike
  cases alike with
  | ended ends => cases ends with | promoted => rfl

theorem search_member (yard : Yard images workRoot archive root file session.files)
    (comparable : Comparable setting) (standing : Standing setting.toolbox)
    (left : List Apk.Image) (within : ∀ image ∈ left, image ∈ images) (attempt : Attempt)
    (won : (row setting archive workRoot session left).search.winner = .ok (some attempt)) :
    attempt.image ∈ left :=
  List.mem_of_find?_eq_some ((search_wins yard yard comparable standing (fun _ _ => rfl) left within
    attempt.image).mp ⟨attempt, won, rfl⟩).1

theorem search_aside (yard : Yard images workRoot archive root file session.files)
    (comparable : Comparable setting) (standing : Standing setting.toolbox)
    (left : List Apk.Image) (within : ∀ image ∈ left, image ∈ images) (attempt : Attempt)
    (won : (row setting archive workRoot session left).search.winner = .ok (some attempt)) :
    Aside root images session.files
      (row setting archive workRoot session left).search.session.files := by
  induction left generalizing session with
  | nil => cases won
  | cons first rest ih =>
      have member := within first List.mem_cons_self
      rcases tried : (tryImage setting archive workRoot first).perform session with
        ⟨fault | result, after⟩
      · simp only [row_cons, tried, Row.search] at won
        cases won
      · obtain ⟨same, _⟩ := tryImage_outside yard member comparable standing _ tried
        simp only [row_cons, tried, Row.search] at won ⊢
        cases patched : result.isPatched with
        | true =>
            simp only [if_true]
            exact aside_of member same
        | false =>
            simp only [patched, Bool.false_eq_true, if_false] at won ⊢
            exact (aside_of member same).trans (ih (yard.tried member comparable standing _ tried)
              (fun other among => within other (List.mem_cons_of_mem _ among)) won)

-- By induction on the images: what fails in the one place fails in the other, so both rows go on to
-- the same image, and that is promoted in both.
theorem search_again (yard : Yard images workRoot archive root file session.files)
    (yard' : Yard images workRoot' archive' root' file' session'.files)
    (comparable : Comparable setting) (standing : Standing setting.toolbox)
    (recurrent : Recurrent setting.patch) (returning : Returning setting.toolbox)
    (sizes : ∀ image ∈ images, (scratchOf workRoot image).text.utf8ByteSize =
      (scratchOf workRoot' image).text.utf8ByteSize)
    (others : ∀ other ∈ images, other.entry ≠ image.entry → ∀ content,
      Apk.contentIn setting.reader file file other.entry = .ok (some content) →
        Apk.contentIn setting.reader file' file' other.entry = .ok (some content))
    (new : ∀ old, Apk.contentIn setting.reader file file image.entry = .ok (some old) →
      Apk.contentIn setting.reader file' file' image.entry = .ok (some content))
    (left : List Apk.Image) (within : ∀ image ∈ left, image ∈ images)
    (distinct : (left.map Apk.Image.entry).Nodup)
    (won : (row setting archive workRoot session left).search.winner =
      .ok (some ⟨image, .promoted path⟩))
    (read : (row setting archive workRoot session left).search.session.files.read path =
      .ok content) :
    ∃ path', (row setting archive' workRoot' session' left).search.winner =
        .ok (some ⟨image, .promoted path'⟩) ∧
      (row setting archive' workRoot' session' left).search.session.files.read path' =
        .ok content := by
  induction left generalizing session session' with
  | nil => cases won
  | cons first rest ih =>
      have member := within first List.mem_cons_self
      have later : ∀ image ∈ rest, image ∈ images := fun other among =>
        within other (List.mem_cons_of_mem _ among)
      rcases tried : (tryImage setting archive workRoot first).perform session with
        ⟨fault | ⟨subject, path₀ | ⟨reason, detail⟩⟩, after⟩
      · simp only [row_cons, tried, Row.search] at won
        cases won
      · obtain rfl := tryImage_subject yard member comparable subject tried
        simp only [row_cons, tried, Row.search, Attempt.isPatched, if_true] at won read
        cases won
        obtain ⟨old, given⟩ := tryImage_opened yard member comparable.polite.quiet _ tried
        obtain ⟨path', again, promoting, back⟩ := tryImage_again yard yard' member member comparable
          recurrent returning (sizes _ member) tried read (new old given)
        simp only [row_cons, promoting, Row.search, Attempt.isPatched, if_true]
        exact ⟨path', rfl, back⟩
      · have between := yard.tried member comparable standing _ tried
        simp only [row_cons, tried, Row.search, Attempt.isPatched, Bool.false_eq_true, if_false]
          at won read
        have among := search_member between comparable standing rest later _ won
        rw [List.map_cons, List.nodup_cons] at distinct
        have apart : first.entry ≠ image.entry := fun same =>
          distinct.1 (same ▸ List.mem_map_of_mem among)
        obtain ⟨held, given⟩ := tryImage_opened yard member comparable.polite.quiet _ tried
        have given' := others first member apart held given
        have alike := tryImage_twins yard yard' member member comparable (fun content => by
          rw [given, given']) (sizes first member)
        rw [tried] at alike
        rcases tried' : (tryImage setting archive' workRoot' first).perform session' with
          ⟨result', after'⟩
        rw [tried'] at alike
        cases alike with
        | ended ends =>
            cases ends
            simp only [row_cons, tried', Row.search, Attempt.isPatched, Bool.false_eq_true, if_false]
            exact ih between (yard'.tried member comparable standing _ tried') later distinct.2 won
              read

end

end DexGraft.Search
