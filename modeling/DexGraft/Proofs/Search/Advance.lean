import DexGraft.Proofs.Search.Leftover
import DexGraft.Proofs.Search.Run

/-!
What stays of a row of attempts at each of its advances. A failure, and whatever breaks
an attempt, leaves no directory behind; a patched image has its directory for itself.
-/
namespace DexGraft.Search

open Files DexGraft.Action

/-- An attempt promoted what the assembler left, and what was promoted is alone in its directory. -/
structure Kept (setting : Setting) (archive workRoot : Path) (image : Apk.Image)
    (before after : Session) : Prop where
  named : (extractedOf workRoot image).name = imageName image
  promoted : ∃ begun ready drawn given made place, Freshened workRoot image before begun ∧
    Promoting setting image archive (extractedOf workRoot image) (treeOf workRoot image)
      (rebuiltOf workRoot image) begun ready drawn given made after ∧
    (∃ drawing, drawing.files = ready.files ∧
      (setting.toolbox.disassemble (extractedOf workRoot image) (treeOf workRoot image)).perform
        drawing = (.ok (), drawn)) ∧
    (∃ building, building.files = given.files ∧
      (setting.toolbox.assemble (treeOf workRoot image) (rebuiltOf workRoot image)).perform
        building = (.ok (), made)) ∧
    Alone (scratchOf workRoot image) (imageName image) place drawn.files made.files after.files

/-- What the trial of one image leaves. Before the attempt itself its directory may not be made,
or the user not be told. -/
inductive Advance (setting : Setting) (archive workRoot : Path) (image : Apk.Image)
    (before : Session) : Except Fault Attempt → Session → Prop
  | unmade (fault : Fault) (after : Session)
      (making : (freshScratch (scratchOf workRoot image)).perform before = (.error fault, after))
      (gone : after.files.isDirectory (scratchOf workRoot image) ≠ .ok true) :
      Advance setting archive workRoot image before (.error fault) after
  | untold (message : String) (fault : Fault) (made after : Session)
      (making : (freshScratch (scratchOf workRoot image)).perform before = (.ok (), made))
      (telling : (setting.progress message).perform made = (.error fault, after)) :
      Advance setting archive workRoot image before (.error fault) after
  | raised (fault : Fault) (after : Session)
      (gone : after.files.exists? (scratchOf workRoot image) = .ok false) :
      Advance setting archive workRoot image before (.error fault) after
  | failed (reason : Reason) (detail : String) (after : Session)
      (gone : after.files.exists? (scratchOf workRoot image) = .ok false) :
      Advance setting archive workRoot image before (.ok ⟨image, .failed reason detail⟩) after
  | patched (after : Session) (kept : Kept setting archive workRoot image before after) :
      Advance setting archive workRoot image before
        (.ok ⟨image, .promoted (extractedOf workRoot image)⟩) after

section

variable {setting : Setting} {prior : Files} {scratch : Path} {place : Place} {image : Apk.Image}
  {archive workRoot : Path}

theorem freshScratch_new (session after : Session) (sound : session.files.Sound) (value : Unit)
    (done : (freshScratch (scratchOf workRoot image)).perform session = (.ok value, after)) :
    ∃ prior place, NewPlace prior (scratchOf workRoot image) place ∧
      after.files = prior.put place .directory := by
  simp only [freshScratch, bind_eq_ok, ask_eq_ok] at done
  obtain ⟨there, _, ⟨_, rfl⟩, done⟩ := done
  cases there with
  | false =>
      simp only [Bool.false_eq_true, if_false, rewording_eq_ok, change_eq_ok] at done
      obtain ⟨files, making, rfl⟩ := done
      exact sound.makeDirectories _ making
  | true =>
      simp only [if_true, Action.removeTree, bind_eq_ok, rewording_eq_ok, change_eq_ok] at done
      obtain ⟨_, _, ⟨cleared, removed, rfl⟩, files, making, rfl⟩ := done
      obtain ⟨place, reached, _, rfl⟩ := removeTree_ok _ _ _ removed
      have parts := child_eq workRoot _ (attemptName_plain image)
      obtain ⟨parent, _, _, rfl⟩ := resolve_named _ _ place workRoot.parts _
        (congrArg Path.parts parts) (attemptName_plain image).down reached
      exact (sound.drop _ (by simp)).makeDirectories _ making

theorem freshScratch_unmade (session after : Session) (fault : Fault)
    (done : (freshScratch (scratchOf workRoot image)).perform session = (.error fault, after)) :
    after.files.isDirectory (scratchOf workRoot image) ≠ .ok true := by
  have unmade : ∀ middle, ((change fun files => files.makeDirectories
      (scratchOf workRoot image)).rewording Cause.isRefusal fun cause =>
        .io (.createDirectory (scratchOf workRoot image).text cause)).perform middle =
          (.error fault, after) → after = middle := by
    intro middle making
    rw [perform_rewording, perform_change] at making
    cases files : middle.files.makeDirectories (scratchOf workRoot image) <;>
      rw [files] at making <;> cases making
    rfl
  have unseen : session.files.exists? (scratchOf workRoot image) ≠ .ok true →
      session.files.isDirectory (scratchOf workRoot image) ≠ .ok true :=
    fun none directory => none (isDirectory_found _ _ directory).2
  rw [freshScratch, perform_bind, perform_ask] at done
  cases there : session.files.exists? (scratchOf workRoot image) with
  | error cause =>
      rw [there] at done
      cases done
      exact unseen (by simp [there])
  | ok found =>
      simp only [there, Except.mapError] at done
      cases found with
      | false =>
          simp only [Bool.false_eq_true, if_false] at done
          rw [unmade session done]
          exact unseen (by simp [there])
      | true =>
          simp only [if_true, Action.removeTree, perform_bind, perform_change] at done
          cases removed : session.files.removeTree (scratchOf workRoot image) with
          | error cause =>
              rw [removed] at done
              cases done
              intro directory
              obtain ⟨spot, reached, node⟩ :=
                (find_eq_ok ..).mp (isDirectory_found _ _ directory).1
              simp [Files.removeTree, reached, node, bind, Except.bind] at removed
          | ok cleared =>
              rw [removed] at done
              obtain ⟨place, reached, _, rfl⟩ := removeTree_ok _ _ _ removed
              rw [unmade _ done]
              obtain ⟨parent, _, _, rfl⟩ := resolve_named _ _ place workRoot.parts _
                (congrArg Path.parts (child_eq workRoot _ (attemptName_plain image)))
                (attemptName_plain image).down reached
              exact isDirectory_removed _ _ _ (by simp) reached

theorem Called.only {tool : Action Unit} {session after : Session} {outcome? : Option Outcome}
    {output : Path} {spot : Place} (called : Called tool session after outcome?)
    (only : WritesOnly tool output)
    (leads : ∀ place, session.files.resolve output = .ok place → place = spot) :
    SameOutside spot session.files after.files := by
  obtain ⟨calling, same, files, _⟩ := called.run
  rw [files, ← same]
  refine only calling spot fun place reached => ?_
  rw [same] at reached
  rw [leads place reached]

namespace Staged

variable {session after : Session}

theorem disassembled (staged : Staged prior place image session.files)
    (new : NewPlace prior scratch place) (confined : Confined setting.toolbox) {extracted : Path}
    {outcome? : Option Outcome}
    (called : Called (setting.toolbox.disassemble extracted (scratch / "smali")) session after
      outcome?) : Staged prior place image after.files :=
  staged.change new (by simp [attemptNames]) staged.apart.symm (called.only
    (confined.disassemble _ _) fun _ reached => staged.tidy.child new smali_plain reached)

theorem patched (staged : Staged prior place image session.files)
    (new : NewPlace prior scratch place) {tree : Path}
    (rewritten : ClassRewritten setting.patch tree session.files after.files) :
    Staged prior place image after.files ∧
      (session.files.node? (place ++ ["smali"]) = some .directory →
        after.files.node? (place ++ ["smali"]) = some .directory) := by
  obtain ⟨writing, wrote, before, later, ran⟩ := rewritten.rewrite
  rw [← before] at staged ⊢
  rw [← later]
  rcases replace_swaps _ _ _ _ _ _ _ ran with same | ⟨_, _, _, _, _, file, open_, swapped⟩
  · rw [same]
    exact ⟨staged, id⟩
  · exact ⟨staged.swapped new file open_ swapped, fun there =>
      staged.tidy.swapped_directory new there file open_ swapped⟩

theorem reassembled (staged : Staged prior place image session.files)
    (new : NewPlace prior scratch place) (named : PlainName (imageName image))
    (confined : Confined setting.toolbox) {tree : Path} {outcome? : Option Outcome}
    (called : Called (setting.toolbox.assemble tree (scratch / ("modified_" ++ imageName image)))
      session after outcome?) :
    Staged prior place image after.files ∧
      (session.files.node? (place ++ ["smali"]) = some .directory →
        after.files.node? (place ++ ["smali"]) = some .directory) := by
  have aside := called.only (confined.assemble _ _) fun place reached =>
    staged.tidy.child new (modified_plain named) reached
  refine ⟨staged.change new (by simp [attemptNames]) (modified_apart _) aside, fun there => ?_⟩
  rw [aside.rest _ (beside_names (modified_tree _) []), there]

/-- What is promoted is what the assembler left. -/
theorem installs (staged : Staged prior place image session.files)
    (new : NewPlace prior scratch place) (named : PlainName (imageName image))
    (quiet : Quiet setting.progress) (outcome : Outcome)
    (done : (promoted setting image (scratch / "smali")
      (scratch / ("modified_" ++ imageName image)) (scratch / imageName image)).perform session =
        (.ok outcome, after)) :
    outcome = .promoted (scratch / imageName image) ∧
      Installed scratch (imageName image) place session.files after.files := by
  obtain ⟨rfl, moved, moving, cleared⟩ := promoted_steps _ _ _ _ _ _ _ _ quiet done
  obtain ⟨emptied, ready, same, renamed⟩ := promote_moves new named session moved staged moving
  rw [cleared]
  exact ⟨rfl, (moved_over new named ready renamed).installed new named ready staged.tidy same
    renamed⟩

theorem promotes (staged : Staged prior place image session.files)
    (new : NewPlace prior scratch place) (named : PlainName (imageName image))
    (quiet : Quiet setting.progress) (outcome : Outcome) (drawn once : Files) (spot : Place)
    (planted : drawn.node? (place ++ ["smali"]) = some .directory →
      session.files.node? (place ++ ["smali"]) = some .directory)
    (leads : once.resolve (scratch / "smali") = .ok spot)
    (done : (promoted setting image (scratch / "smali")
      (scratch / ("modified_" ++ imageName image)) (scratch / imageName image)).perform session =
        (.ok outcome, after)) :
    outcome = .promoted (scratch / imageName image) ∧
      Alone scratch (imageName image) place drawn session.files after.files := by
  obtain ⟨rfl, moved, moving, cleared⟩ := promoted_steps _ _ _ _ _ _ _ _ quiet done
  obtain ⟨emptied, ready, same, renamed⟩ := promote_moves new named session moved staged moving
  have takeover := moved_over new named ready renamed
  rw [cleared]
  refine ⟨rfl, takeover.alone new named ready staged.tidy same (fun there => ?_) renamed once spot
    leads⟩
  rw [same.rest _ (beside_names staged.apart []), planted there]

end Staged

theorem attempt_leaves (new : NewPlace prior (scratchOf workRoot image) place)
    (before session after : Session) (result : Attempt)
    (fresh : Freshened workRoot image before session)
    (made : session.files = prior.put place .directory) (plain : setting.disk = Smali.Disk.plain)
    (quiet : Quiet setting.progress) (confined : Confined setting.toolbox)
    (named : PlainName (imageName image))
    (done : (attempt setting archive image (scratchOf workRoot image)).perform session =
      (.ok result, after)) :
    result.image = image ∧ (Refused result.outcome ∨
      result.outcome = .promoted (extractedOf workRoot image) ∧
        Kept setting archive workRoot image before after) := by
  have again := child_name (scratchOf workRoot image) _ named
  simp only [attempt, again, info, bind_eq_ok, rewording_eq_ok, log_eq_ok] at done
  obtain ⟨size, taken, extracting, _, shown, logged, _, treed, making, drawing?, drawn, drawing,
    done⟩ := done
  obtain ⟨files, treeing, rfl⟩ := (change_eq_ok ..).mp making
  rw [logged] at treeing
  obtain ⟨staged, _⟩ :=
    staged_ok new named setting.reader archive session taken size files made extracting treeing
  obtain ⟨spot, once, _⟩ := makeDirectory_ok _ _ _ treeing
  have drew := disassembled_ok setting image _ _ _ drawn _ quiet drawing
  have making : Staged prior place image { shown with files : Session }.files := staged
  cases drawing? with
  | some outcome =>
      obtain ⟨rfl, rfl⟩ := (pure_eq_ok ..).mp done
      exact ⟨rfl, Or.inl (drew.refused outcome rfl)⟩
  | none =>
      have drawnStaged := making.disassembled new confined drew
      obtain ⟨calling, called, _, drawn_through⟩ := drew.run
      simp only [bind_eq_ok] at done
      obtain ⟨patching?, given, patching, done⟩ := done
      have sought := patched_ok setting image _ drawn given _ plain quiet patching
      cases patching? with
      | some outcome =>
          obtain ⟨rfl, rfl⟩ := (pure_eq_ok ..).mp done
          exact ⟨rfl, Or.inl sought.refused.1⟩
      | none =>
          obtain _ | _ | ⟨_, _, rewritten⟩ := sought
          obtain ⟨givenStaged, givenTree⟩ := drawnStaged.patched new rewritten
          simp only [bind_eq_ok] at done
          obtain ⟨making?, built, assembling, done⟩ := done
          have made := reassembled_ok setting image _ _ given built _ quiet assembling
          cases making? with
          | some outcome =>
              obtain ⟨rfl, rfl⟩ := (pure_eq_ok ..).mp done
              exact ⟨rfl, Or.inl (made.refused outcome rfl)⟩
          | none =>
              obtain ⟨builtStaged, builtTree⟩ := givenStaged.reassembled new named confined made
              obtain ⟨building, begun, _, made_through⟩ := made.run
              simp only [bind_eq_ok, pure_eq_ok] at done
              obtain ⟨outcome, _, promoting, rfl, rfl⟩ := done
              obtain ⟨rfl, alone⟩ := builtStaged.promotes new named quiet outcome drawn.files _
                spot (fun there => builtTree (givenTree there)) once promoting
              exact ⟨rfl, Or.inr ⟨rfl, again, session, { shown with files }, drawn, given, built,
                place, fresh, ⟨⟨size, taken, extracting, treeing⟩, drawing, patching, assembling,
                  promoting⟩, ⟨calling, called, drawn_through rfl⟩,
                ⟨building, begun, made_through rfl⟩, alone⟩⟩

theorem attempt_answers (new : NewPlace prior (scratchOf workRoot image) place)
    (before session after : Session) (result : Attempt)
    (fresh : Freshened workRoot image before session)
    (made : session.files = prior.put place .directory) (plain : setting.disk = Smali.Disk.plain)
    (quiet : Quiet setting.progress) (confined : Confined setting.toolbox)
    (done : (attempt setting archive image (scratchOf workRoot image)).perform session =
      (.ok result, after)) :
    (∃ reason detail, result = ⟨image, .failed reason detail⟩) ∨
      result = ⟨image, .promoted (extractedOf workRoot image)⟩ ∧
        Kept setting archive workRoot image before after := by
  have begun : Tidy prior place (attemptNames image) session.files := made ▸ tidy_made new
  have unnamed : ¬(imageName image = "" ∨ imageName image = "..") := by
    intro nameless
    obtain ⟨⟨_, broken⟩, _⟩ := attempt_named new session after _ begun quiet nameless done
    exact absurd broken nofun
  have named : PlainName (imageName image) := by
    rcases name_plain image.entry with empty | up | name
    · exact absurd (Or.inl empty) unnamed
    · exact absurd (Or.inr up) unnamed
    · exact name
  obtain ⟨subject, ⟨reason, detail, ended⟩ | ⟨ended, kept⟩⟩ :=
    attempt_leaves new before session after result fresh made plain quiet confined named done
  · exact Or.inl ⟨reason, detail, by rw [← subject, ← ended]⟩
  · exact Or.inr ⟨by rw [← ended, ← subject], kept⟩

theorem tryImage_advances (session after : Session) (result : Except Fault Attempt)
    (sound : session.files.Sound) (plain : setting.disk = Smali.Disk.plain)
    (quiet : Quiet setting.progress) (confined : Confined setting.toolbox)
    (done : (tryImage setting archive workRoot image).perform session = (result, after)) :
    Advance setting archive workRoot image session result after ∧
      ∀ attempt, result = .ok attempt → attempt.isPatched = false → after.files.Sound := by
  have silent : ∀ message session after answer,
      (setting.progress message).perform session = (answer, after) → after.files = session.files :=
    fun message session after answer told => by rw [← quiet message session, told]
  cases tryImage_tried _ _ _ _ _ _ _ done with
  | unmade fault after making =>
      exact ⟨.unmade fault after making (freshScratch_unmade _ _ _ making), nofun⟩
  | untold message fault made after making telling =>
      exact ⟨.untold message fault made after making telling, nofun⟩
  | tried message answer result made told tried after making telling trying closing =>
      obtain ⟨prior, place, new, files⟩ := freshScratch_new session made sound () making
      have start : told.files = prior.put place .directory :=
        (silent _ _ _ _ telling).trans files
      have fresh : Freshened workRoot image session told :=
        ⟨made, making, silent _ _ _ _ telling⟩
      have begun : Tidy prior place (attemptNames image) told.files := start ▸ tidy_made new
      have tidy := attempt_tidy new told tried answer begun plain quiet confined trying
      obtain ⟨settled, gone⟩ : (swept (scratchOf workRoot image) tried).files.Sound ∧
          (swept (scratchOf workRoot image) tried).files.exists? (scratchOf workRoot image) =
            .ok false := by
        rw [swept_files]
        exact tidy.cleared new
      cases closing with
      | broken fault => exact ⟨.raised fault _ gone, nofun⟩
      | untold attempt message fault tried after lost telling =>
          rw [← silent _ _ _ _ telling] at gone
          exact ⟨.raised fault after gone, nofun⟩
      | failed attempt message tried after lost telling =>
          rw [← silent _ _ _ _ telling] at gone settled
          refine ⟨?_, fun _ _ _ => settled⟩
          rcases attempt_answers new session told tried attempt fresh start plain quiet confined
            trying with
            ⟨reason, detail, rfl⟩ | ⟨rfl, _⟩
          · exact .failed reason detail after gone
          · cases lost
      | patched attempt tried won =>
          rcases attempt_answers new session told after attempt fresh start plain quiet confined
            trying with ⟨reason, detail, rfl⟩ | ⟨rfl, kept⟩
          · cases won
          · refine ⟨.patched after kept, fun attempt same lost => ?_⟩
            cases same
            cases lost

theorem Row.Reaches.left (images : List Apk.Image) (session : Session) (current : Row)
    (sound : session.files.Sound) (plain : setting.disk = Smali.Disk.plain)
    (quiet : Quiet setting.progress) (confined : Confined setting.toolbox)
    (reached : (row setting archive workRoot session images).Reaches current) :
    ∃ earlier left before, images = earlier ++ left ∧ before.files.Sound ∧
      current = row setting archive workRoot before left := by
  induction images generalizing session with
  | nil =>
      rw [row_nil] at reached
      cases reached
      exact ⟨[], [], session, rfl, sound, rfl⟩
  | cons image rest ih =>
      have begin := row_cons setting archive workRoot session image rest
      rw [begin] at reached
      rcases tried : (tryImage setting archive workRoot image).perform session with
        ⟨fault | attempt, after⟩
      · rw [tried] at begin reached
        cases reached
        exact ⟨[], image :: rest, session, rfl, sound, begin.symm⟩
      · rw [tried] at begin reached
        cases reached with
        | here => exact ⟨[], image :: rest, session, rfl, sound, begin.symm⟩
        | next failed onward =>
            obtain ⟨_, settled⟩ :=
              tryImage_advances session after _ sound plain quiet confined tried
            obtain ⟨earlier, left, before, order, later, same⟩ :=
              ih after (settled attempt rfl failed) onward
            exact ⟨image :: earlier, left, before, by rw [order]; rfl, later, same⟩

end

end DexGraft.Search
