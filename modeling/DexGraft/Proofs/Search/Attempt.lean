import DexGraft.Proofs.Apk.Archive
import DexGraft.Proofs.Search.Site

/-!
One image tried. Every step of an attempt changes files under one name in the
attempt's directory; a promoted image is what the assembler made of the
disassembler's tree with one class rewritten in it.
-/
namespace DexGraft.Search

open Files DexGraft.Action

def Freshened (root : Path) (image : Apk.Image) (before told : Session) : Prop :=
  ∃ fresh, (freshScratch (scratchOf root image)).perform before = (.ok (), fresh) ∧
    told.files = fresh.files

theorem freshScratch_ok {begun : Files} {root : Path} {rootPlace : Place} {image : Apk.Image}
    (session after : Session) (site : Site begun root rootPlace)
    (early : Underway begun rootPlace session.files) (value : Unit)
    (done : (freshScratch (scratchOf root image)).perform session = (.ok value, after)) :
    Working root rootPlace image session.files after.files ∧
      ∀ name more, after.files.node? (rootPlace ++ [attemptName image] ++ name :: more) = none ∨
        after.files.node? (rootPlace ++ [attemptName image] ++ name :: more) =
          session.files.node? (rootPlace ++ [attemptName image] ++ name :: more) := by
  -- In both cases the directory is made in files that have nothing in its place.
  have made : ∀ (cleared : Files) (files : Files),
      SameOutside (rootPlace ++ [attemptName image]) session.files cleared →
      cleared.makeDirectories (scratchOf root image) = .ok files →
      files = cleared.put (rootPlace ++ [attemptName image]) .directory ∧
        Working root rootPlace image session.files files := by
    intro cleared files same making
    have underway := early.step (attemptName image) [] same
    obtain ⟨reached, free, rfl⟩ := makeDirectories_child cleared files root (attemptName image)
      rootPlace (attemptName_plain _) (underway.root site) underway.there making
    have named : rootPlace ++ [attemptName image] ≠ [] := by simp
    refine ⟨rfl, same.trans (sameOutside_put _ _ _ named), ?_, ?_⟩
    · rw [node_put _ _ _ _ named, if_pos rfl]
    · exact resolve_put _ _ _ _ _ (by simp [free]) reached
  have beyond : ∀ name more, rootPlace ++ [attemptName image] ++ name :: more ≠
      rootPlace ++ [attemptName image] := by simp
  have named : rootPlace ++ [attemptName image] ≠ [] := by simp
  simp only [freshScratch, bind_eq_ok, ask_eq_ok] at done
  obtain ⟨there, _, ⟨_, rfl⟩, done⟩ := done
  cases there with
  | false =>
      simp only [Bool.false_eq_true, if_false, rewording_eq_ok, change_eq_ok] at done
      obtain ⟨files, making, rfl⟩ := done
      obtain ⟨rfl, working⟩ := made session.files files (SameOutside.refl _ _) making
      refine ⟨working, fun name more => Or.inr ?_⟩
      rw [node_put _ _ _ _ named, if_neg (beyond name more)]
  | true =>
      simp only [if_true, Action.removeTree, bind_eq_ok, rewording_eq_ok, change_eq_ok] at done
      obtain ⟨_, _, ⟨cleared, removed, rfl⟩, files, making, rfl⟩ := done
      obtain ⟨place, reached, _, rfl⟩ := removeTree_ok _ _ _ removed
      obtain ⟨rfl, _⟩ := resolve_child _ root (attemptName image) rootPlace place
        (attemptName_plain _) (early.root site) reached
      obtain ⟨rfl, working⟩ := made _ files (sameOutside_dropUnder _ _ named) making
      refine ⟨working, fun name more => Or.inl ?_⟩
      rw [node_put _ _ _ _ named, if_neg (beyond name more), node_dropUnder _ _ _ named,
        if_pos (List.prefix_append _ _)]

/-- An outcome that is a reason why the image is not the one to patch. -/
def Refused (outcome : Outcome) : Prop :=
  ∃ reason detail, outcome = .failed reason detail

/-- A tool that was called: what the files are afterwards, and that only a tool that went through
leaves nothing to tell. -/
structure Called (tool : Action Unit) (session after : Session) (outcome? : Option Outcome) :
    Prop where
  run : ∃ calling : Session, calling.files = session.files ∧
    after.files = (tool.perform calling).2.files ∧
    (outcome? = none → tool.perform calling = (.ok (), after))
  refused : ∀ outcome, outcome? = some outcome → Refused outcome

theorem disassembled_ok (setting : Setting) (image : Apk.Image) (extracted tree : Path)
    (session after : Session) (outcome? : Option Outcome) (quiet : Quiet setting.progress)
    (done : (disassembled setting image extracted tree).perform session = (.ok outcome?, after)) :
    Called (setting.toolbox.disassemble extracted tree) session after outcome? := by
  simp only [disassembled, bind_eq_ok, ask_eq_ok, record_eq_ok] at done
  obtain ⟨_, told, progressed, content, _, ⟨_, rfl⟩, _, calling, recorded, done⟩ := done
  have kept : told.files = session.files := quiet_ok quiet _ _ _ _ progressed
  have same : calling.files = session.files := (congrArg Session.files recorded).trans kept
  rcases guarded_ok _ _ _ _ _ done with ⟨ran, rfl⟩ | ⟨fault, drawn, ran, done⟩
  · exact ⟨⟨calling, same, by rw [ran], fun _ => ran⟩, fun _ none => nomatch none⟩
  · cases fault with
    | disassembly text =>
        simp only [bind_eq_ok, log_eq_ok, pure_eq_ok] at done
        obtain ⟨_, logged, rfl, _, shown, progressed, rfl, rfl⟩ := done
        have still := quiet_ok quiet _ _ _ _ progressed
        exact ⟨⟨calling, same, by rw [ran, still], fun none => nomatch none⟩,
          fun _ same => ⟨_, _, (Option.some.inj same).symm⟩⟩
    | _ => exact absurd done (throw_ne_ok _ _ _ _)

theorem reassembled_ok (setting : Setting) (image : Apk.Image) (tree rebuilt : Path)
    (session after : Session) (outcome? : Option Outcome) (quiet : Quiet setting.progress)
    (done : (reassembled setting image tree rebuilt).perform session = (.ok outcome?, after)) :
    Called (setting.toolbox.assemble tree rebuilt) session after outcome? := by
  simp only [reassembled, bind_eq_ok, record_eq_ok] at done
  obtain ⟨_, told, progressed, _, calling, recorded, done⟩ := done
  have kept : told.files = session.files := quiet_ok quiet _ _ _ _ progressed
  have same : calling.files = session.files := (congrArg Session.files recorded).trans kept
  rcases guarded_ok _ _ _ _ _ done with ⟨ran, rfl⟩ | ⟨fault, made, ran, done⟩
  · exact ⟨⟨calling, same, by rw [ran], fun _ => ran⟩, fun _ none => nomatch none⟩
  · cases fault with
    | assembly text =>
        simp only [bind_eq_ok, log_eq_ok, pure_eq_ok] at done
        obtain ⟨_, logged, rfl, _, shown, progressed, rfl, rfl⟩ := done
        have still := quiet_ok quiet _ _ _ _ progressed
        exact ⟨⟨calling, same, by rw [ran, still], fun none => nomatch none⟩,
          fun _ same => ⟨_, _, (Option.some.inj same).symm⟩⟩
    | _ => exact absurd done (throw_ne_ok _ _ _ _)

/-- Only the class's file in the tree has changed, and that as a rewrite changes it. -/
structure ClassRewritten (patch : Patch) (tree : Path) (before after : Files) : Prop where
  rewrite : ∃ (calling done : Session), calling.files = before ∧ done.files = after ∧
    (Smali.replace Smali.Disk.plain (tree / Smali.classFile patch.targetClass) patch.signature
      patch.replacement Smali.endMarker).perform calling = (.ok true, done)
  text : ∃ text patched,
    before.read (tree / Smali.classFile patch.targetClass) = .ok (Bytes.ofText text) ∧
    Smali.patch text.toList patch.signature.toList patch.replacement.toList
      Smali.endMarker.toList = some patched ∧
    after.read (tree / Smali.classFile patch.targetClass) = .ok (Bytes.encoded patched.text) ∧
    Smali.Stored before after (tree / Smali.classFile patch.targetClass)
      (Bytes.encoded patched.text)
  only : ∀ place, before.resolve (tree / Smali.classFile patch.targetClass) = .ok place →
    Smali.Vacant before (tree / Smali.classFile patch.targetClass) →
      ∀ other, other ≠ place → after.node? other = before.node? other

def HasMethod (patch : Patch) (tree : Path) (files : Files) : Prop :=
  ∃ text, files.read (tree / Smali.classFile patch.targetClass) = .ok (Bytes.ofText text) ∧
    Smali.HasBlock (Smali.Broken.ofText text.toList).lines patch.signature.toList
      Smali.endMarker.toList

/-- What comes of the search for a method in a tree: its class is missing, the class lacks it, or
the class was rewritten. -/
inductive Sought (patch : Patch) (tree : Path) (before after : Files) : Option Outcome → Prop
  | classMissing (absent : before.isFile (tree / Smali.classFile patch.targetClass) = .ok false)
      (same : after = before) : Sought patch tree before after (some (.failed .classNotFound ""))
  | methodMissing (there : before.isFile (tree / Smali.classFile patch.targetClass) = .ok true)
      (lacking : ¬HasMethod patch tree before) (same : after = before) :
      Sought patch tree before after (some (.failed .methodNotFound ""))
  | rewritten (there : before.isFile (tree / Smali.classFile patch.targetClass) = .ok true)
      (has : HasMethod patch tree before) (rewritten : ClassRewritten patch tree before after) :
      Sought patch tree before after none

theorem Sought.refused {patch : Patch} {tree : Path} {before after : Files} {outcome : Outcome}
    (sought : Sought patch tree before after (some outcome)) :
    Refused outcome ∧ after = before := by
  cases sought with
  | classMissing _ same => exact ⟨⟨_, _, rfl⟩, same⟩
  | methodMissing _ _ same => exact ⟨⟨_, _, rfl⟩, same⟩

theorem locate_ok (files : Files) (tree : Path) (target : String) (found : Option Path)
    (done : Smali.locate files tree target = .ok found) :
    ∃ there, files.isFile (tree / Smali.classFile target) = .ok there ∧
      found = if there then some (tree / Smali.classFile target) else none := by
  cases there : files.isFile (tree / Smali.classFile target) with
  | error cause => simp [Smali.locate, there, bind, Except.bind] at done
  | ok there_ =>
      simp only [Smali.locate, there, bind, Except.bind, pure, Except.pure, Except.ok.injEq] at done
      exact ⟨there_, rfl, done.symm⟩

theorem patched_ok (setting : Setting) (image : Apk.Image) (tree : Path) (session after : Session)
    (outcome? : Option Outcome) (plain : setting.disk = Smali.Disk.plain)
    (quiet : Quiet setting.progress)
    (done : (patched setting image tree).perform session = (.ok outcome?, after)) :
    Sought setting.patch tree session.files after.files outcome? := by
  simp only [patched, bind_eq_ok, ask_eq_ok] at done
  obtain ⟨found, _, ⟨located, rfl⟩, done⟩ := done
  obtain ⟨there, present, rfl⟩ := locate_ok _ _ _ _ located
  cases there with
  | false =>
      simp only [Bool.false_eq_true, if_false, info, bind_eq_ok, log_eq_ok, pure_eq_ok] at done
      obtain ⟨_, _, rfl, _, told, progressed, rfl, rfl⟩ := done
      have kept := quiet_ok quiet _ _ _ _ progressed
      exact .classMissing present kept
  | true =>
      simp only [if_true, bind_eq_ok, rewording_eq_ok] at done
      obtain ⟨_, told, progressed, replaced, middle, ran, done⟩ := done
      have kept : told.files = session.files := quiet_ok quiet _ _ _ _ progressed
      rw [plain] at ran
      obtain ⟨text, readable, ⟨rfl, lacking, still⟩ | ⟨rfl, block, _, found, patch, stored⟩⟩ :=
        Smali.replace_ok _ _ _ _ _ _ _ ran
      · simp only [Bool.false_eq_true, if_false, bind_eq_ok, pure_eq_ok] at done
        obtain ⟨_, shown, progressed, rfl, rfl⟩ := done
        have quietly : shown.files = middle.files := quiet_ok quiet _ _ _ _ progressed
        refine .methodMissing present ?_ (by rw [quietly, still, kept])
        rintro ⟨other, read, block⟩
        rw [← kept, readable] at read
        have same := congrArg Bytes.toText? (Except.ok.inj read)
        rw [Bytes.toText_ofText, Bytes.toText_ofText] at same
        cases same
        exact lacking block
      · simp only [if_true, bind_eq_ok, pure_eq_ok] at done
        obtain ⟨_, shown, progressed, rfl, rfl⟩ := done
        have quietly : shown.files = middle.files := quiet_ok quiet _ _ _ _ progressed
        rw [kept] at readable stored
        rw [← quietly] at stored
        exact .rewritten present ⟨text, readable, block⟩ ⟨⟨told, middle, kept, quietly.symm, ran⟩,
          ⟨text, found, readable, patch, Smali.stored_read _ _ _ _ _ readable stored, stored⟩,
          fun place reached vacant => Smali.stored_only _ _ _ place _ stored vacant reached⟩

theorem moveFile_ok (source target : Path) (session after : Session) (value : Unit)
    (done : (moveFile source target).perform session = (.ok value, after)) :
    session.files.rename source target = .ok after.files := by
  rcases (tryCatch_eq_ok ..).mp done with ran | ⟨fault, middle, refused, done⟩
  · obtain ⟨files, renamed, rfl⟩ := (change_eq_ok ..).mp ran
    exact renamed
  · rw [perform_change] at refused
    split at refused
    · cases refused
    · rename_i cause failed
      cases refused
      cases cause with
      | file fault =>
          simp only [bind_eq_ok, ask_eq_ok, change_eq_ok] at done
          obtain ⟨content, _, ⟨there, rfl⟩, _, _, ⟨written, filled, rfl⟩, _⟩ := done
          obtain ⟨_, renamed⟩ := rename_of_copied _ _ _ _ _ there filled
          rw [failed] at renamed
          cases renamed
      | _ => exact absurd done (throw_ne_ok _ _ _ _)

theorem promote_steps (source target : Path) (session after : Session) (value : Unit)
    (done : (promote source target).perform session = (.ok value, after)) :
    ∃ cleared, (cleared = session.files ∨ session.files.remove target = .ok cleared) ∧
      cleared.rename source target = .ok after.files := by
  simp only [promote, bind_eq_ok, ask_eq_ok] at done
  obtain ⟨found, _, ⟨_, rfl⟩, done⟩ := done
  cases found with
  | none => exact ⟨_, Or.inl rfl, moveFile_ok _ _ _ _ _ done⟩
  | some node =>
      simp only [bind_eq_ok, change_eq_ok] at done
      obtain ⟨_, _, ⟨files, removed, rfl⟩, done⟩ := done
      exact ⟨files, Or.inr removed, moveFile_ok _ _ _ _ _ done⟩

theorem promoted_steps (setting : Setting) (image : Apk.Image) (tree rebuilt extracted : Path)
    (session after : Session) (outcome : Outcome) (quiet : Quiet setting.progress)
    (done : (promoted setting image tree rebuilt extracted).perform session =
      (.ok outcome, after)) :
    outcome = .promoted extracted ∧ ∃ moved,
      (promote rebuilt extracted).perform session = (.ok (), moved) ∧
      after.files = moved.files.clearTree tree := by
  simp only [promoted, bind_eq_ok, rewording_eq_ok, fileSize_eq_ok, log_eq_ok, pure_eq_ok] at done
  obtain ⟨_, _, ⟨_, moved, moving, clearing⟩, _, _, ⟨_, rfl⟩, _, _, rfl, _, told, progressed, rfl,
    rfl⟩ := done
  have kept := quiet_ok quiet _ _ _ _ progressed
  rw [perform_clearTree] at clearing
  cases clearing
  exact ⟨rfl, moved, moving, kept⟩

/-- The steps of an attempt that promotes its image, each from where the one before it ended. -/
structure Promoting (setting : Setting) (image : Apk.Image)
    (archive extracted tree rebuilt : Path) (begun ready drawn given made ended : Session) :
    Prop where
  extraction : ∃ size taken,
    (Apk.extract archive image.entry extracted setting.reader).perform begun = (.ok size, taken) ∧
      taken.files.makeDirectory tree = .ok ready.files
  disassembly : (disassembled setting image extracted tree).perform ready = (.ok none, drawn)
  search : (patched setting image tree).perform drawn = (.ok none, given)
  assembly : (reassembled setting image tree rebuilt).perform given = (.ok none, made)
  promotion : (promoted setting image tree rebuilt extracted).perform made =
    (.ok (.promoted extracted), ended)

def Passed (before : Files) (source : Path) (after : Files) (target : Path) : Prop :=
  ∃ node, before.find source = .ok node ∧ after.find target = .ok node

theorem Passed.read {before after : Files} {source target : Path} {content : Bytes}
    (passed : Passed before source after target) (there : after.read target = .ok content) :
    before.read source = .ok content := by
  obtain ⟨node, left, found⟩ := passed
  obtain ⟨origin, reached, node⟩ := (find_eq_ok ..).mp left
  obtain ⟨goal, mode, reached', file⟩ := (read_eq_ok ..).mp there
  rw [(find_eq_ok ..).mpr ⟨goal, reached', file⟩] at found
  cases found
  exact (read_eq_ok ..).mpr ⟨origin, mode, reached, node⟩

section

variable {begun prior : Files} {root : Path} {rootPlace : Place} {image : Apk.Image}

theorem moved_ok (files after : Files) (site : Site begun root rootPlace)
    (early : Underway begun rootPlace prior) (customary : image.Customary)
    (working : Working root rootPlace image prior files)
    (done : files.rename (scratchOf root image / ("modified_" ++ image.entry))
      (scratchOf root image / image.entry) = .ok after) :
    Working root rootPlace image prior after ∧
      Passed files (scratchOf root image / ("modified_" ++ image.entry)) after
        (scratchOf root image / image.entry) := by
  obtain ⟨origin, goal, fromOrigin, toGoal⟩ := rename_places _ _ _ _ done
  obtain rfl := working.child _ (modified_plain customary.plain) origin fromOrigin
  obtain rfl := working.child _ customary.plain goal toGoal
  -- The two names differ, so one place is emptied and the other one filled.
  have apart : rootPlace ++ [attemptName image] ++ ["modified_" ++ image.entry] ≠
      rootPlace ++ [attemptName image] ++ [image.entry] := by
    intro same
    simp only [List.append_cancel_left_eq, List.cons.injEq, and_true] at same
    exact (image_apart customary).2.2 same
  obtain ⟨middle, emptied, filled⟩ := rename_steps _ _ _ _ _ _ fromOrigin toGoal apart (by simp)
    (by simp) done
  have between := working.step site early _ emptied
  have later := between.step site early _ filled
  obtain ⟨node, left, there⟩ := rename_node _ _ _ _ _ _ fromOrigin toGoal apart (by simp) done
  exact ⟨later, node, (find_eq_ok ..).mpr ⟨_, fromOrigin, left⟩,
    (find_eq_ok ..).mpr ⟨_, later.child_again files _ customary.plain _ toGoal, there⟩⟩

theorem promote_ok (session after : Session) (site : Site begun root rootPlace)
    (early : Underway begun rootPlace prior) (customary : image.Customary) (value : Unit)
    (working : Working root rootPlace image prior session.files)
    (done : (promote (scratchOf root image / ("modified_" ++ image.entry))
      (scratchOf root image / image.entry)).perform session = (.ok value, after)) :
    Working root rootPlace image prior after.files ∧
      Passed session.files (scratchOf root image / ("modified_" ++ image.entry)) after.files
        (scratchOf root image / image.entry) := by
  obtain ⟨cleared, clearing, moving⟩ := promote_steps _ _ _ _ _ done
  have empty : SameOutside (rootPlace ++ [attemptName image] ++ [image.entry]) session.files
      cleared := by
    rcases clearing with rfl | removed
    · exact SameOutside.refl _ _
    · obtain ⟨place, _, _, reached, _, rfl⟩ := remove_ok _ _ _ removed
      obtain rfl := working.child image.entry customary.plain place reached
      exact sameOutside_dropUnder _ _ (by simp)
  have ready := working.step site early image.entry empty
  obtain ⟨later, node, left, there⟩ := moved_ok _ _ site early customary ready moving
  exact ⟨later, node, working.find_other ready image.entry _ (modified_plain customary.plain)
    (image_apart customary).2.2 empty.symm node left, there⟩

theorem promoted_ok (setting : Setting) (session after : Session) (outcome : Outcome)
    (site : Site begun root rootPlace) (early : Underway begun rootPlace prior)
    (customary : image.Customary) (quiet : Quiet setting.progress)
    (working : Working root rootPlace image prior session.files)
    (tree : session.files.resolve (treeOf root image) =
      .ok (rootPlace ++ [attemptName image] ++ ["smali"]))
    (done : (promoted setting image (treeOf root image)
      (scratchOf root image / ("modified_" ++ image.entry))
      (scratchOf root image / image.entry)).perform session = (.ok outcome, after)) :
    outcome = .promoted (scratchOf root image / image.entry) ∧
      Working root rootPlace image prior after.files ∧
      Passed session.files (scratchOf root image / ("modified_" ++ image.entry)) after.files
        (scratchOf root image / image.entry) := by
  obtain ⟨same, moved, moving, cleared⟩ := promoted_steps _ _ _ _ _ _ _ _ quiet done
  obtain ⟨held, node, left, there⟩ := promote_ok session moved site early customary _ working moving
  -- What is cleared is the tree, beside the image.
  have leads := held.child_again session.files "smali" smali_plain _ tree
  have swept := clearTree_outside moved.files (treeOf root image) _ (by simp) leads
  rw [← cleared] at swept
  have later := held.step site early "smali" swept
  exact ⟨same, later, node, left, later.find_other held "smali" image.entry customary.plain
    (image_apart customary).1 swept node there⟩

end

end DexGraft.Search
