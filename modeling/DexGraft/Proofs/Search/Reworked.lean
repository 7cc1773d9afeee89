import DexGraft.Proofs.Search.Attempt

/-!
What an attempt hands on. The entry's content goes through the disassembler, the
rewrite of one class and the assembler; all three work under names of their own
in the attempt's directory, so that no step disturbs what another one reads.
-/
namespace DexGraft.Search

open Files DexGraft.Action

structure Drawn (toolbox : Toolbox) (extracted tree : Path) (original : Bytes)
    (drawing drawn : Session) : Prop where
  original : drawing.files.read extracted = .ok original
  empty : ∃ place, drawing.files.resolve tree = .ok place ∧
    drawing.files.node? place = some .directory ∧
    ∀ name more, drawing.files.node? (place ++ name :: more) = none
  run : (toolbox.disassemble extracted tree).perform drawing = (.ok (), drawn)

/-- How a result comes from an original: the disassembler makes a tree of the original, one class
of that tree is rewritten, and the assembler makes the result of the tree. -/
structure Reworked (setting : Setting) (extracted tree rebuilt : Path) (original : Bytes)
    (ready drawn given made : Session) : Prop where
  disassembled : ∃ drawing, drawing.files = ready.files ∧
    Drawn setting.toolbox extracted tree original drawing drawn
  rewritten : ClassRewritten setting.patch tree drawn.files given.files
  assembled : ∃ building, building.files = given.files ∧
    (setting.toolbox.assemble tree rebuilt).perform building = (.ok (), made)

def Holds (decoders : Zip.Decoders) (file : Bytes) (name : String) (content : Bytes) : Prop :=
  ∃ archive, Zip.readWith decoders file = .ok archive ∧ Apk.LastContent archive name content

structure Patched (setting : Setting) (root : Path) (file : Bytes) (image : Apk.Image)
    (original : Bytes) (begun ready drawn given made ended : Session) : Prop where
  holds : Holds setting.reader.decoders file image.entry original
  steps : Promoting setting image (root / "input.apk") (scratchOf root image / image.entry)
    (treeOf root image) (scratchOf root image / ("modified_" ++ image.entry)) begun ready drawn
    given made ended
  reworked : Reworked setting (scratchOf root image / image.entry) (treeOf root image)
    (scratchOf root image / ("modified_" ++ image.entry)) original ready drawn given made
  passed : Passed made.files (scratchOf root image / ("modified_" ++ image.entry)) ended.files
    (scratchOf root image / image.entry)

section

variable {begun prior : Files} {root : Path} {rootPlace : Place} {image : Apk.Image}

theorem extracted_ok (reader : Zip.Reader) (session after : Session) (size : Nat)
    (site : Site begun root rootPlace) (early : Underway begun rootPlace prior)
    (customary : image.Customary) (working : Working root rootPlace image prior session.files)
    (done : (Apk.extract (root / "input.apk") image.entry (scratchOf root image / image.entry)
      reader).perform session = (.ok size, after)) :
    ∃ file original,
      session.files.read (root / "input.apk") = .ok file ∧
      Holds reader.decoders file image.entry original ∧
      after.files.read (scratchOf root image / image.entry) = .ok original ∧
      SameOutside (rootPlace ++ [attemptName image] ++ [image.entry]) session.files
        after.files := by
  have onlyImage : ∀ files content filled, files.write (scratchOf root image / image.entry)
      content = .ok filled → Working root rootPlace image prior files →
        SameOutside (rootPlace ++ [attemptName image] ++ [image.entry]) files filled := by
    intro files content filled written working
    obtain ⟨place, _, reached, _, _⟩ := write_ok _ _ _ _ written
    obtain rfl := working.child image.entry customary.plain place reached
    exact write_outside _ _ _ _ _ reached written
  obtain ⟨file, archive, original, emptied, found, read, last, cleared, filled⟩ :=
    Apk.extract_apart reader _ _ _ session after size (fun emptied file cleared found =>
      archive_kept _ _ _ (attemptName_apart image) site (working.underway early)
        ((onlyImage _ _ _ cleared working).wider (List.prefix_append _ _)) found) done
  have first := onlyImage _ _ _ cleared working
  exact ⟨file, original, found, ⟨archive, read, last⟩, write_read _ _ _ _ filled,
    first.trans (onlyImage _ _ _ filled (working.step site early _ first))⟩

theorem stored_outside (target : String) (before after : Files) (treePlace : Place)
    (old content : Bytes) (customary : image.Customary) (inside : StaysInside target)
    (tree : before.resolve (treeOf root image) = .ok treePlace)
    (readable : before.read (treeOf root image / Smali.classFile target) = .ok old)
    (stored : Smali.Stored before after (treeOf root image / Smali.classFile target) content) :
    SameOutside treePlace before after := by
  obtain ⟨place, mode, reached, node⟩ := (read_eq_ok ..).mp readable
  obtain ⟨temporary, beside, made, found, swapped⟩ := stored.swapped place reached
  obtain ⟨name, more, within⟩ := inside before root image treePlace place customary tree reached
  obtain ⟨parent, above, parts, _, front, spot, _⟩ :=
    Smali.temporary_beside before _ temporary place beside made reached found
  -- The temporary file is made in the directory of the class's file, and that is in the tree.
  have parent_inside : treePlace <+: parent := by
    have walked := ((resolve_eq_ok ..).mp reached).2
    rw [parts, walk_append] at walked
    obtain ⟨middle, first, step⟩ := walked
    rw [front] at first
    cases first
    obtain ⟨_, ⟨_, arrived⟩ | ⟨_, _, arrived⟩⟩ := (walk_cons ..).mp step
    · cases arrived
      exact (within ▸ List.prefix_append _ _).trans (List.dropLast_prefix _)
    · injection arrived with same
      have longer : treePlace.length ≤ parent.length := by
        have size := congrArg List.length (same.trans within)
        simp only [List.length_append, List.length_cons, List.length_nil] at size
        omega
      have front_of_both : treePlace <+: parent ++ [(treeOf root image /
          Smali.classFile target).name] := by
        rw [same, within]
        exact List.prefix_append _ _
      exact List.prefix_of_prefix_length_le front_of_both (List.prefix_append _ _) longer
  refine ⟨swapped.here, fun other outside => swapped.rest other ?_ ?_⟩
  · rintro rfl
    rw [within] at outside
    exact outside (List.prefix_append _ _)
  · intro under
    rw [spot] at under
    exact outside ((parent_inside.trans (List.prefix_append _ _)).trans under)

theorem rewritten_outside (patch : Patch) (before after : Files) (treePlace : Place)
    (customary : image.Customary) (inside : StaysInside patch.targetClass)
    (tree : before.resolve (treeOf root image) = .ok treePlace)
    (rewritten : ClassRewritten patch (treeOf root image) before after) :
    SameOutside treePlace before after := by
  obtain ⟨text, patched, readable, _, _, stored⟩ := rewritten.text
  exact stored_outside patch.targetClass before after treePlace _ _ customary inside tree readable
    stored

theorem drawn_ok (setting : Setting) (session taken making drawn : Session)
    (size : Nat) (outcome? : Option Outcome) (site : Site begun root rootPlace)
    (early : Underway begun rootPlace prior) (customary : image.Customary)
    (orderly : Orderly setting) (working : Working root rootPlace image prior session.files)
    (bare : ∀ name more,
      session.files.node? (rootPlace ++ [attemptName image] ++ name :: more) = none)
    (extracting : (Apk.extract (root / "input.apk") image.entry (scratchOf root image / image.entry)
      setting.reader).perform session = (.ok size, taken))
    (treed : taken.files.makeDirectory (treeOf root image) = .ok making.files)
    (drawing : (disassembled setting image (scratchOf root image / image.entry)
      (treeOf root image)).perform making = (.ok outcome?, drawn)) :
    Working root rootPlace image prior drawn.files ∧
      making.files.resolve (treeOf root image) =
        .ok (rootPlace ++ [attemptName image] ++ ["smali"]) ∧
      (∀ outcome, outcome? = some outcome → Refused outcome) ∧
      (outcome? = none → ∃ file original drawing,
        session.files.read (root / "input.apk") = .ok file ∧
        Holds setting.reader.decoders file image.entry original ∧ drawing.files = making.files ∧
        Drawn setting.toolbox (scratchOf root image / image.entry) (treeOf root image) original
          drawing drawn) := by
  obtain ⟨file, original, found, holds, extracted, inFile⟩ :=
    extracted_ok setting.reader session taken size site early customary working extracting
  have holding := working.step site early _ inFile
  obtain ⟨place, reached, _, named, made⟩ := makeDirectory_ok _ _ _ treed
  obtain rfl := holding.child "smali" smali_plain place reached
  have inTree : SameOutside (rootPlace ++ [attemptName image] ++ ["smali"]) taken.files
      making.files := by
    rw [made]
    exact sameOutside_put _ _ _ named
  have ready := holding.step site early _ inTree
  have leads := ready.child_again taken.files "smali" smali_plain _ reached
  have readable := ready.read_other holding "smali" image.entry customary.plain
    (image_apart customary).1 inTree original extracted
  have directory : making.files.node? (rootPlace ++ [attemptName image] ++ ["smali"]) =
      some .directory := by
    rw [made, node_put _ _ _ _ named, if_pos rfl]
  have empty : ∀ name more, making.files.node?
      (rootPlace ++ [attemptName image] ++ ["smali"] ++ name :: more) = none := by
    intro name more
    have longer : rootPlace ++ [attemptName image] ++ ["smali"] ++ name :: more ≠
        rootPlace ++ [attemptName image] ++ ["smali"] := by simp
    -- The image was extracted under a name of its own, so nothing came under the tree's.
    have beside : ¬rootPlace ++ [attemptName image] ++ [image.entry] <+:
        rootPlace ++ [attemptName image] ++ ["smali"] ++ name :: more := by
      rw [List.append_assoc _ ["smali"], List.prefix_append_right_inj, List.singleton_append,
        List.cons_prefix_cons]
      exact fun same => (image_apart customary).1 same.1
    rw [made, node_put _ _ _ _ named, if_neg longer, inFile.rest _ beside,
      List.append_assoc _ ["smali"]]
    exact bare "smali" (name :: more)
  have called := disassembled_ok setting image _ _ making drawn outcome? orderly.progress drawing
  obtain ⟨calling, same, after, through⟩ := called.run
  have onlyTree : SameOutside (rootPlace ++ [attemptName image] ++ ["smali"]) making.files
      drawn.files := by
    rw [after, ← same]
    apply orderly.toolbox.disassemble
    intro spot there
    rw [same] at there
    rw [ready.child "smali" smali_plain spot there]
  refine ⟨ready.step site early _ onlyTree, leads, called.refused, fun went => ?_⟩
  rw [← same] at readable leads directory empty
  exact ⟨file, original, calling, found, holds, same, readable, ⟨_, leads, directory, empty⟩,
    through went⟩

theorem made_ok (setting : Setting) (given made : Session) (outcome? : Option Outcome)
    (site : Site begun root rootPlace) (early : Underway begun rootPlace prior)
    (customary : image.Customary) (orderly : Orderly setting)
    (working : Working root rootPlace image prior given.files)
    (making : (reassembled setting image (treeOf root image)
      (scratchOf root image / ("modified_" ++ image.entry))).perform given = (.ok outcome?, made)) :
    Working root rootPlace image prior made.files ∧
      Called (setting.toolbox.assemble (treeOf root image)
        (scratchOf root image / ("modified_" ++ image.entry))) given made outcome? := by
  have called := reassembled_ok setting image _ _ given made outcome? orderly.progress making
  obtain ⟨calling, same, after, _⟩ := called.run
  refine ⟨working.step site early ("modified_" ++ image.entry) ?_, called⟩
  rw [after, ← same]
  apply orderly.toolbox.assemble
  intro spot there
  rw [same] at there
  rw [working.child _ (modified_plain customary.plain) spot there]

theorem attempt_ok (setting : Setting) (session after : Session) (result : Attempt)
    (site : Site begun root rootPlace) (early : Underway begun rootPlace prior)
    (customary : image.Customary) (orderly : Orderly setting)
    (working : Working root rootPlace image prior session.files)
    (bare : ∀ name more,
      session.files.node? (rootPlace ++ [attemptName image] ++ name :: more) = none)
    (done : (attempt setting (root / "input.apk") image (scratchOf root image)).perform session =
      (.ok result, after)) :
    Working root rootPlace image prior after.files ∧ result.image = image ∧
      (Refused result.outcome ∨
        result.outcome = .promoted (scratchOf root image / image.entry) ∧
        ∃ file original ready drawn given made,
          session.files.read (root / "input.apk") = .ok file ∧
          Patched setting root file image original session ready drawn given made after) := by
  have named : imageName image = image.entry := imageName_customary customary
  have again := child_name (scratchOf root image) _ customary.plain
  simp only [attempt, named, again, info, bind_eq_ok, rewording_eq_ok, log_eq_ok] at done
  obtain ⟨size, taken, extracting, _, shown, logged, _, treed, making, drawing?, drawn, drawing,
    done⟩ := done
  obtain ⟨files, tree, rfl⟩ := (change_eq_ok ..).mp making
  rw [logged] at tree
  obtain ⟨ready, leads, refused, went⟩ := drawn_ok setting session taken { shown with files } drawn
    size drawing? site early customary orderly working bare extracting tree drawing
  -- Whoever refuses ends the attempt; only three steps that went through lead to a promotion.
  cases drawing? with
  | some outcome =>
      obtain ⟨rfl, rfl⟩ := (pure_eq_ok ..).mp done
      exact ⟨ready, rfl, Or.inl (refused outcome rfl)⟩
  | none =>
      obtain ⟨file, original, calling, found, holds, begun, disassembled⟩ := went rfl
      simp only [bind_eq_ok] at done
      obtain ⟨patching?, given, patching, done⟩ := done
      have drawnTree := ready.child_again _ "smali" smali_plain _ leads
      have sought := patched_ok setting image _ drawn given patching? orderly.disk
        orderly.progress patching
      cases patching? with
      | some outcome =>
          obtain ⟨rfl, rfl⟩ := (pure_eq_ok ..).mp done
          obtain ⟨refused, kept⟩ := sought.refused
          rw [← kept] at ready
          exact ⟨ready, rfl, Or.inl refused⟩
      | none =>
          obtain _ | _ | ⟨_, _, rewritten⟩ := sought
          have onlyTree := rewritten_outside setting.patch _ _ _ customary orderly.target drawnTree
            rewritten
          have holding := ready.step site early _ onlyTree
          simp only [bind_eq_ok] at done
          obtain ⟨making?, made, making, done⟩ := done
          obtain ⟨built, called⟩ :=
            made_ok setting given made making? site early customary orderly holding making
          obtain ⟨giving, same, _, through⟩ := called.run
          cases making? with
          | some outcome =>
              obtain ⟨rfl, rfl⟩ := (pure_eq_ok ..).mp done
              exact ⟨built, rfl, Or.inl (called.refused outcome rfl)⟩
          | none =>
              simp only [bind_eq_ok, pure_eq_ok] at done
              obtain ⟨outcome, _, promoting, rfl, rfl⟩ := done
              obtain ⟨won, later, passed⟩ :=
                promoted_ok setting made _ outcome site early customary orderly.progress built
                  (built.child_again _ "smali" smali_plain _ leads) promoting
              refine ⟨later, rfl, Or.inr ⟨won, file, original, { shown with files }, drawn, given, made,
                found, ?_⟩⟩
              exact {
                holds
                steps := ⟨⟨size, taken, extracting, tree⟩, drawing, patching, making,
                  won ▸ promoting⟩
                reworked := ⟨⟨calling, begun, disassembled⟩, rewritten, giving, same, through rfl⟩
                passed }

end

end DexGraft.Search
