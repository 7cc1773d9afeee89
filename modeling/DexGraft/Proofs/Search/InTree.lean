import DexGraft.Proofs.Files.Descent
import DexGraft.Proofs.Files.Standing
import DexGraft.Proofs.Search.Grounded

/-!
Where a class is rewritten. A class whose path descends is found in the tree, wherever that is, and
an attempt rewrites no file but one that the disassembler has put there.
-/
namespace DexGraft.Smali

open Files DexGraft.Action

def besideOf (place : Place) : Place :=
  let name := place.getLastD ""
  place.dropLast ++ [s!".{name}.tmp"]

/-- Nothing has changed but what is at a file's place and at its temporary file's. -/
structure OnlyThere (start : Files) (place : Place) (files : Files) : Prop where
  here : files.here = start.here
  rest : ∀ other, other ≠ place → ¬besideOf place <+: other → files.node? other = start.node? other

theorem replace_there (start : Files) (path : Path) (above : List String) (name : String)
    (parts : path.parts = above ++ [name]) (down : name ≠ "..")
    (signature replacement marker : String) :
    Keeps (fun session => OnlyThere start (destination start.here path) session.files)
      (fun _ => True) (replace Disk.plain path signature replacement marker) := by
  refine .of_perform fun session only => ⟨?_, fun _ _ => trivial⟩
  rcases ran : (replace Disk.plain path signature replacement marker).perform session with
    ⟨result, after⟩
  rcases replace_files _ _ _ _ _ _ _ ran with same | ⟨old, content, readable, _, stored⟩
  · rw [same]
    exact only
  · obtain ⟨place, mode, reached, node⟩ := (read_eq_ok ..).mp readable
    obtain ⟨temporary, beside, made, found, swapped⟩ := stored.swapped place reached
    obtain ⟨parent, above', parts', _, front, spot, _⟩ :=
      temporary_beside session.files path temporary place beside made reached found
    obtain ⟨middle, walked, _, leads⟩ := resolve_named _ path place above name parts down reached
    obtain ⟨rfl, named⟩ := List.append_inj' (parts.symm.trans parts') rfl
    rw [front] at walked
    cases walked
    have file : path.name = name := (List.cons.inj named).1.symm
    have aside : besideOf place = beside := by
      rw [besideOf, leads, List.dropLast_concat, List.getLastD_concat, spot, file]
    have goal : destination start.here path = place := by
      rw [resolve_destination _ _ _ reached, only.here]
    rw [goal] at only ⊢
    refine ⟨swapped.here.trans only.here, fun other differs outside => ?_⟩
    rw [swapped.rest other differs (aside ▸ outside), only.rest other differs outside]

def ClassDescends (target : String) : Prop :=
  Descends (Path.ofText (classFile target))

instance (target : String) : Decidable (ClassDescends target) :=
  inferInstanceAs (Decidable (Descends _))

theorem ClassDescends.leads {target : String} (descends : ClassDescends target) :
    ∃ front name, ∀ here tree,
      destination here (tree / classFile target) = destination here tree ++ front ++ [name] := by
  obtain ⟨goal, within, leads⟩ := Descends.leads descends
  obtain ⟨above, last, parts⟩ := classFile_parts target
  rw [parts, follow_append, Option.bind_eq_some_iff] at within
  obtain ⟨front, _, ends⟩ := within
  rw [follow_down _ _ (extended_down last)] at ends
  refine ⟨front, String.ofList (last ++ fileExtension), fun here tree => ?_⟩
  rw [List.append_assoc, Option.some.inj ends]
  exact leads here tree

theorem OnlyThere.under {start files : Files} {tree : Path} {target : String}
    (only : OnlyThere start (destination start.here (tree / classFile target)) files)
    (descends : ClassDescends target) (other : Place)
    (differs : files.node? other ≠ start.node? other) :
    ∃ name more, other = destination start.here tree ++ name :: more := by
  obtain ⟨front, name, leads⟩ := descends.leads
  rw [leads] at only
  have at_or_beside : other = destination start.here tree ++ front ++ [name] ∨
      besideOf (destination start.here tree ++ front ++ [name]) <+: other := by
    by_contra neither
    rw [not_or] at neither
    exact differs (only.rest other neither.1 neither.2)
  rcases at_or_beside with rfl | ⟨more, rfl⟩
  · cases front <;> simp
  · rw [besideOf, List.dropLast_concat]
    cases front <;> simp

end DexGraft.Smali

namespace DexGraft.Search

open Files DexGraft.Action

def untilDrawn (setting : Setting) (archive : Path) (image : Apk.Image) (scratch : Path) :
    Action (Option Outcome) := do
  let extracted := scratch / imageName image
  let size := Apk.kilobytes (← Apk.extract archive image.entry extracted setting.reader)
  Action.info s!"  {image.entry}: {size} extracted"
  let tree := scratch / "smali"
  let making := Action.change fun files => files.makeDirectory tree
  making.rewording Cause.isRefusal fun cause => .io (.createDirectory tree.text cause)
  disassembled setting image extracted tree

def onceRewritten (setting : Setting) (image : Apk.Image) (scratch : Path) : Action Attempt := do
  let extracted := scratch / imageName image
  let tree := scratch / "smali"
  let rebuilt := scratch / ("modified_" ++ extracted.name)
  if let some outcome ← reassembled setting image tree rebuilt then return ⟨image, outcome⟩
  return ⟨image, ← promoted setting image tree rebuilt extracted⟩

theorem attempt_eq (setting : Setting) (archive : Path) (image : Apk.Image) (scratch : Path) :
    attempt setting archive image scratch = (do
      if let some outcome ← untilDrawn setting archive image scratch then return ⟨image, outcome⟩
      if let some outcome ← patched setting image (scratch / "smali") then return ⟨image, outcome⟩
      onceRewritten setting image scratch) := by
  simp only [untilDrawn, onceRewritten, bind_assoc]
  rfl

theorem child_parts (base : Path) (image : Apk.Image) (filled : base.parts ≠ []) :
    (base / imageName image).parts ≠ [] := by
  have relative : (Path.ofText (imageName image)).isAbsolute = false := by
    have slashes : Path.rootSlashes (imageName image).toList = 0 :=
      (Path.rootSlashes_eq_zero _).mpr fun slash =>
        name_whole image.entry _ (List.mem_of_head? slash) rfl
    simp [Path.isAbsolute, Path.ofText, slashes]
  change (base.join (Path.ofText (imageName image))).parts ≠ []
  rw [Path.join, relative]
  simp [filled]

theorem staysInside_of_descends {target : String} (descends : Smali.ClassDescends target) :
    StaysInside target := by
  intro files root image treePlace place _ tree reached
  obtain ⟨front, name, leads⟩ := descends.leads
  rw [resolve_destination _ _ _ tree, resolve_destination _ _ _ reached, leads]
  cases front <;> simp

section

variable {setting : Setting} {archive scratch : Path} {image : Apk.Image} {session after : Session}

theorem locate_found {files : Files} {tree path : Path} {target : String}
    (located : Smali.locate files tree target = .ok (some path)) :
    path = tree / Smali.classFile target ∧
      ∃ content mode, files.node? (destination files.here path) = some (.file content mode) := by
  obtain ⟨there, present, same⟩ := locate_ok _ _ _ _ located
  cases there with
  | false => exact absurd same (by simp)
  | true =>
      rw [if_pos rfl, Option.some.injEq] at same
      obtain ⟨content, read⟩ := isFile_read _ _ present
      obtain ⟨place, mode, reached, node⟩ := (read_eq_ok ..).mp read
      rw [resolve_destination _ _ _ reached, ← same] at node
      exact ⟨same, content, mode, node⟩

theorem untilDrawn_ok (quiet : Quiet setting.progress) (grounded : Grounded setting.toolbox)
    (filled : scratch.parts ≠ []) (sound : session.files.Sound)
    (done : (untilDrawn setting archive image scratch).perform session = (.ok none, after)) :
    ∃ making : Session, (disassembled setting image (scratch / imageName image)
        (scratch / "smali")).perform making = (.ok none, after) ∧
      ∀ name more, making.files.node?
        (destination after.files.here (scratch / "smali") ++ name :: more) = none := by
  simp only [untilDrawn, info, bind_eq_ok, rewording_eq_ok, log_eq_ok, change_eq_ok] at done
  obtain ⟨size, taken, extracting, _, _, rfl, _, _, ⟨files, treed, rfl⟩, drawing⟩ := done
  obtain ⟨_, _, _, _, _, _, _, emptied, _, _, _, _, cleared, _, _, written⟩ :=
    Apk.extract_ok _ _ _ _ _ _ _ extracting
  have file := child_parts scratch image filled
  have still : taken.files.Sound := (sound.write _ _ file cleared).write _ _ file written
  obtain ⟨place, reached, free, named, rfl⟩ := makeDirectory_ok _ _ _ treed
  obtain ⟨calling, same, ran, _⟩ :=
    (disassembled_ok setting image _ _ _ after none quiet drawing).run
  have here : after.files.here = taken.files.here := by
    rw [ran, grounded.disassemble, same]
    exact here_put ..
  refine ⟨_, drawing, fun name more => ?_⟩
  have apart : place ++ name :: more ≠ place := by simp
  rw [here, ← resolve_destination _ _ _ reached]
  change (taken.files.put place .directory).node? _ = none
  rw [node_put _ _ _ _ named, if_neg apart]
  exact still.nothing_under place free _

theorem patched_there (disk : setting.disk = Smali.Disk.plain) (quiet : Quiet setting.progress)
    (tree : Path) (result : Except Fault (Option Outcome))
    (done : (patched setting image tree).perform session = (result, after)) :
    Smali.OnlyThere session.files (destination session.files.here
      (tree / Smali.classFile setting.patch.targetClass)) after.files := by
  obtain ⟨above, last, parts⟩ := Smali.classFile_name tree setting.patch.targetClass
  have rewritten := Smali.replace_there session.files _ above _ parts (Smali.extended_down last)
    setting.patch.signature setting.patch.replacement Smali.endMarker
  have keeps := patched_keeps (tolerant_files (fun files => Smali.OnlyThere session.files
    (destination session.files.here (tree / Smali.classFile setting.patch.targetClass)) files)
    quiet) image tree (disk ▸ rewritten)
  exact keeps.after session after result ⟨rfl, fun _ _ _ => rfl⟩ done

end

/-- What is found in a tree is the file at the class's path; its place is under that of every tree
just for the classes whose paths descend. An attempt draws the tree and then rewrites the class; by
the rewrite nothing changes but the class's file and its temporary file, and if the class's path
descends, nothing but what the disassembler has put into the tree. -/
theorem attempt_in_tree (setting : Setting) (archive scratch : Path) (image : Apk.Image) :
    (∀ target, Smali.ClassDescends target ↔
      ∀ here tree, destination here tree <+: destination here (tree / Smali.classFile target)) ∧
    (∀ files tree target path, Smali.locate files tree target = .ok (some path) →
      path = tree / Smali.classFile target ∧
      (∃ content mode, files.node? (destination files.here path) = some (.file content mode)) ∧
      (Smali.ClassDescends target → ∃ name more,
        destination files.here path = destination files.here tree ++ name :: more)) ∧
    (attempt setting archive image scratch = do
      if let some outcome ← untilDrawn setting archive image scratch then return ⟨image, outcome⟩
      if let some outcome ← patched setting image (scratch / "smali") then return ⟨image, outcome⟩
      onceRewritten setting image scratch) ∧
    ∀ (session drawn given : Session) (result : Except Fault (Option Outcome)),
      setting.disk = Smali.Disk.plain → Quiet setting.progress → Grounded setting.toolbox →
      scratch.parts ≠ [] → session.files.Sound →
      (untilDrawn setting archive image scratch).perform session = (.ok none, drawn) →
      (patched setting image (scratch / "smali")).perform drawn = (result, given) →
      Smali.OnlyThere drawn.files (destination drawn.files.here
        (scratch / "smali" / Smali.classFile setting.patch.targetClass)) given.files ∧
      (Smali.ClassDescends setting.patch.targetClass → ∃ making,
        (disassembled setting image (scratch / imageName image)
          (scratch / "smali")).perform making = (.ok none, drawn) ∧
        ∀ other, given.files.node? other ≠ drawn.files.node? other →
          making.files.node? other = none ∧
          ∃ name more, other = destination drawn.files.here (scratch / "smali") ++ name :: more) := by
  refine ⟨fun target => descends_iff _, fun files tree target path located => ?_, attempt_eq .., ?_⟩
  · obtain ⟨same, file⟩ := locate_found located
    refine ⟨same, file, fun descends => ?_⟩
    obtain ⟨front, name, leads⟩ := descends.leads
    rw [same, leads]
    cases front <;> simp
  · intro session drawn given result disk quiet grounded filled sound drawing patching
    have only := patched_there disk quiet _ result patching
    refine ⟨only, fun descends => ?_⟩
    obtain ⟨making, called, free⟩ := untilDrawn_ok quiet grounded filled sound drawing
    refine ⟨making, called, fun other differs => ?_⟩
    obtain ⟨name, more, rfl⟩ := only.under descends other differs
    exact ⟨free name more, name, more, rfl⟩

theorem plainTools_grounded : Grounded plainTools where
  disassemble _ _ session :=
    (keeps_bind (keeps_ask fun _ => trivial) fun _ =>
      keeps_bind (keeps_ask fun _ => trivial) fun _ => write_grounded _ _).session session rfl
  assemble _ _ session :=
    (keeps_bind (keeps_ask fun _ => trivial) fun _ => write_grounded _ _).session session rfl

def givenScratch : Path := ⟨1, ["tmp"]⟩

def givenTried : Apk.Image := ⟨"classes.dex", 1⟩

theorem attempt_in_tree_given :
    Grounded givenPipeline.setting.toolbox ∧ givenSession.files.Sound ∧
      Smali.ClassDescends givenPatch.targetClass ∧
      ∃ drawn given,
        (untilDrawn givenPipeline.setting ⟨0, ["in.apk"]⟩ givenTried givenScratch).perform
          givenSession = (.ok none, drawn) ∧
        (patched givenPipeline.setting givenTried (givenScratch / "smali")).perform drawn =
          (.ok none, given) ∧
        given.files.read ⟨1, ["tmp", "smali", "A.smali"]⟩ =
          .ok (Bytes.ofText ".method a\nreturn\n.end method\n") ∧
        ∀ other, given.files.node? other ≠ drawn.files.node? other →
          ∃ name more, other = ["tmp", "smali"] ++ name :: more := by
  have descends : Smali.ClassDescends givenPatch.targetClass := by decide +kernel
  have drawing := perform_of_toOption (untilDrawn givenPipeline.setting ⟨0, ["in.apk"]⟩ givenTried
    givenScratch) givenSession none (by decide +kernel)
  generalize ran : ((untilDrawn givenPipeline.setting ⟨0, ["in.apk"]⟩ givenTried
    givenScratch).perform givenSession).2 = drawn at drawing
  have patching := perform_of_toOption (patched givenPipeline.setting givenTried
    (givenScratch / "smali")) drawn none (by rw [← ran]; decide +kernel)
  obtain ⟨_, _, _, attempts⟩ :=
    attempt_in_tree givenPipeline.setting ⟨0, ["in.apk"]⟩ givenScratch givenTried
  obtain ⟨_, under⟩ := attempts _ _ _ _ rfl (fun _ _ => rfl) plainTools_grounded (by decide)
    givenSession_sound drawing patching
  obtain ⟨_, _, each⟩ := under descends
  refine ⟨plainTools_grounded, givenSession_sound, descends, _, _, drawing, patching, ?_,
    fun other differs => ?_⟩
  · refine Checked.ok_of_toOption ?_
    rw [← ran]
    decide +kernel
  · have tree : destination drawn.files.here (givenScratch / "smali") = ["tmp", "smali"] :=
      destination_child _ _ _ smali_plain
    have found := (each other differs).2
    rwa [tree] at found

/-- The class is looked for beside the directory that attempts are made in. -/
def straySetting : Setting :=
  { givenPipeline.setting with patch := { givenPatch with
      targetClass := "../../x.smali"
      class_filled := by decide +kernel } }

def straySession : Session :=
  { givenSession with
    files := ⟨[(["tmp"], .directory), (["x.smali"], .file givenImage newFileMode),
      (["in.apk"], .file givenArchive newFileMode)], []⟩ }

/-- Paths with a way up, from the root, and with a dot in front, which becomes a slash, lead out of
a tree; an attempt rewrites what is there. -/
theorem class_outside :
    (∀ target ∈ ["../x.smali", "/x", ".x"], ∃ path,
      Smali.locate straySession.files ⟨1, ["tmp"]⟩ target = .ok (some path) ∧
      destination straySession.files.here path = ["x.smali"]) ∧
    straySession.files.read ⟨1, ["x.smali"]⟩ = .ok givenImage ∧
    ∃ after,
      (attempt straySetting ⟨0, ["in.apk"]⟩ givenTried givenScratch).perform straySession =
        (.ok ⟨givenTried, .promoted ⟨1, ["tmp", "classes.dex"]⟩⟩, after) ∧
      after.files.read ⟨1, ["x.smali"]⟩ =
        .ok (Bytes.ofText ".method a\nreturn\n.end method\n") := by
  refine ⟨?_, rfl, ?_⟩
  · simp only [List.forall_mem_cons, List.not_mem_nil, false_imp_iff, implies_true, and_true]
    exact ⟨⟨_, rfl, rfl⟩, ⟨_, rfl, rfl⟩, ⟨_, rfl, rfl⟩⟩
  · have done := perform_of_toOption (attempt straySetting ⟨0, ["in.apk"]⟩ givenTried givenScratch)
      straySession ⟨givenTried, .promoted ⟨1, ["tmp", "classes.dex"]⟩⟩ (by decide +kernel)
    exact ⟨_, done, Checked.ok_of_toOption (by decide +kernel)⟩

end DexGraft.Search
