import DexGraft.Proofs.Search.Row
import DexGraft.Proofs.Session.Keeps

/-!
What the steps of a run keep. A step does little but change some files: whatever
outlasts these changes, the tools, and words to the user, outlasts the step, and it
does not matter in which fault the step may end.
-/
namespace DexGraft.Search

open Files DexGraft.Action

variable {inv : Session → Prop} {allowed : Fault → Prop} {setting : Setting}

/-- Faults of files and archives are allowed, and words change nothing. -/
structure Tolerant (setting : Setting) (inv : Session → Prop) (allowed : Fault → Prop) : Prop where
  cause : ∀ cause, allowed (.cause cause)
  io : ∀ io, allowed (.io io)
  missing : ∀ archive entry, allowed (.entryNotFound archive entry)
  logged : ∀ level message, Keeps inv allowed (log level message)
  told : ∀ message, Keeps inv allowed (setting.progress message)

theorem Tolerant.archive (tolerant : Tolerant setting inv allowed) (decoders : Zip.Decoders)
    (path : Path) : Keeps inv allowed (Apk.readArchive path decoders) := by
  refine keeps_bind (keeps_ask tolerant.cause) fun file => ?_
  cases Zip.readWith decoders file with
  | ok archive => exact keeps_pure archive
  | error fault => exact keeps_throw (tolerant.cause _)

theorem Tolerant.zip {α : Type} (tolerant : Tolerant setting inv allowed)
    (found : Except Zip.Fault α) : Keeps inv allowed (Apk.zipResult found) := by
  cases found with
  | ok value => exact keeps_pure value
  | error fault => exact keeps_throw (tolerant.cause _)

theorem Tolerant.size (tolerant : Tolerant setting inv allowed) (path : Path) :
    Keeps inv allowed (fileSize path) :=
  keeps_ask tolerant.cause

theorem openArchive_keeps (tolerant : Tolerant setting inv allowed) (decoders : Zip.Decoders)
    (path : Path) : Keeps inv allowed (Apk.openArchive path decoders) :=
  keeps_rewording (tolerant.archive decoders path) fun _ => tolerant.io _

theorem select_keeps (tolerant : Tolerant setting inv allowed) (any : ∀ fault, allowed fault)
    (decoders : Zip.Decoders) (path : Path) : Keeps inv allowed (Apk.select path decoders) := by
  refine keeps_bind (keeps_bind (openArchive_keeps tolerant decoders path) fun _ => keeps_pure _)
    fun names => ?_
  cases Apk.selectImages names Apk.defaultBase Apk.defaultExtension with
  | ok images => exact keeps_pure images
  | error fault => exact keeps_throw (any fault)

theorem prepared_keeps (pipeline : Pipeline) (tolerant : Tolerant pipeline.setting inv allowed)
    (any : ∀ fault, allowed fault) (input archive : Path)
    (filled : ∀ content, Keeps inv allowed (change fun files => files.write archive content)) :
    Keeps inv allowed (prepared pipeline input archive) := by
  have copying : Keeps inv allowed (copyFile input archive) :=
    keeps_bind (keeps_ask tolerant.cause) filled
  exact keeps_bind (tolerant.told _) fun _ =>
    keeps_bind (keeps_rewording copying fun _ => tolerant.io _) fun _ =>
      keeps_bind (tolerant.told _) fun _ => keeps_bind (select_keeps tolerant any _ _) fun _ =>
        keeps_bind (tolerant.logged ..) fun _ => keeps_pure _

theorem rebuildFile_keeps (tolerant : Tolerant setting inv allowed) (decoders : Zip.Decoders)
    (deflate : Bytes → Bytes) (source output : Path) (name : String) (content : Bytes)
    (alignment : Int)
    (filled : ∀ content, Keeps inv allowed (change fun files => files.write output content)) :
    Keeps inv allowed (Apk.rebuildFile deflate source name content output alignment decoders) := by
  have rebuilding : ∀ change, Keeps inv allowed
      (Apk.rebuiltArchive decoders deflate source change output) := by
    intro change
    refine keeps_bind (tolerant.archive decoders source) fun archive =>
      keeps_bind (filled []) fun _ => keeps_bind (keeps_ask tolerant.cause) fun left => ?_
    cases Apk.rebuild deflate { archive with file := left } change with
    | ok rebuilt => exact keeps_bind (filled _) fun _ => keeps_pure _
    | error fault =>
        cases fault with
        | fault fault => exact keeps_throw (tolerant.cause _)
        | excess excess => exact keeps_throw (tolerant.io _)
  exact keeps_bind keeps_get fun _ =>
    keeps_bind (keeps_rewording (rebuilding _) fun _ => tolerant.io _) fun _ =>
      keeps_bind (tolerant.logged ..) fun _ => keeps_bind (tolerant.size output) fun _ =>
        keeps_bind (tolerant.logged ..) fun _ => keeps_pure _

theorem extract_keeps (tolerant : Tolerant setting inv allowed) (reader : Zip.Reader)
    (path target : Path) (name : String)
    (filled : ∀ content, Keeps inv allowed (change fun files => files.write target content)) :
    Keeps inv allowed (Apk.extract path name target reader) := by
  refine keeps_bind (openArchive_keeps tolerant _ path) fun archive => ?_
  cases Apk.findEntry? archive name with
  | none => exact keeps_throw (tolerant.missing ..)
  | some found =>
      have copying : Keeps inv allowed
          (Apk.copyEntry reader path archive found.1 found.2 target) :=
        keeps_bind (tolerant.zip _) fun _ => keeps_bind (filled []) fun _ =>
          keeps_bind (keeps_ask tolerant.cause) fun _ =>
            keeps_bind (tolerant.zip _) fun content => filled content
      exact keeps_bind (keeps_rewording copying fun _ => tolerant.io _) fun _ =>
        tolerant.size target

theorem freshScratch_keeps (tolerant : Tolerant setting inv allowed) (scratch : Path)
    (emptied : Keeps inv allowed (Action.removeTree scratch))
    (made : Keeps inv allowed (change fun files => files.makeDirectories scratch)) :
    Keeps inv allowed (freshScratch scratch) :=
  keeps_bind (keeps_ask tolerant.cause) fun _ =>
    keeps_if (keeps_bind emptied fun _ => keeps_rewording made fun _ => tolerant.io _)
      (keeps_bind (keeps_pure _) fun _ => keeps_rewording made fun _ => tolerant.io _)

theorem disassembled_keeps (tolerant : Tolerant setting inv allowed) (image : Apk.Image)
    (extracted tree : Path)
    (recorded : ∀ content, Keeps inv allowed (record (.disassembled extracted.name content)))
    (called : Keeps inv (fun fault => (∃ text, fault = .disassembly text) ∨ allowed fault)
      (setting.toolbox.disassemble extracted tree)) :
    Keeps inv allowed (disassembled setting image extracted tree) := by
  refine keeps_bind (tolerant.told _) fun _ => keeps_bind (keeps_ask tolerant.cause) fun content =>
    keeps_bind (recorded content) fun _ => ?_
  refine keeps_tryCatch (keeps_bind called fun _ => keeps_pure _) fun fault raised => ?_
  cases fault with
  | disassembly text =>
      exact keeps_bind (tolerant.logged ..) fun _ => keeps_bind (tolerant.told _) fun _ =>
        keeps_pure _
  | _ => exact keeps_throw (raised.resolve_left nofun)

theorem reassembled_keeps (tolerant : Tolerant setting inv allowed) (image : Apk.Image)
    (tree rebuilt : Path) (recorded : Keeps inv allowed (record (.assembled rebuilt.name)))
    (called : Keeps inv (fun fault => (∃ text, fault = .assembly text) ∨ allowed fault)
      (setting.toolbox.assemble tree rebuilt)) :
    Keeps inv allowed (reassembled setting image tree rebuilt) := by
  refine keeps_bind (tolerant.told _) fun _ => keeps_bind recorded fun _ => ?_
  refine keeps_tryCatch (keeps_bind called fun _ => keeps_pure _) fun fault raised => ?_
  cases fault with
  | assembly text =>
      exact keeps_bind (tolerant.logged ..) fun _ => keeps_bind (tolerant.told _) fun _ =>
        keeps_pure _
  | _ => exact keeps_throw (raised.resolve_left nofun)

theorem patched_keeps (tolerant : Tolerant setting inv allowed) (image : Apk.Image) (tree : Path)
    (rewritten : Keeps inv allowed (Smali.replace setting.disk
      (tree / Smali.classFile setting.patch.targetClass) setting.patch.signature
      setting.patch.replacement Smali.endMarker)) :
    Keeps inv allowed (patched setting image tree) := by
  refine keeps_bind_once (keeps_ask tolerant.cause) fun found session middle asked => ?_
  obtain ⟨there, _, rfl⟩ := locate_ok _ _ _ _ ((ask_eq_ok ..).mp asked).1
  cases there with
  | false =>
      exact keeps_bind (tolerant.logged ..) fun _ => keeps_bind (tolerant.told _) fun _ =>
        keeps_pure _
  | true =>
      refine keeps_bind (tolerant.told _) fun _ =>
        keeps_bind (keeps_rewording rewritten fun _ => tolerant.io _) fun replaced => ?_
      exact keeps_if (keeps_bind (tolerant.told _) fun _ => keeps_pure _)
        (keeps_bind (tolerant.told _) fun _ => keeps_pure _)

theorem promote_keeps (tolerant : Tolerant setting inv allowed) (source target : Path)
    (emptied : Keeps inv allowed (change fun files => files.remove target))
    (moved : Keeps inv allowed (change fun files => files.rename source target))
    (filled : ∀ content, Keeps inv allowed (change fun files => files.write target content))
    (removed : Keeps inv allowed (change fun files => files.remove source)) :
    Keeps inv allowed (promote source target) := by
  have moving : Keeps inv allowed (moveFile source target) := by
    refine keeps_tryCatch moved fun fault fine => ?_
    split
    · exact keeps_bind (keeps_ask tolerant.cause) fun content =>
        keeps_bind (filled content) fun _ => removed
    · exact keeps_throw fine
  refine keeps_bind (keeps_ask tolerant.cause) fun found => ?_
  cases found with
  | none => exact moving
  | some node => exact keeps_bind emptied fun _ => moving

theorem promoted_keeps (tolerant : Tolerant setting inv allowed) (image : Apk.Image)
    (tree rebuilt extracted : Path) (moved : Keeps inv allowed (promote rebuilt extracted))
    (cleared : Keeps inv allowed (Action.clearTree tree)) :
    Keeps inv allowed (promoted setting image tree rebuilt extracted) :=
  keeps_bind (keeps_rewording (keeps_bind moved fun _ => cleared) fun _ => tolerant.io _) fun _ =>
    keeps_bind (tolerant.size extracted) fun _ => keeps_bind (tolerant.logged ..) fun _ =>
      keeps_bind (tolerant.told _) fun _ => keeps_pure _

/-- What outlasts every change under a path, which leads to one place if it leads anywhere. -/
structure Held (inv : Session → Prop) (path : Path) (place : Place) : Prop where
  named : place ≠ []
  leads : ∀ session spot, inv session → session.files.resolve path = .ok spot → spot = place
  under : ∀ session files, inv session → SameOutside place session.files files →
    inv { session with files }

namespace Held

variable {path : Path} {place : Place}

theorem operation (held : Held inv path place) {operation : Files → Except Cause Files}
    (refused : ∀ cause, allowed (.cause cause))
    (each : ∀ files after, operation files = .ok after → ∃ spot, files.resolve path = .ok spot ∧
      (spot ≠ [] → SameOutside spot files after)) :
    Keeps inv allowed (change operation) :=
  keeps_change refused fun session files before done => by
    obtain ⟨spot, reached, same⟩ := each _ _ done
    obtain rfl := held.leads session spot before reached
    exact held.under session files before (same held.named)

theorem write (held : Held inv path place) (refused : ∀ cause, allowed (.cause cause))
    (content : Bytes) : Keeps inv allowed (change fun files => files.write path content) :=
  held.operation refused fun files after done => by
    obtain ⟨spot, _, reached, _, _⟩ := write_ok _ _ _ _ done
    exact ⟨spot, reached, fun _ => write_outside _ _ _ _ _ reached done⟩

theorem remove (held : Held inv path place) (refused : ∀ cause, allowed (.cause cause)) :
    Keeps inv allowed (change fun files => files.remove path) :=
  held.operation refused fun files after done => by
    obtain ⟨spot, _, _, reached, _, rfl⟩ := remove_ok _ _ _ done
    exact ⟨spot, reached, sameOutside_dropUnder files spot⟩

theorem makeDirectory (held : Held inv path place) (refused : ∀ cause, allowed (.cause cause)) :
    Keeps inv allowed (change fun files => files.makeDirectory path) :=
  held.operation refused fun files after done => by
    obtain ⟨spot, reached, _, _, rfl⟩ := makeDirectory_ok _ _ _ done
    exact ⟨spot, reached, sameOutside_put files spot _⟩

theorem removeTree (held : Held inv path place) (refused : ∀ cause, allowed (.cause cause)) :
    Keeps inv allowed (Action.removeTree path) :=
  held.operation refused fun files after done => by
    obtain ⟨spot, reached, _, rfl⟩ := removeTree_ok _ _ _ done
    exact ⟨spot, reached, sameOutside_dropUnder files spot⟩

theorem clearTree (held : Held inv path place) : Keeps inv allowed (Action.clearTree path) :=
  keeps_clearTree fun session before => by
    refine held.under session _ before ?_
    unfold Files.clearTree
    cases done : session.files.removeTree path with
    | error cause => exact SameOutside.refl _ _
    | ok after =>
        obtain ⟨spot, reached, _, rfl⟩ := removeTree_ok _ _ _ done
        obtain rfl := held.leads session spot before reached
        exact sameOutside_dropUnder session.files spot held.named

theorem rename (held : Held inv path place) {target : Path} {goal : Place}
    (aim : Held inv target goal) (apart : place ≠ goal)
    (refused : ∀ cause, allowed (.cause cause)) :
    Keeps inv allowed (change fun files => files.rename path target) :=
  keeps_change refused fun session files before done => by
    obtain ⟨first, second, fromFirst, toSecond⟩ := rename_places _ _ _ _ done
    obtain rfl := held.leads session first before fromFirst
    obtain rfl := aim.leads session second before toSecond
    obtain ⟨middle, emptied, filled⟩ := rename_steps _ _ _ _ _ _ fromFirst toSecond apart
      held.named aim.named done
    exact aim.under { session with files := middle } files
      (held.under session middle before emptied) filled

theorem tool (held : Held inv path place) {action : Action Unit} (only : WritesOnly action path)
    (aside : ∀ session, inv { session with files := (action.perform session).2.files } →
      inv (action.perform session).2)
    (fine : ∀ session fault, (action.perform session).1 = .error fault → allowed fault) :
    Keeps inv allowed action := by
  refine ⟨fun session before => aside session (held.under session _ before ?_),
    fun session _ fault ended => fine session fault ended⟩
  apply only session
  intro spot reached
  rw [held.leads session spot before reached]

end Held

/-- Whoever is quiet, and whatever is written down, leaves all properties of files alone. -/
theorem tolerant_files (holds : Files → Prop) (quiet : Quiet setting.progress) :
    Tolerant setting (fun session => holds session.files) (fun _ => True) where
  cause _ := trivial
  io _ := trivial
  missing _ _ := trivial
  logged _ _ := keeps_record_files _
  told message :=
    ⟨fun session before => (quiet message session).symm ▸ before, fun _ _ _ _ => trivial⟩

section

variable {holds : Files → Prop} {scratch : Path}

/-- What outlasts each single change an attempt may make outlasts the attempt. -/
theorem attempt_keeps_each (archive : Path) (image : Apk.Image)
    (plain : PlainName (imageName image)) (quiet : Quiet setting.progress)
    (filled : ∀ content, Keeps (fun session => holds session.files) (fun _ => True)
      (change fun files => files.write (scratch / imageName image) content))
    (planted : Keeps (fun session => holds session.files) (fun _ => True)
      (change fun files => files.makeDirectory (scratch / "smali")))
    (drawn : Keeps (fun session => holds session.files) (fun _ => True)
      (setting.toolbox.disassemble (scratch / imageName image) (scratch / "smali")))
    (rewritten : ∀ files made : Files, files.makeDirectory (scratch / "smali") = .ok made →
      Keeps (fun session => holds session.files) (fun _ => True)
        (Smali.replace setting.disk (scratch / "smali" / Smali.classFile setting.patch.targetClass)
          setting.patch.signature setting.patch.replacement Smali.endMarker))
    (built : Keeps (fun session => holds session.files) (fun _ => True)
      (setting.toolbox.assemble (scratch / "smali") (scratch / ("modified_" ++ imageName image))))
    (moved : Keeps (fun session => holds session.files) (fun _ => True)
      (promote (scratch / ("modified_" ++ imageName image)) (scratch / imageName image)))
    (cleared : Keeps (fun session => holds session.files) (fun _ => True)
      (Action.clearTree (scratch / "smali"))) :
    Keeps (fun session => holds session.files) (fun _ => True)
      (attempt setting archive image scratch) := by
  have tolerant : Tolerant setting (fun session => holds session.files) (fun _ => True) :=
    tolerant_files holds quiet
  have again := child_name scratch _ plain
  -- What a tool is refused for is no matter.
  have any : ∀ {action : Action Unit} {own : Fault → Prop},
      Keeps (fun session => holds session.files) (fun _ => True) action →
        Keeps (fun session => holds session.files) (fun fault => own fault ∨ True) action :=
    fun keeps => ⟨keeps.session, fun _ _ _ _ => Or.inr trivial⟩
  unfold attempt
  simp only [again]
  refine keeps_bind (extract_keeps tolerant _ _ _ _ filled) fun _ =>
    keeps_bind (tolerant.logged ..) fun _ =>
      keeps_bind_once (keeps_rewording planted fun _ => trivial) fun _ session middle making => ?_
  obtain ⟨made, done, _⟩ := (change_eq_ok ..).mp ((rewording_eq_ok ..).mp making)
  refine keeps_bind (disassembled_keeps tolerant image _ _
    (fun _ => keeps_record_files _) (any drawn)) fun drawn => ?_
  cases drawn with
  | some outcome => exact keeps_pure _
  | none =>
      refine keeps_bind (patched_keeps tolerant image _ (rewritten _ made done)) fun replaced => ?_
      cases replaced with
      | some outcome => exact keeps_pure _
      | none =>
          refine keeps_bind (reassembled_keeps tolerant image _ _
            (keeps_record_files _) (any built)) fun made => ?_
          cases made with
          | some outcome => exact keeps_pure _
          | none =>
              exact keeps_bind (promoted_keeps tolerant image _ _ _ moved cleared)
                fun _ => keeps_pure _

theorem attempt_keeps {scratchPlace : Place}
    (archive : Path) (image : Apk.Image) (plain : PlainName (imageName image))
    (held : ∀ name ∈ attemptNames image,
      Held (fun session => holds session.files) (scratch / name) (scratchPlace ++ [name]))
    (quiet : Quiet setting.progress) (confined : Confined setting.toolbox)
    (rewritten : ∀ files made : Files, files.makeDirectory (scratch / "smali") = .ok made →
      Keeps (fun session => holds session.files) (fun _ => True)
        (Smali.replace setting.disk (scratch / "smali" / Smali.classFile setting.patch.targetClass)
          setting.patch.signature setting.patch.replacement Smali.endMarker)) :
    Keeps (fun session => holds session.files) (fun _ => True)
      (attempt setting archive image scratch) := by
  have extracted := held (imageName image) (by simp [attemptNames])
  have tree := held "smali" (by simp [attemptNames])
  have rebuilt := held ("modified_" ++ imageName image) (by simp [attemptNames])
  have moving := promote_keeps (tolerant_files holds quiet)
    (scratch / ("modified_" ++ imageName image))
    (scratch / imageName image) (extracted.remove fun _ => trivial)
    (rebuilt.rename extracted (by simp) fun _ => trivial)
    (extracted.write fun _ => trivial) (rebuilt.remove fun _ => trivial)
  exact attempt_keeps_each archive image plain quiet (extracted.write fun _ => trivial)
    (tree.makeDirectory fun _ => trivial)
    (tree.tool (confined.disassemble _ _) (fun _ kept => kept) fun _ _ _ => trivial) rewritten
    (rebuilt.tool (confined.assemble _ _) (fun _ kept => kept) fun _ _ _ => trivial) moving
    tree.clearTree

end

def swept (scratch : Path) (session : Session) : Session :=
  { session with files := session.files.clearTree scratch }

theorem swept_files (scratch : Path) (session : Session) :
    (swept scratch session).files = session.files.clearTree scratch := rfl

/-- What becomes of an attempt's answer. Only the directory of a patched image stays; the user is
told of a failure, and that may break. -/
inductive Closed (progress : String → Action Unit) (scratch : Path) :
    Except Fault Attempt → Session → Except Fault Attempt → Session → Prop
  | broken (fault : Fault) (tried : Session) :
      Closed progress scratch (.error fault) tried (.error fault) (swept scratch tried)
  | patched (result : Attempt) (tried : Session) (won : result.isPatched = true) :
      Closed progress scratch (.ok result) tried (.ok result) tried
  | failed (result : Attempt) (message : String) (tried after : Session)
      (lost : result.isPatched = false)
      (told : (progress message).perform (swept scratch tried) = (.ok (), after)) :
      Closed progress scratch (.ok result) tried (.ok result) after
  | untold (result : Attempt) (message : String) (fault : Fault) (tried after : Session)
      (lost : result.isPatched = false)
      (told : (progress message).perform (swept scratch tried) = (.error fault, after)) :
      Closed progress scratch (.ok result) tried (.error fault) after

/-- How an image is tried: its directory is made, the user is told, the attempt is made and closed;
whatever breaks before the attempt breaks the whole. -/
inductive Tried (setting : Setting) (archive workRoot : Path) (image : Apk.Image)
    (session : Session) : Except Fault Attempt → Session → Prop
  | unmade (fault : Fault) (after : Session)
      (making : (freshScratch (scratchOf workRoot image)).perform session = (.error fault, after)) :
      Tried setting archive workRoot image session (.error fault) after
  | untold (message : String) (fault : Fault) (made after : Session)
      (making : (freshScratch (scratchOf workRoot image)).perform session = (.ok (), made))
      (telling : (setting.progress message).perform made = (.error fault, after)) :
      Tried setting archive workRoot image session (.error fault) after
  | tried (message : String) (answer result : Except Fault Attempt)
      (made told tried after : Session)
      (making : (freshScratch (scratchOf workRoot image)).perform session = (.ok (), made))
      (telling : (setting.progress message).perform made = (.ok (), told))
      (trying : (attempt setting archive image (scratchOf workRoot image)).perform told =
        (answer, tried))
      (closing : Closed setting.progress (scratchOf workRoot image) answer tried result after) :
      Tried setting archive workRoot image session result after

theorem tryImage_tried (setting : Setting) (archive workRoot : Path) (image : Apk.Image)
    (session after : Session) (result : Except Fault Attempt)
    (done : (tryImage setting archive workRoot image).perform session = (result, after)) :
    Tried setting archive workRoot image session result after := by
  rw [tryImage, perform_bind] at done
  rcases making : (freshScratch (scratchOf workRoot image)).perform session with ⟨fault | _, made⟩
  · rw [making] at done
    cases done
    exact .unmade _ _ making
  rw [making] at done
  simp only [perform_bind] at done
  generalize (s!"Attempting to find method in: {image.entry}") = message at done
  rcases telling : (setting.progress message).perform made with ⟨fault | _, told⟩
  · rw [telling] at done
    cases done
    exact .untold _ _ _ _ making telling
  rw [telling] at done
  rcases trying : (attempt setting archive image (scratchOf workRoot image)).perform told with
    ⟨fault | answer, tried⟩
  · simp only [perform_tryCatch, trying, perform_bind, perform_clearTree] at done
    cases done
    exact .tried _ _ _ _ _ _ _ making telling trying (.broken fault tried)
  · simp only [perform_tryCatch, trying] at done
    refine .tried _ _ _ _ _ _ _ making telling trying ?_
    cases outcome : answer.outcome with
    | promoted path =>
        simp only [Attempt.reason?, outcome, perform_pure] at done
        cases done
        exact .patched answer _ (by rw [Attempt.isPatched, outcome])
    | failed reason detail =>
        have lost : answer.isPatched = false := by rw [Attempt.isPatched, outcome]
        simp only [Attempt.reason?, outcome, perform_bind, perform_clearTree] at done
        generalize (toString reason.name ++ toString " in " ++ toString image.entry ++
          toString "; trying next image") = closing at done
        rcases ending : (setting.progress closing).perform
          (swept (scratchOf workRoot image) tried) with ⟨fault | _, shown⟩
        · simp only [swept] at ending
          rw [ending] at done
          cases done
          exact .untold _ _ _ _ _ lost ending
        · simp only [swept] at ending
          rw [ending] at done
          cases done
          exact .failed _ _ _ _ lost ending

theorem tryImage_keeps (outer inner : Files → Prop) (archive workRoot : Path) (image : Apk.Image)
    (quiet : Quiet setting.progress)
    (fresh : ∀ session after result, outer session.files →
      (freshScratch (scratchOf workRoot image)).perform session = (result, after) →
        outer after.files ∧ (result = .ok () → inner after.files))
    (within : ∀ files, inner files → outer files)
    (cleared : Keeps (fun session => outer session.files) (fun _ => True)
      (Action.clearTree (scratchOf workRoot image)))
    (tried : Keeps (fun session => inner session.files) (fun _ => True)
      (attempt setting archive image (scratchOf workRoot image)))
    (session after : Session) (result : Except Fault Attempt) (before : outer session.files)
    (done : (tryImage setting archive workRoot image).perform session = (result, after)) :
    outer after.files := by
  have told : ∀ holds : Files → Prop, ∀ message session after result, holds session.files →
      (setting.progress message).perform session = (result, after) → holds after.files := by
    intro holds message session after result before done
    exact ((tolerant_files holds quiet).told message).after _ _ _ before done
  cases tryImage_tried _ _ _ _ _ _ _ done with
  | unmade fault after making => exact (fresh _ _ _ before making).1
  | untold message fault made after making telling =>
      exact told outer _ _ _ _ (fresh _ _ _ before making).1 telling
  | tried message answer result made shown ended after making telling trying closing =>
      have there := told inner _ _ _ _ ((fresh _ _ _ before making).2 rfl) telling
      have held := within _ (tried.after _ _ _ there trying)
      have clean : outer (swept (scratchOf workRoot image) ended).files :=
        cleared.session ended held
      cases closing with
      | broken fault => exact clean
      | patched result won => exact held
      | failed result message tried after lost closing =>
          exact told outer _ _ _ _ clean closing
      | untold result message fault tried after lost closing =>
          exact told outer _ _ _ _ clean closing

theorem search_keeps {holds : Files → Prop} (archive workRoot : Path) (images : List Apk.Image)
    (session : Session) (before : holds session.files)
    (each : ∀ image ∈ images, ∀ session after result, holds session.files →
      (tryImage setting archive workRoot image).perform session = (result, after) →
        holds after.files) :
    holds (row setting archive workRoot session images).search.session.files := by
  induction images generalizing session with
  | nil => exact before
  | cons image rest ih =>
      have here := each image List.mem_cons_self
      rcases tried : (tryImage setting archive workRoot image).perform session with
        ⟨fault | result, after⟩
      · simp only [row_cons, tried, Row.search]
        exact here _ _ _ before tried
      · simp only [row_cons, tried, Row.search]
        split
        · exact here _ _ _ before tried
        · exact ih after (here _ _ _ before tried) fun other member =>
            each other (List.mem_cons_of_mem _ member)

end DexGraft.Search
