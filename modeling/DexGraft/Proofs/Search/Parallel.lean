import DexGraft.Proofs.Search.Abreast

/-!
Whole attempts abreast: the class is rewritten in both trees or in neither, what the
assembler wrote is promoted in both directories, and both attempts end the same.
-/
namespace DexGraft.Search

open Files DexGraft.Action

section

variable {setting : Setting} {prior prior' : Files} {scratch scratch' : Path} {left right : Place}
  {image : Apk.Image} {files files' after after' : Files}

/-- The class's file as names beyond the attempt's directory, and where they lead in it. -/
structure ClassAt (target : String) (front up : List String) (file : String) : Prop where
  path : ∀ scratch : Path, scratch / "smali" / Smali.classFile target = beyond scratch (front ++ [file])
  down : file ≠ ".."
  above : follow [] front = some up
  inTree : ["smali"] <+: up

theorem LeadsInto.classAt {target : String} (into : LeadsInto target) :
    ∃ front up file, ClassAt target front up file := by
  obtain ⟨parts, name, more, relative, within⟩ := into
  have path : ∀ scratch : Path,
      scratch / "smali" / Smali.classFile target = beyond scratch ("smali" :: parts) := by
    intro scratch
    rw [beyond_child _ _ smali_plain]
    change (beyond scratch ["smali"]).join (Path.ofText (Smali.classFile target)) = _
    rw [relative]
    simp [Path.join, Path.isAbsolute, beyond]
  obtain ⟨above, last, ending⟩ := Smali.classFile_name (Path.root / "smali") target
  rw [path Path.root, show (beyond Path.root ("smali" :: parts)).parts = "smali" :: parts from rfl]
    at ending
  have down := Smali.extended_down last
  have inside : follow [] (above ++ [String.ofList (last ++ Smali.fileExtension)]) =
      some ("smali" :: name :: more) := by
    rw [← ending, follow, if_neg (by decide)]
    exact within
  rw [follow_append, Option.bind_eq_some_iff] at inside
  obtain ⟨up, upward, onward⟩ := inside
  rw [follow_down _ _ down] at onward
  refine ⟨above, up, _, ⟨fun scratch => by rw [path, ending], down, upward, ?_⟩⟩
  cases up with
  | nil => simp at onward
  | cons first rest =>
      simp only [List.cons_append, Option.some.injEq, List.cons.injEq] at onward
      rw [onward.1]
      exact List.cons_prefix_cons.mpr ⟨rfl, List.nil_prefix⟩

theorem temporary_beyond (scratch : Path) (front : List String) (file : String) :
    Smali.temporaryOf? (beyond scratch (front ++ [file])) =
      some (beyond scratch (front ++ [s!".{file}.tmp"])) := by
  have named : (beyond scratch (front ++ [file])).name = file := by
    rw [Path.name, beyond, ← List.append_assoc, List.getLastD_concat]
  rw [Smali.temporaryOf?, named, Path.withName?, beyond, ← List.append_assoc,
    if_neg (by simp), List.dropLast_concat]
  simp [beyond]

theorem sameUnder_swapped {goal beside : List String} {content : Bytes}
    (same : SameUnder left right files files')
    (onLeft : Smali.Swapped files after (left ++ goal) (left ++ beside) content)
    (onRight : Smali.Swapped files' after' (right ++ goal) (right ++ beside) content) :
    SameUnder left right after after' := by
  intro names
  by_cases filled : names = goal
  · rw [filled, (seen_file ..).mpr onLeft.filled, (seen_file ..).mpr onRight.filled]
  · by_cases under : beside <+: names
    · have free := onLeft.gone _ ((List.prefix_append_right_inj left).mpr under)
      have free' := onRight.gone _ ((List.prefix_append_right_inj right).mpr under)
      rw [(seen_free ..).mpr free, (seen_free ..).mpr free']
    · have apart : ∀ place : Place, place ++ names ≠ place ++ goal := fun place => by simp [filled]
      have outside : ∀ place : Place, ¬place ++ beside <+: place ++ names := fun place covers =>
        under ((List.prefix_append_right_inj place).mp covers)
      rw [seen, seen, onLeft.rest _ (apart left) (outside left),
        onRight.rest _ (apart right) (outside right)]
      exact same names

variable {target : String} {front up : List String} {file : String}

theorem ClassAt.leads (at_ : ClassAt target front up file) (name : String) (down : name ≠ "..") :
    follow [] (front ++ [name]) = some (up ++ [name]) := by
  rw [follow_append, at_.above]
  exact follow_down up name down

theorem ClassAt.spot (at_ : ClassAt target front up file) (filled : scratch.parts ≠ [])
    (leads : files.resolve scratch = .ok left) {content : Bytes}
    (read : files.read (beyond scratch (front ++ [file])) = .ok content) :
    files.resolve (beyond scratch (front ++ [file])) = .ok (left ++ (up ++ [file])) ∧
      ∃ mode, files.node? (left ++ (up ++ [file])) = some (.file content mode) := by
  obtain ⟨spot, mode, reached, node⟩ := (read_eq_ok ..).mp read
  obtain rfl := leads_within _ (at_.leads file at_.down) filled leads spot reached
  exact ⟨reached, mode, node⟩

theorem ClassAt.beside (at_ : ClassAt target front up file) (filled : scratch.parts ≠ [])
    (leads : files.resolve scratch = .ok left)
    (room : Smali.HasRoom files (beyond scratch (front ++ [file]))) :
    files.node? (left ++ (up ++ [s!".{file}.tmp"])) ≠ some .directory := by
  obtain ⟨temporary, beside, made, found, open_⟩ := room
  rw [temporary_beyond] at made
  cases made
  obtain rfl := leads_within _ (at_.leads _ (Smali.temporary_name file).1) filled leads beside found
  exact open_

theorem ClassAt.swapped (at_ : ClassAt target front up file) (filled : scratch.parts ≠ [])
    (leads : files.resolve scratch = .ok left) {old content : Bytes}
    (read : files.read (beyond scratch (front ++ [file])) = .ok old)
    (stored : Smali.Stored files after (beyond scratch (front ++ [file])) content) :
    Smali.Swapped files after (left ++ (up ++ [file])) (left ++ (up ++ [s!".{file}.tmp"]))
      content := by
  obtain ⟨temporary, beside, made, found, swapped⟩ :=
    stored.swapped _ (at_.spot filled leads read).1
  rw [temporary_beyond] at made
  cases made
  obtain rfl := leads_within _ (at_.leads _ (Smali.temporary_name file).1) filled leads beside found
  exact swapped

theorem ClassAt.outside (at_ : ClassAt target front up file) {content : Bytes}
    (swapped : Smali.Swapped files after (left ++ (up ++ [file]))
      (left ++ (up ++ [s!".{file}.tmp"])) content) :
    SameOutside (left ++ ["smali"]) files after := by
  have within : ∀ name, left ++ ["smali"] <+: left ++ (up ++ [name]) := fun name =>
    (List.prefix_append_right_inj left).mpr (at_.inTree.trans (List.prefix_append _ _))
  refine ⟨swapped.here, fun other outside => swapped.rest other ?_ ?_⟩
  · rintro rfl
    exact outside (within file)
  · exact fun under => outside ((within _).trans under)

/-- There is room for the new text of the class in both trees, or in neither. -/
theorem Level.room (level : Level prior prior' left right image files files')
    (pair : Pair prior prior' scratch scratch' left right) (at_ : ClassAt target front up file) :
    Smali.HasRoom files (beyond scratch (front ++ [file])) ↔
      Smali.HasRoom files' (beyond scratch' (front ++ [file])) := by
  have mirrored := level.mirrored pair _ _ (at_.leads _ (Smali.temporary_name file).1)
  have here := level.same (up ++ [s!".{file}.tmp"])
  unfold Smali.HasRoom
  simp only [temporary_beyond, Option.some.injEq, exists_and_left, exists_eq_left']
  generalize files.resolve (beyond scratch (front ++ [s!".{file}.tmp"])) = reached at mirrored
  generalize files'.resolve (beyond scratch' (front ++ [s!".{file}.tmp"])) = reached' at mirrored
  cases mirrored with
  | leads =>
      simp only [Except.ok.injEq, exists_eq_left', ne_eq, ← seen_directory, here]
  | unsayable => simp
  | barred => simp

theorem replace_unread (path : Path) (signature replacement marker : String) (session : Session)
    (cause : Cause) (unread : session.files.read path = .error cause) :
    (Smali.replace Smali.Disk.plain path signature replacement marker).perform session =
      (.error (.cause cause), session) := by
  have there : (Smali.Disk.plain.read path).perform session = (.error (.cause cause), session) := by
    change (ask fun files => files.read path).perform session = _
    rw [perform_ask, unread]
    rfl
  rw [Smali.replace, perform_bind, there]

theorem replace_garbled (path : Path) (signature replacement marker : String) (session : Session)
    (content : Bytes) (read : session.files.read path = .ok content)
    (garbled : content.toText? = none) :
    (Smali.replace Smali.Disk.plain path signature replacement marker).perform session =
      (.error (.cause .notUtf8), session) := by
  have there : (Smali.Disk.plain.read path).perform session = (.ok content, session) := by
    change (ask fun files => files.read path).perform session = _
    rw [perform_ask, read]
    rfl
  rw [Smali.replace, perform_bind_ok _ _ _ _ _ there, garbled]
  rfl

theorem Abreast.stored (abreast : Abreast prior prior' left right image files files')
    (pair : Pair prior prior' scratch scratch' left right) (at_ : ClassAt target front up file)
    (content : Bytes) {old old' : Bytes}
    (read : files.read (beyond scratch (front ++ [file])) = .ok old)
    (read' : files'.read (beyond scratch' (front ++ [file])) = .ok old')
    (room : Smali.HasRoom files (beyond scratch (front ++ [file])))
    (room' : Smali.HasRoom files' (beyond scratch' (front ++ [file])))
    (stored : Smali.Stored files after (beyond scratch (front ++ [file])) content)
    (stored' : Smali.Stored files' after' (beyond scratch' (front ++ [file])) content) :
    Abreast prior prior' left right image after after' := by
  have leads := abreast.first.tidy.leads pair.first
  have leads' := abreast.second.tidy.leads pair.second
  have swapped := at_.swapped pair.first.filled leads read stored
  have swapped' := at_.swapped pair.second.filled leads' read' stored'
  obtain ⟨_, _, node⟩ := at_.spot pair.first.filled leads read
  obtain ⟨_, _, node'⟩ := at_.spot pair.second.filled leads' read'
  exact ⟨abreast.first.swapped pair.first node (at_.beside pair.first.filled leads room) swapped,
    abreast.second.swapped pair.second node' (at_.beside pair.second.filled leads' room') swapped',
    sameUnder_swapped abreast.same swapped swapped'⟩

theorem replace_twins (pair : Pair prior prior' scratch scratch' left right)
    (at_ : ClassAt target front up file) (signature replacement marker : String) :
    Twins (Both (Abreast prior prior' left right image))
      (Smali.replace Smali.Disk.plain (beyond scratch (front ++ [file])) signature replacement marker)
      (Smali.replace Smali.Disk.plain (beyond scratch' (front ++ [file])) signature replacement
        marker)
      (Same (Abreast prior prior' left right image)) := by
  intro session session' abreast
  have mirrored := abreast.level.mirrored pair _ _ (at_.leads file at_.down)
  rcases mirrored.read abreast.same with ⟨content, read, read'⟩ | ⟨cause, cause', unread, unread'⟩
  · cases decoded : content.toText? with
    | none =>
        rw [replace_garbled _ _ _ _ _ _ read decoded, replace_garbled _ _ _ _ _ _ read' decoded]
        exact .broken _ _ _ _
    | some text =>
        obtain rfl := Bytes.eq_ofText_of_toText content text decoded
        by_cases present :
            Smali.HasBlock (Smali.Broken.ofText text.toList).lines signature.toList marker.toList
        · by_cases room : Smali.HasRoom session.files (beyond scratch (front ++ [file]))
          · have room' := (abreast.level.room pair at_).mp room
            obtain ⟨patched, written, found, ran, stored⟩ :=
              Smali.replace_done _ text signature replacement marker session read present room
            obtain ⟨patched', written', found', ran', stored'⟩ :=
              Smali.replace_done _ text signature replacement marker session' read' present room'
            rw [found] at found'
            cases found'
            rw [ran, ran']
            exact .ended ⟨rfl, abreast.stored pair at_ _ read read' room room' stored stored'⟩
          · obtain ⟨fault, ran⟩ :=
              Smali.replace_refused _ text signature replacement marker session read present room
            obtain ⟨fault', ran'⟩ := Smali.replace_refused _ text signature replacement marker session'
              read' present fun room' => room ((abreast.level.room pair at_).mpr room')
            rw [ran, ran']
            exact .broken _ _ _ _
        · obtain ⟨journal, ran⟩ :=
            Smali.replace_missing _ text signature replacement marker session read present
          obtain ⟨journal', ran'⟩ :=
            Smali.replace_missing _ text signature replacement marker session' read' present
          rw [ran, ran']
          exact .ended ⟨rfl, abreast⟩
  · rw [replace_unread _ _ _ _ _ _ unread, replace_unread _ _ _ _ _ _ unread']
    exact .broken _ _ _ _

end

section

variable {setting : Setting} {prior prior' : Files} {scratch scratch' : Path} {left right : Place}
  {image : Apk.Image}

theorem located (files : Files) (tree : Path) (target : String) (there : Bool) (session : Session)
    (same : session.files = files)
    (asked : files.isFile (tree / Smali.classFile target) = .ok there) :
    (ask fun files => Smali.locate files tree target).perform session =
      (.ok (if there then some (tree / Smali.classFile target) else none), session) := by
  rw [perform_ask, same, Smali.locate, asked]
  rfl

theorem patched_twins (pair : Pair prior prior' scratch scratch' left right)
    (comparable : Comparable setting) :
    Twins (Both (Abreast prior prior' left right image))
      (patched setting image (scratch / "smali")) (patched setting image (scratch' / "smali"))
      (Same (Abreast prior prior' left right image)) := by
  obtain ⟨front, up, file, at_⟩ := comparable.target.classAt
  intro session session' abreast
  have mirrored := abreast.level.mirrored pair _ _ (at_.leads file at_.down)
  rw [← at_.path, ← at_.path] at mirrored
  rcases mirrored.isFile abreast.same with ⟨there, asked, asked'⟩ | ⟨cause, cause', failed, failed'⟩
  · have found := located _ _ _ _ session rfl asked
    have found' := located _ _ _ _ session' rfl asked'
    rw [patched, patched, perform_bind_ok _ _ _ _ _ found, perform_bind_ok _ _ _ _ _ found']
    have told : ∀ message message', Twins (Both (Abreast prior prior' left right image))
        (setting.progress message) (setting.progress message')
        (Same (Abreast prior prior' left right image)) := twins_told comparable.polite
    cases there with
    | false =>
        refine twins_next (twins_record _ _) (fun _ => twins_next (told _ _) fun _ => twins_pure ?_)
          session session' abreast
        exact fun _ _ before => ⟨rfl, before⟩
    | true =>
        have rewriting : Twins (Both (Abreast prior prior' left right image)) _ _ _ :=
          replace_twins pair at_ setting.patch.signature setting.patch.replacement Smali.endMarker
        rw [← at_.path, ← at_.path, ← comparable.disk] at rewriting
        refine twins_next (told _ _) (fun _ =>
          twins_next (twins_rewording _ _ _ _ rewriting) fun replaced => ?_) session session' abreast
        cases replaced <;> exact twins_next (told _ _) fun _ => twins_pure fun _ _ before =>
          ⟨rfl, before⟩
  · rw [patched, patched, perform_bind, perform_ask, perform_bind, perform_ask, Smali.locate,
      Smali.locate, failed, failed']
    exact .broken _ _ _ _

end

section

variable {setting : Setting} {prior : Files} {scratch : Path} {place : Place} {image : Apk.Image}
  {files : Files}

theorem moveFile_done (source target : Path) (session : Session) (moved : Files)
    (renamed : session.files.rename source target = .ok moved) :
    (moveFile source target).perform session = (.ok (), { session with files := moved }) := by
  rw [moveFile, perform_tryCatch, perform_change, renamed]

theorem Staged.promote_done {session : Session} (staged : Staged prior place image session.files)
    (new : NewPlace prior scratch place) (named : PlainName (imageName image)) (node : Node)
    (found : session.files.find (scratch / ("modified_" ++ imageName image)) = .ok node) :
    ∃ moved, (promote (scratch / ("modified_" ++ imageName image))
      (scratch / imageName image)).perform session = (.ok (), moved) := by
  obtain ⟨origin, fromOrigin, stood⟩ := (find_eq_ok ..).mp found
  obtain rfl := staged.tidy.child new (modified_plain named) fromOrigin
  have leads := resolve_shorter _ _ _ _ _ _ named (modified_plain named) new.filled
    (staged.tidy.leads new) staged.tidy.there fromOrigin
  have goal : place ++ [imageName image] ≠ [] := by simp
  -- The image is removed if it is there; then nothing is in the way.
  have cleared : ∃ cleared : Files, Staged prior place image cleared ∧
      SameOutside (place ++ [imageName image]) session.files cleared ∧
      cleared.node? (place ++ [imageName image]) = none ∧
      (promote (scratch / ("modified_" ++ imageName image))
        (scratch / imageName image)).perform session =
        (moveFile (scratch / ("modified_" ++ imageName image))
          (scratch / imageName image)).perform { session with files := cleared } := by
    cases there : session.files.node? (place ++ [imageName image]) with
    | none =>
        refine ⟨session.files, staged, SameOutside.refl _ _, there, ?_⟩
        rw [promote, perform_bind, perform_ask, find_of_resolve _ _ _ leads, there]
        rfl
    | some found =>
        cases found with
        | directory => exact absurd there staged.leaf
        | file old kept =>
            refine ⟨_, staged.emptied new, sameOutside_dropUnder _ _ goal, ?_, ?_⟩
            · rw [node_dropUnder _ _ _ goal, if_pos (List.prefix_refl _)]
            · have removed : session.files.remove (scratch / imageName image) =
                  .ok (session.files.dropUnder (place ++ [imageName image])) := by
                simp only [Files.remove, leads, there, bind, Except.bind]
              rw [promote, perform_bind, perform_ask, find_of_resolve _ _ _ leads, there]
              simp only [Except.mapError, perform_bind, perform_change, removed]
  obtain ⟨cleared, ready, same, free, steps⟩ := cleared
  have tidy := ready.tidy
  have source := resolve_child_again session.files cleared scratch _ place _ (modified_plain named)
    fromOrigin (tidy.leads new) tidy.there
  have target := resolve_child_again session.files cleared scratch _ place _ named leads
    (tidy.leads new) tidy.there
  rw [← same.rest _ (beside_names (modified_apart _).symm [])] at stood
  obtain ⟨moved, renamed⟩ := rename_free _ _ _ _ source target (by simp [stood]) free
    (beside_names (modified_apart _) [])
  exact ⟨_, steps.trans (moveFile_done _ _ { session with files := cleared } moved renamed)⟩

theorem Staged.promoted_done {session : Session} (staged : Staged prior place image session.files)
    (new : NewPlace prior scratch place) (named : PlainName (imageName image))
    (polite : Polite setting.progress) (node : Node)
    (found : session.files.find (scratch / ("modified_" ++ imageName image)) = .ok node) :
    ∃ after, (promoted setting image (scratch / "smali")
        (scratch / ("modified_" ++ imageName image)) (scratch / imageName image)).perform session =
          (.ok (.promoted (scratch / imageName image)), after) ∧
      Installed scratch (imageName image) place session.files after.files := by
  obtain ⟨moved, moving⟩ := staged.promote_done new named node found
  obtain ⟨cleared, ready, same, renamed⟩ := promote_moves new named session moved staged moving
  have installed := (moved_over new named ready renamed).installed new named ready staged.tidy same
    renamed
  obtain ⟨size, measured⟩ : ∃ size,
      (moved.files.clearTree (scratch / "smali")).size (scratch / imageName image) = .ok size := by
    have stands : ∃ node, (moved.files.clearTree (scratch / "smali")).find
        (scratch / imageName image) = .ok node := by
      cases installed.moved with
      | file content mode _ stands _ => exact ⟨_, (find_eq_ok ..).mpr ⟨_, installed.stands, stands⟩⟩
      | directory stood stands =>
          exact ⟨.directory,
            (find_eq_ok ..).mpr ⟨_, installed.stands, by simpa [stood] using stands []⟩⟩
    obtain ⟨node, stands⟩ := stands
    cases node <;> exact ⟨_, by simp only [Files.size, stands, bind, Except.bind]; rfl⟩
  obtain ⟨told, ran, files, _⟩ := polite.ran s!"{image.entry} successfully modified"
    { moved with
      files := moved.files.clearTree (scratch / "smali")
      journal := moved.journal ++ [.logged .success
        s!"  ✓ {image.entry} patched ({Apk.kilobytes size})"] }
  refine ⟨told, ?_, by rw [files]; exact installed⟩
  have sized : (fileSize (scratch / imageName image)).perform
      { moved with files := moved.files.clearTree (scratch / "smali") } =
        (.ok size, { moved with files := moved.files.clearTree (scratch / "smali") }) :=
    (fileSize_eq_ok ..).mpr ⟨measured, rfl⟩
  simp only [promoted, perform_bind, perform_rewording, moving, perform_clearTree, sized,
    perform_log]
  rw [ran]
  rfl

theorem Installed.found {made after : Files} (installed : Installed scratch (imageName image) place
    made after) : ∃ node, made.find (scratch / ("modified_" ++ imageName image)) = .ok node := by
  cases installed.moved with
  | file content mode stood _ _ => exact ⟨_, (find_eq_ok ..).mpr ⟨_, installed.left, stood⟩⟩
  | directory stood _ => exact ⟨_, (find_eq_ok ..).mpr ⟨_, installed.left, stood⟩⟩

theorem Installed.read {made after : Files} (installed : Installed scratch (imageName image) place
    made after) (content : Bytes) : after.read (scratch / imageName image) = .ok content ↔
      made.read (scratch / ("modified_" ++ imageName image)) = .ok content := by
  rw [read_eq_ok, read_eq_ok]
  simp only [installed.stands, installed.left, Except.ok.injEq, exists_and_left, exists_eq_left']
  cases installed.moved with
  | file found mode stood stands _ => rw [stood, stands]
  | directory stood stands =>
      have moved := stands []
      rw [List.append_nil, List.append_nil] at moved
      rw [moved]

end

/-- Two attempts that found the same fault with the image, or promoted the same. -/
inductive SameEnd (image : Apk.Image) : Attempt → Attempt → Session → Session → Prop
  | failed (reason : Reason) (detail : String) (after after' : Session) :
      SameEnd image ⟨image, .failed reason detail⟩ ⟨image, .failed reason detail⟩ after after'
  | promoted (path path' : Path) (goal goal' : Place) (after after' : Session)
      (leads : after.files.resolve path = .ok goal) (leads' : after'.files.resolve path' = .ok goal')
      (same : SameUnder goal goal' after.files after'.files) :
      SameEnd image ⟨image, .promoted path⟩ ⟨image, .promoted path'⟩ after after'

section

variable {setting : Setting} {prior prior' : Files} {scratch scratch' : Path} {left right : Place}
  {image : Apk.Image} {archive archive' : Path}

theorem sameEnd_refused {outcome : Outcome} (refused : Refused outcome) (after after' : Session) :
    SameEnd image ⟨image, outcome⟩ ⟨image, outcome⟩ after after' := by
  obtain ⟨reason, detail, rfl⟩ := refused
  exact .failed reason detail after after'

theorem promoted_twins (pair : Pair prior prior' scratch scratch' left right)
    (plain : PlainName (imageName image)) (comparable : Comparable setting) :
    Twins (Both (Abreast prior prior' left right image))
      (promoted setting image (scratch / "smali") (scratch / ("modified_" ++ imageName image))
        (scratch / imageName image))
      (promoted setting image (scratch' / "smali") (scratch' / ("modified_" ++ imageName image))
        (scratch' / imageName image))
      (fun outcome outcome' => SameEnd image ⟨image, outcome⟩ ⟨image, outcome'⟩) := by
  intro session session' abreast
  have quiet := comparable.polite.quiet
  have rebuilt := abreast.level.likewise pair _ (modified_plain plain)
  rcases rebuilt.find with ⟨node, node', found, found'⟩ | ⟨cause, cause', lost, lost'⟩
  · obtain ⟨after, ran, installed⟩ :=
      abreast.first.promoted_done pair.first plain comparable.polite node found
    obtain ⟨after', ran', installed'⟩ :=
      abreast.second.promoted_done pair.second plain comparable.polite node' found'
    rw [ran, ran']
    exact .ended (.promoted _ _ _ _ after after' installed.stands installed'.stands
      (installed.moved.alike installed'.moved (abreast.same.deeper _)))
  · rcases ran : (promoted setting image (scratch / "smali")
      (scratch / ("modified_" ++ imageName image)) (scratch / imageName image)).perform session with
      ⟨fault | outcome, after⟩
    · rcases ran' : (promoted setting image (scratch' / "smali")
        (scratch' / ("modified_" ++ imageName image)) (scratch' / imageName image)).perform
          session' with ⟨fault' | outcome', after'⟩
      · exact .broken _ _ _ _
      · obtain ⟨_, found⟩ :=
          (abreast.second.installs pair.second plain quiet outcome' ran').2.found
        rw [lost'] at found
        cases found
    · obtain ⟨_, found⟩ := (abreast.first.installs pair.first plain quiet outcome ran).2.found
      rw [lost] at found
      cases found

theorem twins_judged {related : Files → Files → Prop} {first second : Action (Option Outcome)}
    {next next' : Option Outcome → Action Attempt}
    (front : Twins (Both related) first second (Same related))
    (refused : ∀ session outcome? after, first.perform session = (.ok outcome?, after) →
      ∀ outcome, outcome? = some outcome → Refused outcome)
    (ends : ∀ outcome, next (some outcome) = pure ⟨image, outcome⟩)
    (ends' : ∀ outcome, next' (some outcome) = pure ⟨image, outcome⟩)
    (back : Twins (Both related) (next none) (next' none) (SameEnd image)) :
    Twins (Both related) (first >>= next) (second >>= next') (SameEnd image) := by
  refine twins_bind (twins_known _ front refused) fun outcome? outcome?' session session' => ?_
  rintro ⟨⟨rfl, before⟩, known⟩
  cases outcome? with
  | some outcome =>
      rw [ends, ends']
      exact .ended (sameEnd_refused (known outcome rfl) session session')
  | none => exact back session session' before

theorem attempt_twins_named (pair : Pair prior prior' scratch scratch' left right)
    (plain : PlainName (imageName image)) (comparable : Comparable setting) :
    Twins (Both (Begun setting.reader prior prior' scratch scratch' archive archive' left right
        image))
      (attempt setting archive image scratch) (attempt setting archive' image scratch')
      (SameEnd image) := by
  have again := fun scratch : Path => child_name scratch _ plain
  have quiet := comparable.polite.quiet
  unfold attempt
  simp only [again]
  refine twins_bind (extract_twins pair plain) fun _ _ => ?_
  refine twins_next (twins_record _ _) fun _ => ?_
  refine twins_next (twins_rewording _ _ _ _ (tree_twins pair plain)) fun _ => ?_
  refine twins_judged (disassembled_twins pair plain comparable) (fun _ _ _ ran =>
    (disassembled_ok _ _ _ _ _ _ _ quiet ran).refused) (fun _ => rfl) (fun _ => rfl) ?_
  refine twins_judged (patched_twins pair comparable) (fun _ _ _ ran outcome same => ?_)
    (fun _ => rfl) (fun _ => rfl) ?_
  · subst same
    exact (patched_ok _ _ _ _ _ _ comparable.disk quiet ran).refused.1
  refine twins_judged (reassembled_twins pair plain comparable) (fun _ _ _ ran =>
    (reassembled_ok _ _ _ _ _ _ _ quiet ran).refused) (fun _ => rfl) (fun _ => rfl) ?_
  exact twins_bind (promoted_twins pair plain comparable) fun _ _ _ _ ends => .ended ends

/-- Attempts that begin with the same image in fresh directories end the same. -/
theorem attempt_twins (pair : Pair prior prior' scratch scratch' left right)
    (comparable : Comparable setting) :
    Twins (Both (Begun setting.reader prior prior' scratch scratch' archive archive' left right
        image))
      (attempt setting archive image scratch) (attempt setting archive' image scratch')
      (SameEnd image) := by
  -- Without a name of its own, the image cannot be extracted.
  have unnamed : imageName image = "" ∨ imageName image = ".." →
      Twins (Both (Begun setting.reader prior prior' scratch scratch' archive archive' left right
        image))
        (attempt setting archive image scratch) (attempt setting archive' image scratch')
        (SameEnd image) := by
    intro nameless session session' begun
    rcases ran : (attempt setting archive image scratch).perform session with ⟨result, after⟩
    rcases ran' : (attempt setting archive' image scratch').perform session' with
      ⟨result', after'⟩
    have tidy : Tidy prior left (attemptNames image) session.files :=
      begun.first ▸ tidy_made pair.first
    have tidy' : Tidy prior' right (attemptNames image) session'.files :=
      begun.second ▸ tidy_made pair.second
    obtain ⟨⟨_, rfl⟩, _⟩ :=
      attempt_named pair.first session after _ tidy comparable.polite.quiet nameless ran
    obtain ⟨⟨_, rfl⟩, _⟩ :=
      attempt_named pair.second session' after' _ tidy' comparable.polite.quiet nameless ran'
    exact .broken _ _ _ _
  rcases name_plain image.entry with empty | up | plain
  · exact unnamed (Or.inl empty)
  · exact unnamed (Or.inr up)
  · exact attempt_twins_named pair plain comparable

end

end DexGraft.Search
