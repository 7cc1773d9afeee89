import DexGraft.Proofs.Search.Parallel
import DexGraft.Proofs.Smali.Again

/-!
A second attempt on an image that an attempt has promoted. Where the disassembler gives
back what the assembler was given, the second attempt has the tree of the first before
it; it finds the method as it would write it, and the assembler is given the same tree
again.
-/
namespace DexGraft.Search

open Files DexGraft.Action

/-- What was assembled is disassembled to the tree that it was assembled from, in an empty
directory whose path is as long. -/
def Returning (toolbox : Toolbox) : Prop :=
  ∀ (given built session : Session) (tree rebuilt extracted tree' : Path) (place place' : Place)
    (content : Bytes),
    (toolbox.assemble tree rebuilt).perform given = (.ok (), built) →
    given.files.resolve tree = .ok place → given.files.node? place = some .directory →
    built.files.read rebuilt = .ok content → session.files.read extracted = .ok content →
    session.files.resolve tree' = .ok place' → session.files.node? place' = some .directory →
    (∀ name more, session.files.node? (place' ++ name :: more) = none) → Peers tree tree' →
    ∃ drawn, (toolbox.disassemble extracted tree').perform session = (.ok (), drawn) ∧
      SameUnder place place' given.files drawn.files

structure Laid (place : Place) (image : Apk.Image) (content : Bytes) (files : Files) : Prop where
  there : files.node? place = some .directory
  extracted : ∃ mode, files.node? (place ++ [imageName image]) = some (.file content mode)
  tree : files.node? (place ++ ["smali"]) = some .directory
  bare : ∀ name more, name :: more ≠ [imageName image] → name :: more ≠ ["smali"] →
    files.node? (place ++ name :: more) = none

section

variable {setting : Setting} {prior : Files} {scratch archive : Path} {place : Place}
  {image : Apk.Image} {content : Bytes} {reader : Zip.Reader}

theorem makeDirectory_free (files : Files) (path : Path) (spot : Place)
    (reached : files.resolve path = .ok spot) (free : files.node? spot = none)
    (filled : path.parts ≠ []) :
    files.makeDirectory path = .ok (files.put spot .directory) := by
  simp only [Files.makeDirectory, reached, bind, Except.bind, free, List.isEmpty_iff, filled,
    if_false]

theorem laid_out (new : NewPlace prior scratch place) (plain : PlainName (imageName image))
    (apart : imageName image ≠ "smali") (session : Session)
    (made : session.files = prior.put place .directory)
    (apart' : Clear session.files archive (scratch / imageName image))
    (found : contentFor reader session.files archive image.entry = some content)
    (spot beside : Place)
    (reached : session.files.resolve (scratch / imageName image) = .ok spot)
    (found' : session.files.resolve (scratch / "smali") = .ok beside) :
    ∃ taken treed,
      (Apk.extract archive image.entry (scratch / imageName image) reader).perform session =
        (.ok content.length, { session with files := taken }) ∧
      taken.makeDirectory (scratch / "smali") = .ok treed ∧ Laid place image content treed ∧
      Staged prior place image treed := by
  have start : Tidy prior place (attemptNames image) session.files := made ▸ tidy_made new
  obtain rfl := start.child new plain reached
  obtain rfl := start.child new smali_plain found'
  have free : ∀ name more, session.files.node? (place ++ name :: more) = none := by
    intro name more
    rw [made, node_put _ _ _ _ new.named, if_neg (by simp)]
    exact new.sound.nothing_under place new.free _
  have named : place ++ [imageName image] ≠ [] := by simp
  rcases ran : (Apk.extract archive image.entry (scratch / imageName image) reader).perform
    session with ⟨answer, taken⟩
  have ends := extract_found reader archive (scratch / imageName image) image.entry session content
    apart' found
  rw [ran] at ends
  cases ends with
  | refused cause fault refused =>
      obtain ⟨_, written⟩ := write_of_place session.files _ [] _ reached (by rw [free]; simp)
      rw [refused] at written
      cases written
  | done emptied filled opening filling =>
      obtain ⟨spot, mode, reached', _, rfl⟩ := write_ok _ _ _ _ opening
      cases reached.symm.trans reached'
      obtain ⟨spot, mode', again, _, rfl⟩ := write_ok _ _ _ _ filling
      cases (resolve_put _ _ _ _ (.file [] mode) (by rw [free]; simp) reached).symm.trans again
      have nodes : ∀ other, ((session.files.put (place ++ [imageName image]) (.file [] mode)).put
          (place ++ [imageName image]) (.file content mode')).node? other =
          if other = place ++ [imageName image] then some (.file content mode')
          else session.files.node? other := by
        intro other
        rw [node_put _ _ _ _ named]
        split
        · rfl
        · rename_i elsewhere
          rw [node_put _ _ _ _ named, if_neg elsewhere]
      have treeing := makeDirectory_free _ (scratch / "smali") _
        (resolve_put _ _ _ _ (.file content mode') (by rw [node_put _ _ _ _ named, if_pos rfl]; simp)
          (resolve_put _ _ _ _ (.file [] mode) (by rw [free]; simp) found'))
        (by rw [nodes, if_neg (by simp [apart.symm]), free]) (by
          rw [child_eq _ _ smali_plain]
          simp)
      have staged := (staged_ok new plain reader archive session _ _ _ made ran treeing).1
      refine ⟨_, _, rfl, treeing,
        ⟨staged.tidy.there, ⟨mode', ?_⟩, ?_, fun name more other beside => ?_⟩, staged⟩
      · rw [node_put _ _ _ _ (by simp), if_neg (by simp [apart]), nodes, if_pos rfl]
      · rw [node_put _ _ _ _ (by simp), if_pos rfl]
      · rw [node_put _ _ _ _ (by simp), if_neg (by simpa using beside), nodes,
          if_neg (by simpa using other), free]

theorem laid_taken (new : NewPlace prior scratch place) (plain : PlainName (imageName image))
    (session taken : Session) (size : Nat) (treed : Files)
    (made : session.files = prior.put place .directory)
    (apart : Clear session.files archive (scratch / imageName image))
    (extracting : (Apk.extract archive image.entry (scratch / imageName image) reader).perform
      session = (.ok size, taken))
    (treeing : taken.files.makeDirectory (scratch / "smali") = .ok treed) :
    (∃ original, Laid place image original treed) ∧ Staged prior place image treed ∧
      (∃ spot, session.files.resolve (scratch / imageName image) = .ok spot) ∧
      ∃ spot, session.files.resolve (scratch / "smali") = .ok spot := by
  have start : Tidy prior place (attemptNames image) session.files := made ▸ tidy_made new
  have staged :=
    (staged_ok new plain reader archive session taken size treed made extracting treeing).1
  obtain ⟨_, _, _, _, _, _, _, _, _, _, _, _, first, _⟩ := Apk.extract_ok _ _ _ _ _ _ _ extracting
  obtain ⟨spot, _, reached, _, _⟩ := write_ok _ _ _ _ first
  obtain ⟨beside, once, _⟩ := makeDirectory_ok _ _ _ treeing
  have leads := resolve_child_again _ session.files scratch "smali" place beside smali_plain once
    (start.leads new) start.there
  refine ⟨?_, staged, ⟨spot, reached⟩, ⟨_, leads⟩⟩
  cases found : contentFor reader session.files archive image.entry with
  | none =>
      obtain ⟨_, _, lost⟩ := extract_lost reader archive (scratch / imageName image) _ _ apart found
      rw [lost] at extracting
      cases extracting
  | some original =>
      obtain ⟨_, _, ran, treeing', laid, _⟩ :=
        laid_out new plain staged.apart session made apart found spot _ reached leads
      rw [ran] at extracting
      cases extracting
      cases treeing'.symm.trans treeing
      exact ⟨original, laid⟩

/-- How an attempt came to promote a content: the assembler wrote it when it was given a tree with
the class rewritten, beside the image and nothing else. -/
structure Assembling (setting : Setting) (prior : Files) (scratch : Path) (place : Place)
    (image : Apk.Image) (content : Bytes) (building built : Session) : Prop where
  staged : Staged prior place image building.files
  extracted : ∃ old mode,
    building.files.node? (place ++ [imageName image]) = some (.file old mode)
  bare : ∀ name more, name ≠ "smali" → name :: more ≠ [imageName image] →
    building.files.node? (place ++ name :: more) = none
  tree : building.files.resolve (scratch / "smali") = .ok (place ++ ["smali"])
  settled : ∃ text,
    building.files.read (scratch / "smali" / Smali.classFile setting.patch.targetClass) =
      .ok text ∧
    Smali.HasRoom building.files
      (scratch / "smali" / Smali.classFile setting.patch.targetClass) ∧
    Smali.Done setting.patch.signature setting.patch.replacement Smali.endMarker text
  vacant : Smali.Vacant building.files
    (scratch / "smali" / Smali.classFile setting.patch.targetClass)
  ran : (setting.toolbox.assemble (scratch / "smali")
    (scratch / ("modified_" ++ imageName image))).perform building = (.ok (), built)
  wrote : built.files.read (scratch / ("modified_" ++ imageName image)) = .ok content

/-- A replacement that is found again where it was put. -/
structure Recurrent (patch : Patch) : Prop where
  distinct : Text.trim patch.signature.toList ≠ Smali.endMarker.toList
  framed : Smali.Framed patch.signature.toList Smali.endMarker.toList patch.replacement.toList

theorem attempt_promotes (plain : PlainName (imageName image))
    (disk : setting.disk = Smali.Disk.plain) (quiet : Quiet setting.progress)
    (session after : Session) (path : Path) :
    (attempt setting archive image scratch).perform session =
        (.ok ⟨image, .promoted path⟩, after) ↔
      path = scratch / imageName image ∧ ∃ size taken treed drawn given built,
        (Apk.extract archive image.entry (scratch / imageName image) setting.reader).perform
          session = (.ok size, taken) ∧
        taken.files.makeDirectory (scratch / "smali") = .ok treed ∧
        Promoting setting image archive (scratch / imageName image) (scratch / "smali")
          (scratch / ("modified_" ++ imageName image)) session
          { taken with
            files := treed
            journal := taken.journal ++ [.logged .info
              s!"  {image.entry}: {Apk.kilobytes size} extracted"] } drawn given built after := by
  have again := child_name scratch _ plain
  constructor
  · intro done
    have unrefused : ∀ {outcome : Outcome} {before : Session}, Refused outcome →
        (pure ⟨image, outcome⟩ : Action Attempt).perform before ≠
          (.ok ⟨image, .promoted path⟩, after) := by
      rintro _ _ ⟨reason, detail, rfl⟩ same
      obtain ⟨same, _⟩ := (pure_eq_ok ..).mp same
      cases same
    simp only [attempt, again, info, bind_eq_ok, rewording_eq_ok, log_eq_ok] at done
    obtain ⟨size, taken, extracting, _, _, rfl, _, _, making, drawing?, drawn, drawing,
      done⟩ := done
    obtain ⟨treed, treeing, rfl⟩ := (change_eq_ok ..).mp making
    cases drawing? with
    | some outcome =>
        have drew := disassembled_ok setting image _ _ _ drawn _ quiet drawing
        exact absurd done (unrefused (drew.refused outcome rfl))
    | none =>
    simp only [bind_eq_ok] at done
    obtain ⟨patching?, given, patching, done⟩ := done
    cases patching? with
    | some outcome =>
        have sought := patched_ok setting image _ drawn given _ disk quiet patching
        exact absurd done (unrefused sought.refused.1)
    | none =>
    simp only [bind_eq_ok] at done
    obtain ⟨making?, built, assembling, done⟩ := done
    cases making? with
    | some outcome =>
        have called := reassembled_ok setting image _ _ given built _ quiet assembling
        exact absurd done (unrefused (called.refused outcome rfl))
    | none =>
    simp only [bind_eq_ok, pure_eq_ok] at done
    obtain ⟨outcome, _, promoting, same, rfl⟩ := done
    cases same
    obtain ⟨named, _⟩ := promoted_steps _ _ _ _ _ _ _ _ quiet promoting
    cases named
    exact ⟨rfl, size, taken, treed, drawn, given, built, extracting, treeing,
      ⟨size, taken, extracting, treeing⟩, drawing, patching, assembling, promoting⟩
  · rintro ⟨rfl, size, taken, treed, drawn, given, built, extracting, treeing, promoting⟩
    simp only [attempt, again, info, bind_eq_ok, rewording_eq_ok, log_eq_ok]
    refine ⟨size, taken, extracting, (), _, rfl, (), _,
      (change_eq_ok ..).mpr ⟨treed, treeing, rfl⟩, _, drawn, promoting.disassembly, ?_⟩
    simp only [bind_eq_ok]
    refine ⟨_, given, promoting.search, ?_⟩
    simp only [bind_eq_ok]
    refine ⟨_, built, promoting.assembly, ?_⟩
    simp only [bind_eq_ok]
    exact ⟨_, after, promoting.promotion, rfl⟩

theorem attempt_assembling (new : NewPlace prior scratch place)
    (plain : PlainName (imageName image)) (comparable : Comparable setting)
    (recurrent : Recurrent setting.patch) (session after : Session) (path : Path)
    (made : session.files = prior.put place .directory)
    (apart : Clear session.files archive (scratch / imageName image))
    (done : (attempt setting archive image scratch).perform session =
      (.ok ⟨image, .promoted path⟩, after))
    (read : after.files.read path = .ok content) :
    imageName image ≠ "smali" ∧
      (∃ spot, session.files.resolve (scratch / imageName image) = .ok spot) ∧
      (∃ spot, session.files.resolve (scratch / "smali") = .ok spot) ∧
      ∃ building built, Assembling setting prior scratch place image content building built := by
  have quiet := comparable.polite.quiet
  obtain ⟨rfl, size, taken, treed, drawn, given, built, extracting, treeing, _, drawing, patching,
    assembling, promoting⟩ := (attempt_promotes plain comparable.disk quiet ..).mp done
  obtain ⟨⟨original, laid⟩, staged, reached, leads⟩ :=
    laid_taken new plain session taken size treed made apart extracting treeing
  refine ⟨staged.apart, reached, leads, ?_⟩
  have drew := disassembled_ok setting image _ _ _ drawn _ quiet drawing
  have inTree := drew.only (comparable.confined.disassemble _ _) fun _ reached =>
    staged.tidy.child new smali_plain reached
  have drawnStaged := Staged.disassembled staged new comparable.confined drew
  obtain _ | _ | ⟨_, _, rewritten⟩ :=
    patched_ok setting image _ drawn given _ comparable.disk quiet patching
  obtain ⟨givenStaged, _⟩ := drawnStaged.patched new rewritten
  have called := reassembled_ok setting image _ _ given built _ quiet assembling
  obtain ⟨builtStaged, _⟩ := givenStaged.reassembled new plain comparable.confined called
  have wrote := ((builtStaged.installs new plain quiet _ promoting).2.read content).mp read
  obtain ⟨building, carried, _, through⟩ := called.run
  obtain ⟨front, up, file, at_⟩ := comparable.target.classAt
  obtain ⟨_, _, readable, _, _, stored⟩ := rewritten.text
  rw [at_.path] at readable stored
  have swapped := at_.swapped new.filled (drawnStaged.tidy.leads new) readable stored
  have outside := inTree.trans (at_.outside swapped)
  obtain ⟨writing, wrote', _, later, ran⟩ := rewritten.rewrite
  obtain ⟨text, written, room, settled⟩ := Smali.replace_leaves_done _ _ _ _ _ _
    setting.patch.signature_filled recurrent.distinct (by decide) recurrent.framed ran
  rw [later] at written room
  have tidy := givenStaged.tidy
  rw [← carried] at outside tidy swapped givenStaged written room
  refine ⟨building, built, givenStaged, ?_, ?_, ?_, ⟨text, written, room, settled⟩, ?_, through rfl,
    wrote⟩
  · obtain ⟨mode, there⟩ := laid.extracted
    exact ⟨original, mode, (outside.rest _ (beside_names staged.apart.symm [])).trans there⟩
  · intro name more other alone
    rw [outside.rest _ (beside_names (Ne.symm other) more)]
    exact laid.bare name more alone fun same => other (List.cons.inj same).1
  · obtain ⟨spot, once⟩ := leads
    exact resolve_child_again session.files building.files scratch "smali" place spot smali_plain
      once (tidy.leads new) tidy.there
  · intro temporary beside named found other under
    rw [at_.path, temporary_beyond] at named
    cases named
    obtain rfl := leads_within _ (at_.leads _ (Smali.temporary_name file).1) new.filled
      (tidy.leads new) beside found
    exact swapped.gone other under

theorem isFile_of_read (files : Files) (path : Path) (read : files.read path = .ok content) :
    files.isFile path = .ok true := by
  obtain ⟨spot, mode, reached, node⟩ := (read_eq_ok ..).mp read
  rw [Files.isFile, find_of_resolve _ _ _ reached, node]
  rfl

theorem patched_done (disk : setting.disk = Smali.Disk.plain) (polite : Polite setting.progress)
    (tree : Path) (session : Session)
    (settled : Smali.Done setting.patch.signature setting.patch.replacement Smali.endMarker content)
    (read : session.files.read (tree / Smali.classFile setting.patch.targetClass) = .ok content)
    (room : Smali.HasRoom session.files (tree / Smali.classFile setting.patch.targetClass)) :
    ∃ after, (patched setting image tree).perform session = (.ok none, after) ∧
      Smali.Stored session.files after.files (tree / Smali.classFile setting.patch.targetClass)
        content := by
  have found := located session.files tree setting.patch.targetClass true session rfl
    (isFile_of_read _ _ read)
  rw [patched, perform_bind_ok _ _ _ _ _ found]
  obtain ⟨told, telling, files, _⟩ := polite.ran s!"Found target class file: {(tree /
    Smali.classFile setting.patch.targetClass).name}" session
  obtain ⟨again, ran, stored⟩ := settled.replaced (tree / Smali.classFile setting.patch.targetClass)
    told (by rw [files, read]) (by rwa [files])
  obtain ⟨after, telling', files', _⟩ := polite.ran s!"Method replaced in {(tree /
    Smali.classFile setting.patch.targetClass).name}" again
  refine ⟨after, ?_, by rwa [files', ← files]⟩
  have rewriting := (rewording_eq_ok isUnwritable (fun cause => .io (.rewrite
    (tree / Smali.classFile setting.patch.targetClass).text cause)) _ told again true).mpr ran
  rw [← disk] at rewriting
  simp only [if_true]
  rw [perform_bind_ok _ _ _ _ _ telling, perform_bind_ok _ _ _ _ _ rewriting]
  simp only [if_true]
  rw [perform_bind_ok _ _ _ _ _ telling', perform_pure]

end

section

variable {setting : Setting} {prior prior' : Files} {scratch scratch' : Path} {left right : Place}
  {image : Apk.Image} {content : Bytes} {building built : Session}

/-- The files of an attempt with what it promotes in the place of what it extracted. -/
def retaken (place : Place) (image : Apk.Image) (content : Bytes) (files : Files) : Files :=
  files.put (place ++ [imageName image]) (.file content newFileMode)

theorem resolve_onward (files : Files) (base : Path) (text : String) (parts : List String)
    (spot place : Place) (relative : Path.ofText text = ⟨0, parts⟩) (filled : parts ≠ [])
    (there : files.resolve base = .ok spot) (reached : files.resolve (base / text) = .ok place) :
    files.node? spot = some .directory := by
  have joined : base / text = { base with parts := base.parts ++ parts } := by
    change base.join (Path.ofText text) = _
    rw [relative]
    rfl
  have walked := ((resolve_eq_ok ..).mp reached).2
  rw [joined] at walked
  have onto : files.walk (files.start base) (base.parts ++ parts) = files.walk spot parts :=
    walk_onto _ _ _ _ _ ((resolve_eq_ok ..).mp there).2
  change files.walk (files.start base) (base.parts ++ parts) = _ at walked
  rw [onto] at walked
  obtain ⟨name, rest, rfl⟩ := List.exists_cons_of_ne_nil filled
  exact ((walk_cons ..).mp walked).1

theorem retaken_node (files : Files) (name : String) (more : List String)
    (apart : name ≠ imageName image) :
    (retaken left image content files).node? (left ++ name :: more) =
      files.node? (left ++ name :: more) := by
  rw [retaken, node_put _ _ _ _ (by simp), if_neg]
  simp [apart]

namespace Assembling

variable (assembling : Assembling setting prior scratch left image content building built)

include assembling

theorem planted (comparable : Comparable setting) :
    building.files.node? (left ++ ["smali"]) = some .directory := by
  obtain ⟨parts, name, more, relative, within⟩ := comparable.target
  obtain ⟨text, read, _⟩ := assembling.settled
  obtain ⟨spot, _, reached, _⟩ := (read_eq_ok ..).mp read
  refine resolve_onward _ _ _ parts _ spot relative ?_ assembling.tree reached
  rintro rfl
  cases within

theorem retaken_resolve (path : Path) (goal : Place)
    (reached : building.files.resolve path = .ok goal) :
    (retaken left image content building.files).resolve path = .ok goal :=
  resolve_put _ _ _ _ _ assembling.staged.leaf reached

theorem level (new : NewPlace prior scratch left) {treed drawn : Files}
    (laid : Laid right image content treed) (staged : Staged prior' right image drawn)
    (outside : SameOutside (right ++ ["smali"]) treed drawn)
    (same : SameUnder (left ++ ["smali"]) (right ++ ["smali"]) building.files drawn) :
    Level prior prior' left right image (retaken left image content building.files) drawn := by
  have apart := assembling.staged.apart
  have own : imageName image ∈ attemptNames image := by simp [attemptNames]
  refine ⟨assembling.staged.tidy.inside new own
    (sameOutside_put _ _ _ (by simp)), staged.tidy, fun names => ?_⟩
  cases names with
  | nil =>
      rw [List.append_nil, List.append_nil, (seen_directory ..).mpr staged.tidy.there,
        seen_directory, retaken, node_put _ _ _ _ (by simp), if_neg (by simp),
        assembling.staged.tidy.there]
  | cons name more =>
      by_cases inTree : name = "smali"
      · subst inTree
        have here := same more
        rw [List.append_assoc, List.append_assoc, List.singleton_append] at here
        rw [seen, retaken_node _ _ _ apart.symm]
        exact here
      · have beside := outside.rest (right ++ name :: more) (beside_names (Ne.symm inTree) more)
        by_cases here : name :: more = [imageName image]
        · obtain ⟨mode, extracted⟩ := laid.extracted
          rw [here] at beside ⊢
          rw [(seen_file _ _ content).mpr ⟨mode, beside.trans extracted⟩, seen_file, retaken,
            node_put _ _ _ _ (by simp), if_pos rfl]
          exact ⟨_, rfl⟩
        · have free := laid.bare name more here (by simp [inTree])
          rw [(seen_free ..).mpr (beside.trans free), seen_free, retaken,
            node_put _ _ _ _ (by simp), if_neg (by simpa using here),
            assembling.bare name more inTree here]

theorem disassembled (returning : Returning setting.toolbox)
    (pair : Pair prior prior' scratch scratch' left right) (comparable : Comparable setting)
    {start : Session} (laid : Laid right image content start.files)
    (staged : Staged prior' right image start.files)
    (extracted : start.files.resolve (scratch' / imageName image) =
      .ok (right ++ [imageName image]))
    (tree : start.files.resolve (scratch' / "smali") = .ok (right ++ ["smali"])) :
    ∃ drawn, (Search.disassembled setting image (scratch' / imageName image)
        (scratch' / "smali")).perform start = (.ok none, drawn) ∧
      Staged prior' right image drawn.files ∧
      Level prior prior' left right image (retaken left image content building.files)
        drawn.files := by
  obtain ⟨mode, node⟩ := laid.extracted
  have read := (read_eq_ok ..).mpr ⟨_, mode, extracted, node⟩
  rcases ran : (Search.disassembled setting image (scratch' / imageName image)
    (scratch' / "smali")).perform start with ⟨result, drawn⟩
  obtain ⟨answer, calling, left, asked⟩ := disassembled_consulted image _ _ content start drawn
    result comparable.polite read ran
  have bare : ∀ name more, start.files.node? (right ++ ["smali"] ++ name :: more) = none := by
    intro name more
    rw [List.append_assoc]
    exact laid.bare "smali" (name :: more) (by simp) (by simp)
  have empty := laid.tree
  rw [← asked.files] at read tree empty bare
  obtain ⟨_, drew, same⟩ := returning _ _ calling _ _ _ _ _ _ content assembling.ran assembling.tree
    (assembling.planted comparable) assembling.wrote read tree empty bare
    (pair.child "smali" smali_plain)
  rw [asked.run] at drew
  cases drew
  rw [← asked.same] at same
  have answered := asked.answered
  cases answered with
  | done =>
      have called := disassembled_ok setting image _ _ start drawn none comparable.polite.quiet ran
      have later := staged.disassembled pair.second comparable.confined called
      refine ⟨drawn, rfl, later, assembling.level pair.first laid later ?_ same⟩
      exact asked.only (comparable.confined.disassemble _ _) _ fun spot reached => by
        rw [staged.tidy.child pair.second smali_plain reached]

theorem patched (pair : Pair prior prior' scratch scratch' left right)
    (comparable : Comparable setting) {drawn : Session}
    (level : Level prior prior' left right image (retaken left image content building.files)
      drawn.files) :
    ∃ given, (Search.patched setting image (scratch' / "smali")).perform drawn =
        (.ok none, given) ∧
      SameOutside (right ++ ["smali"]) drawn.files given.files ∧
      Level prior prior' left right image (retaken left image content building.files)
        given.files := by
  obtain ⟨front, up, file, at_⟩ := comparable.target.classAt
  obtain ⟨text, read, room, settled⟩ := assembling.settled
  have vacant := assembling.vacant
  rw [at_.path] at read room vacant
  have leads := assembling.staged.tidy.leads pair.first
  obtain ⟨reached, mode, node⟩ := at_.spot pair.first.filled leads read
  obtain ⟨more, inTree⟩ := at_.inTree
  have kept : ∀ name : String, (retaken left image content building.files).node?
      (left ++ (up ++ [name])) = building.files.node? (left ++ (up ++ [name])) := by
    intro name
    rw [← inTree]
    exact retaken_node _ _ _ assembling.staged.apart.symm
  have reread : (retaken left image content building.files).read
      (beyond scratch (front ++ [file])) = .ok text :=
    (read_eq_ok ..).mpr ⟨_, mode, assembling.retaken_resolve _ _ reached, (kept file).trans node⟩
  obtain ⟨temporary, beside, named, found, open_⟩ := room
  rw [temporary_beyond] at named
  cases named
  obtain rfl := leads_within _ (at_.leads _ (Smali.temporary_name file).1) pair.first.filled leads
    beside found
  have roomy : Smali.HasRoom (retaken left image content building.files)
      (beyond scratch (front ++ [file])) :=
    ⟨_, _, temporary_beyond _ _ _, assembling.retaken_resolve _ _ found, by rwa [kept]⟩
  have room' := (level.room pair at_).mp roomy
  have read' : drawn.files.read (beyond scratch' (front ++ [file])) = .ok text := by
    rcases (level.mirrored pair _ _ (at_.leads file at_.down)).read level.same with
      ⟨other, one, two⟩ | ⟨_, _, unread, _⟩
    · cases reread.symm.trans one
      exact two
    · cases reread.symm.trans unread
  rw [← at_.path] at read' room'
  obtain ⟨given, ran, stored⟩ :=
    patched_done comparable.disk comparable.polite _ drawn settled read' room'
  rw [at_.path] at read' stored
  have swapped := at_.swapped pair.second.filled (level.second.leads pair.second) read' stored
  have outside := at_.outside swapped
  refine ⟨given, ran, outside, level.first, level.second.inside pair.second
    (by simp [attemptNames]) outside, sameUnder_swapped level.same ⟨rfl, ?_, ?_, fun _ _ _ => rfl⟩
    swapped⟩
  · exact ⟨mode, (kept file).trans node⟩
  · intro other under
    have free := vacant _ _ (temporary_beyond _ _ _) found other under
    obtain ⟨rest, rfl⟩ := under
    rw [← inTree] at free ⊢
    simp only [List.append_assoc, List.cons_append] at free ⊢
    rw [retaken_node _ _ _ assembling.staged.apart.symm, free]

theorem reassembled (pair : Pair prior prior' scratch scratch' left right)
    (plain : PlainName (imageName image)) (comparable : Comparable setting) {given : Session}
    (staged : Staged prior' right image given.files)
    (level : Level prior prior' left right image (retaken left image content building.files)
      given.files) :
    ∃ after, (Search.reassembled setting image (scratch' / "smali")
        (scratch' / ("modified_" ++ imageName image))).perform given = (.ok none, after) ∧
      Staged prior' right image after.files ∧
      after.files.read (scratch' / ("modified_" ++ imageName image)) = .ok content := by
  -- But for the image's own name, what is level with the view is level with the files themselves.
  have likewise : ∀ name (plain : PlainName name), name ≠ imageName image →
      building.files.resolve (scratch / name) = .ok (left ++ [name]) →
      Likewise building.files given.files (scratch / name) (scratch' / name) := by
    intro name plain apart reached
    have around := level.likewise pair name plain
    refine ⟨around.named, around.peers, Or.inl ⟨_, right ++ [name], reached, ?_, fun more => ?_⟩⟩
    · have mirrored := level.child pair name plain
      rw [assembling.retaken_resolve _ _ reached] at mirrored
      generalize given.files.resolve (scratch' / name) = reached' at mirrored
      cases mirrored
      rfl
    · have here := level.same (name :: more)
      rw [seen, retaken_node _ _ _ apart] at here
      rw [List.append_assoc, List.append_assoc, List.singleton_append]
      exact here
  have wrote : ∃ spot,
      built.files.resolve (scratch / ("modified_" ++ imageName image)) = .ok spot := by
    obtain ⟨spot, _, reached, _⟩ := (read_eq_ok ..).mp assembling.wrote
    exact ⟨spot, reached⟩
  obtain ⟨spot, once⟩ := wrote
  have tree := likewise "smali" smali_plain assembling.staged.apart.symm assembling.tree
  have rebuilt := likewise _ (modified_plain plain) (modified_apart _) (resolve_child_again
    built.files building.files scratch _ left spot (modified_plain plain) once
    (assembling.staged.tidy.leads pair.first) assembling.staged.tidy.there)
  rcases ran : (Search.reassembled setting image (scratch' / "smali")
    (scratch' / ("modified_" ++ imageName image))).perform given with ⟨result, after⟩
  obtain ⟨answer, calling, made, asked⟩ := reassembled_consulted image _ _ given after result
    comparable.polite ran
  rw [← asked.files] at tree rebuilt
  obtain ⟨same, written⟩ := comparable.functional.assemble _ _ _ _ _ _ tree rebuilt
  rw [assembling.ran, asked.run] at same written
  cases same.done.mp rfl
  have answered := asked.answered
  cases answered with
  | done =>
      have called := reassembled_ok setting image _ _ given after none comparable.polite.quiet ran
      refine ⟨after, rfl, (staged.reassembled pair.second plain comparable.confined called).1, ?_⟩
      rw [asked.same]
      rcases written.read with ⟨other, one, two⟩ | ⟨_, _, unread, _⟩
      · cases assembling.wrote.symm.trans one
        exact two
      · cases assembling.wrote.symm.trans unread

end Assembling

/-- An image that was promoted is promoted again where it is the one to be extracted. -/
theorem attempt_again (pair : Pair prior prior' scratch scratch' left right)
    (plain : PlainName (imageName image)) (comparable : Comparable setting)
    (recurrent : Recurrent setting.patch) (returning : Returning setting.toolbox)
    {archive archive' path : Path} (session after session' : Session)
    (made : session.files = prior.put left .directory)
    (made' : session'.files = prior'.put right .directory)
    (apart : Clear session.files archive (scratch / imageName image))
    (apart' : Clear session'.files archive' (scratch' / imageName image))
    (done : (attempt setting archive image scratch).perform session =
      (.ok ⟨image, .promoted path⟩, after))
    (read : after.files.read path = .ok content)
    (found : contentFor setting.reader session'.files archive' image.entry = some content) :
    ∃ again, (attempt setting archive' image scratch').perform session' =
        (.ok ⟨image, .promoted (scratch' / imageName image)⟩, again) ∧
      again.files.read (scratch' / imageName image) = .ok content := by
  obtain ⟨named, ⟨spot, reached⟩, ⟨beside, leads⟩, building, built, assembling⟩ :=
    attempt_assembling pair.first plain comparable recurrent session after path made apart done read
  -- What can be named in one directory can be named in the other.
  have begun : Tidy prior left (attemptNames image) session.files := made ▸ tidy_made pair.first
  have begun' : Tidy prior' right (attemptNames image) session'.files :=
    made' ▸ tidy_made pair.second
  have extracted := child_reached _ plain pair.peers (begun.leads pair.first) reached
    (begun'.leads pair.second) begun'.there
  have tree := child_reached _ smali_plain pair.peers (begun.leads pair.first) leads
    (begun'.leads pair.second) begun'.there
  obtain ⟨taken, treed, extracting, treeing, laid, staged⟩ :=
    laid_out pair.second plain named session' made' apart' found _ _ extracted tree
  have still : ∀ name (plain : PlainName name), session'.files.resolve (scratch' / name) =
      .ok (right ++ [name]) → treed.resolve (scratch' / name) = .ok (right ++ [name]) :=
    fun name plain once => resolve_child_again _ treed scratch' name right _ plain once
      (staged.tidy.leads pair.second) staged.tidy.there
  let start : Session := { session' with
    files := treed
    journal := session'.journal ++ [.logged .info
      s!"  {image.entry}: {Apk.kilobytes content.length} extracted"] }
  have laid : Laid right image content start.files := laid
  obtain ⟨drawn, drawing, staged, level⟩ := assembling.disassembled returning pair comparable laid
    staged (still _ plain extracted) (still _ smali_plain tree)
  obtain ⟨given, patching, outside, level⟩ := assembling.patched pair comparable level
  have staged := staged.change pair.second (by simp [attemptNames]) staged.apart.symm outside
  obtain ⟨made, assembled, staged, wrote⟩ :=
    assembling.reassembled pair plain comparable staged level
  obtain ⟨_, _, left, node⟩ := (read_eq_ok ..).mp wrote
  obtain ⟨after', promoting, installed⟩ := staged.promoted_done pair.second plain comparable.polite
    _ ((find_eq_ok ..).mpr ⟨_, left, node⟩)
  exact ⟨after', (attempt_promotes plain comparable.disk comparable.polite.quiet ..).mpr
    ⟨rfl, _, _, treed, drawn, given, made, extracting, treeing, ⟨_, _, extracting, treeing⟩, drawing,
      patching, assembled, promoting⟩, (installed.read content).mpr wrote⟩

end

end DexGraft.Search
