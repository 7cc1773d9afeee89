import DexGraft.Proofs.Apk.Selection
import DexGraft.Proofs.Apk.Successor
import DexGraft.Proofs.Search.Handing
import DexGraft.Proofs.Search.Replay

/-!
A run on what an earlier run handed to its signer. It tries the images in the order of the
earlier run and patches the same one; the class is as the patch would make it already, so
the same archive is handed over once more.
-/
namespace DexGraft.Search

open Files DexGraft.Action

section

variable {begun files after : Files} {root : Path} {rootPlace : Place} {images : List Apk.Image}
  {file : Bytes}

theorem Aside.underway (aside : Aside rootPlace images files after)
    (underway : Underway begun rootPlace files) : Underway begun rootPlace after := by
  refine ⟨underway.outside.trans ⟨aside.here, fun other outside => aside.rest other ?_⟩, ?_⟩
  · exact fun _ _ under => outside ((List.prefix_append _ _).trans under)
  · rw [aside.rest _ fun _ _ => not_prefix_above rootPlace _ [], underway.there]

theorem Aside.beside (aside : Aside rootPlace images files after) (name : String)
    (apart : ∀ image, attemptName image ≠ name) :
    after.node? (rootPlace ++ [name]) = files.node? (rootPlace ++ [name]) :=
  aside.rest _ fun image _ => beside_names (apart image) []

theorem Between.yard (between : Between begun root rootPlace file files)
    (site : Site begun root rootPlace) (sound : files.Sound) (images : List Apk.Image) :
    Yard images root (root / "input.apk") rootPlace file files where
  sound := sound
  there := between.underway.there
  leads _ aside := (aside.underway between.underway).root site
  archive after aside := by
    obtain ⟨place, mode, reached, node⟩ := (read_eq_ok ..).mp between.archive
    obtain ⟨rfl, _⟩ :=
      resolve_child _ root _ _ place input_plain (between.underway.root site) reached
    have later := aside.underway between.underway
    exact (read_eq_ok ..).mpr ⟨_, mode, resolve_child_again files after root _ _ _ input_plain
      reached (later.root site) later.there,
      (aside.beside _ fun image => attemptName_apart image).trans node⟩
  stale image _ content mode := by
    rw [between.bare _ [] (attemptName_apart image)]
    exact nofun

theorem attemptName_unsigned (image : Apk.Image) : attemptName image ≠ "unsigned_modified.apk" := by
  intro same
  have first := congrArg (fun name => name.toList.head?) same
  simp [attemptName] at first

end

section

variable {pipeline : Pipeline} {root : Path}

/-- An archive whose images can be selected is prepared, if its copy can be written. -/
theorem prepared_done (polite : Polite pipeline.setting.progress) (input archive : Path)
    (session : Session) (file : Bytes) (zip : Zip.Archive) (images : List Apk.Image) (place : Place)
    (given : session.files.read input = .ok file)
    (read : Zip.readWith pipeline.setting.reader.decoders file = .ok zip)
    (chosen : Apk.selectImages zip.names Apk.defaultBase Apk.defaultExtension = .ok images)
    (reached : session.files.resolve archive = .ok place)
    (open_ : session.files.node? place ≠ some .directory) :
    ∃ after, (prepared pipeline input archive).perform session = (.ok images, after) := by
  obtain ⟨told, telling, files, _⟩ := polite.ran "Copying input APK" session
  rw [← files] at given reached open_
  obtain ⟨mode, written⟩ := write_of_place _ _ file _ reached open_
  obtain ⟨shown, telling', files', _⟩ := polite.ran
    "Getting sorted DEX file list (highest to lowest)"
    { told with files := told.files.put place (.file file mode) }
  have copy : shown.files.read archive = .ok file := by
    rw [files']
    exact write_read _ _ _ _ written
  have selecting := (Apk.select_eq_ok _ archive shown shown images).mpr
    ⟨file, zip, copy, read, chosen, rfl⟩
  simp only [prepared, copyFile, info, bind_eq_ok, rewording_eq_ok, ask_eq_ok, change_eq_ok,
    log_eq_ok, pure_eq_ok]
  exact ⟨_, (), told, telling, (), _, ⟨file, told, ⟨given, rfl⟩, _, written, rfl⟩, (), shown,
    telling', images, shown, selecting, (), _, rfl, rfl, rfl⟩

theorem prepared_sound (quiet : Quiet pipeline.setting.progress) (input : Path)
    (made ready : Session) (images : List Apk.Image) (sound : made.files.Sound)
    (preparing : (prepared pipeline input (root / "input.apk")).perform made =
      (.ok images, ready)) : ready.files.Sound :=
  (prepared_keeps pipeline (tolerant_files Files.Sound quiet) (fun _ => trivial) input
    (root / "input.apk") fun _ => keeps_change (fun _ => trivial) fun _ _ before written =>
      before.write _ _ (child_filled root _ input_plain) written).after _ _ _ sound preparing

/-- A run has prepared its archive: its images are chosen and can be tried. -/
structure Ready (decoders : Zip.Decoders) (root : Path) (rootPlace : Place) (file : Bytes)
    (archive : Zip.Archive) (images : List Apk.Image) (session ready : Session) : Prop where
  site : Site session.files root rootPlace
  between : Between session.files root rootPlace file ready.files
  sound : ready.files.Sound
  opened : Zip.readWith decoders file = .ok archive
  chosen : Apk.selectImages archive.names Apk.defaultBase Apk.defaultExtension = .ok images

theorem ready_of_prepared (quiet : Quiet pipeline.setting.progress) (input : Path)
    (session made ready : Session) (images : List Apk.Image) (file : Bytes)
    (archive : Zip.Archive) (sound : session.files.Sound)
    (given : session.files.read input = .ok file)
    (read : Zip.readWith pipeline.setting.reader.decoders file = .ok archive)
    (making : (pipeline.making session).perform session = (.ok root, made))
    (preparing : (prepared pipeline input (root / "input.apk")).perform made =
      (.ok images, ready)) :
    ∃ rootPlace, Ready pipeline.setting.reader.decoders root rootPlace file archive images session
      ready := by
  obtain ⟨rootPlace, opened⟩ := making_ok pipeline session made root sound making
  obtain ⟨_, _, given', read', chosen, between⟩ := prepared_ok pipeline input made ready images
    quiet opened.site opened.underway opened.bare preparing
  cases (opened.readable input file given).symm.trans given'
  cases read.symm.trans read'
  exact ⟨rootPlace, opened.site, between,
    prepared_sound quiet input made ready images opened.sound preparing, read, chosen⟩

theorem Ready.yard {decoders : Zip.Decoders} {rootPlace : Place} {file : Bytes}
    {archive : Zip.Archive} {images : List Apk.Image} {session ready : Session}
    (readied : Ready decoders root rootPlace file archive images session ready) :
    Yard images root (root / "input.apk") rootPlace file ready.files :=
  readied.between.yard readied.site readied.sound images

end

theorem Site.filled {begun : Files} {root : Path} {rootPlace : Place}
    (site : Site begun root rootPlace) : root.parts ≠ [] := by
  obtain ⟨base, name, plain, rfl⟩ := site.child
  exact child_filled base name plain

section

variable {pipeline : Pipeline} {root root' : Path} {rootPlace rootPlace' : Place}
  {images : List Apk.Image} {file made : Bytes} {archive middle : Zip.Archive}
  {session session' ready : Session} {reader : Zip.Reader} {decoders : Zip.Decoders}

theorem Ready.successor
    (readied : Ready reader.decoders root rootPlace file archive images session ready)
    (change : Apk.Replacement) (image : Apk.Image) (member : image ∈ images)
    (named : image.entry = change.name) (rebuilt : Apk.Rebuilt)
    (inverts : Deflate.Inverts pipeline.deflate) (steady : Zip.Steady reader.decoders)
    (done : Apk.rebuild pipeline.deflate archive change = .ok rebuilt)
    (opened : Zip.readWith reader.decoders rebuilt.bytes = .ok middle) :
    Apk.Successor reader pipeline.deflate file change rebuilt.bytes := by
  obtain ⟨entry, listed, same⟩ :=
    List.mem_map.mp (Apk.selectImages_stands _ _ readied.chosen image member).1
  refine Apk.rebuild_successor reader _ file archive change rebuilt inverts steady ?_ readied.opened
    done middle opened
  rw [← named, ← same]
  exact Zip.read_names file archive readied.opened entry listed

theorem Ready.priorities
    (readied : Ready decoders root rootPlace file archive images session ready)
    (apart : (archive.names.filterMap
      (Apk.rank? Apk.defaultBase Apk.defaultExtension)).Nodup) :
    (images.map Apk.Image.priority).Nodup := by
  obtain ⟨_, found, ranked⟩ := Apk.selectImages_ranked _ _ _ _ readied.chosen
  obtain ⟨_, rfl⟩ := (Apk.candidates_eq_ok ..).mp found
  exact ranked.ranks.nodup_iff.mpr apart

theorem Ready.elsewhere
    (readied : Ready decoders root rootPlace file archive images session ready)
    (polite : Polite pipeline.setting.progress) (input : Path) (begun : Session)
    (sound : session'.files.Sound) (given : session'.files.read input = .ok made)
    (opened : Zip.readWith pipeline.setting.reader.decoders made = .ok middle)
    (chosen : Apk.selectImages middle.names Apk.defaultBase Apk.defaultExtension = .ok images)
    (making : (pipeline.making session').perform session' = (.ok root', begun))
    (size : root.text.utf8ByteSize = root'.text.utf8ByteSize) :
    Peers root root' ∧ ∃ ready' rootPlace',
      (prepared pipeline input (root' / "input.apk")).perform begun = (.ok images, ready') ∧
      Ready pipeline.setting.reader.decoders root' rootPlace' made middle images session'
        ready' := by
  obtain ⟨rootPlace', fresh⟩ := making_ok pipeline session' begun root' sound making
  have peers : Peers root root' := ⟨readied.site.filled, fresh.site.filled, size⟩
  obtain ⟨place, _, copied, _⟩ := (read_eq_ok ..).mp readied.between.archive
  have copying := child_reached "input.apk" input_plain peers
    (readied.between.underway.root readied.site) copied fresh.leads fresh.underway.there
  have free := fresh.bare "input.apk" []
  obtain ⟨ready', preparing⟩ := prepared_done polite input (root' / "input.apk") begun made middle
    images _ (fresh.readable _ _ given) opened chosen copying (by simp [free])
  exact ⟨peers, ready', (ready_of_prepared polite.quiet input session' begun ready' images made
    middle sound given opened making preparing).imp fun _ readied' => ⟨preparing, readied'⟩⟩

theorem Ready.output
    (readied : Ready decoders root' rootPlace' file archive images session ready)
    (peers : Peers root root') {files after : Files} {spot : Place}
    (aside : Aside rootPlace' images ready.files after)
    (leads : files.resolve root = .ok rootPlace)
    (reached : files.resolve (root / "unsigned_modified.apk") = .ok spot) :
    after.resolve (root' / "unsigned_modified.apk") =
        .ok (rootPlace' ++ ["unsigned_modified.apk"]) ∧
      after.node? (rootPlace' ++ ["unsigned_modified.apk"]) = none := by
  refine ⟨child_reached _ unsigned_plain peers leads reached (readied.yard.leads _ aside)
    (aside.underway readied.between.underway).there, ?_⟩
  rw [aside.beside _ attemptName_unsigned, readied.between.bare _ [] (by decide)]

end

/-- Nothing stands in the place but one name. -/
def holdsOnly (name : String) (files : Files) (place : Place) : Bool :=
  (files.below place).all fun entry => entry.1 == [name]

/-- Tools for images that are texts already, and for trees that hold the one class only. -/
def soleTools : Toolbox where
  disassemble := plainTools.disassemble
  assemble tree image := do
    let place ← ask fun files => files.resolve tree
    if holdsOnly "A.smali" (← get).files place then plainTools.assemble tree image
    else throw (.assembly "more than one class")
  sign := plainTools.sign

theorem holdsOnly_iff (name : String) (files : Files) (place : Place) :
    holdsOnly name files place = true ↔
      ∀ first more, first :: more ≠ [name] → files.node? (place ++ first :: more) = none := by
  simp only [holdsOnly, List.all_eq_true, beq_iff_eq]
  constructor
  · intro all first more other
    rw [node_of_named _ _ (by simp), ← below_find place _ (List.cons_ne_nil _ _),
      Option.map_eq_none_iff, List.find?_eq_none]
    intro entry member same
    exact other ((beq_iff_eq.mp same).symm.trans (all entry member))
  · intro bare entry member
    by_contra other
    obtain ⟨first, more, named⟩ : ∃ first more, entry.1 = first :: more := by
      apply List.exists_cons_of_ne_nil
      rintro empty
      simp only [below, List.mem_filterMap] at member
      obtain ⟨listed, _, taken⟩ := member
      split at taken
      · rename_i longer
        cases taken
        simp at empty longer
        omega
      · cases taken
    have free := bare first more (named ▸ other)
    rw [node_of_named _ _ (by simp), ← below_find place _ (List.cons_ne_nil _ _),
      Option.map_eq_none_iff, List.find?_eq_none] at free
    exact free entry member (by simp [named])

theorem holdsOnly_alike (name : String) {left right : Place} {files files' : Files}
    (same : SameUnder left right files files') :
    holdsOnly name files left = holdsOnly name files' right := by
  rw [Bool.eq_iff_iff, holdsOnly_iff, holdsOnly_iff]
  refine forall₃_congr fun first more _ => ?_
  rw [← seen_free, ← seen_free, same (first :: more)]

theorem soleTools_assemble (tree image : Path) (session : Session) :
    (soleTools.assemble tree image).perform session =
      match session.files.resolve tree with
      | .error cause => (.error (.cause cause), session)
      | .ok place =>
          if holdsOnly "A.smali" session.files place then
            (plainTools.assemble tree image).perform session
          else (.error (.assembly "more than one class"), session) := by
  simp only [soleTools, perform_bind, perform_ask]
  cases session.files.resolve tree with
  | error cause => rfl
  | ok place =>
      simp only [Except.mapError, perform_get]
      cases holdsOnly "A.smali" session.files place <;> rfl

theorem soleTools_confined : Confined soleTools where
  disassemble := plainTools_confined.disassemble
  assemble tree image session place within := by
    rw [soleTools_assemble]
    split
    · exact SameOutside.refl _ _
    · split
      · exact plainTools_confined.assemble tree image session place within
      · exact SameOutside.refl _ _

theorem soleTools_standing : Standing soleTools where
  disassemble := plainTools_standing.disassemble
  assemble tree image session filled sound := by
    rw [soleTools_assemble]
    split
    · exact sound
    · split
      · exact plainTools_standing.assemble tree image session filled sound
      · exact sound

theorem soleTools_functional : Functional soleTools where
  disassemble := plainTools_functional.disassemble
  assemble session session' tree tree' image image' drawn rebuilt := by
    rw [soleTools_assemble, soleTools_assemble]
    rcases drawn.cases with ⟨left, right, same, reached, reached', _⟩ | ⟨barred, barred'⟩
    · rw [reached, reached']
      simp only [holdsOnly_alike "A.smali" same]
      split
      · exact plainTools_functional.assemble session session' tree tree' image image' drawn rebuilt
      · exact ⟨⟨⟨nofun, nofun⟩, fun _ => Iff.rfl⟩, rebuilt⟩
    · obtain ⟨cause, lost⟩ := refused _ barred
      obtain ⟨cause', lost'⟩ := refused _ barred'
      rw [lost, lost']
      exact ⟨sameAnswer_broken _ _ _ fun _ _ => nofun, rebuilt⟩

theorem soleTools_returning : Returning soleTools := by
  intro given built session tree rebuilt extracted tree' place place' content assembled reached
    there wrote read reached' there' bare peers
  rw [soleTools_assemble, reached] at assembled
  simp only at assembled
  split at assembled
  · rename_i only
    simp only [plainTools, bind_eq_ok, ask_eq_ok, change_eq_ok] at assembled
    obtain ⟨text, _, ⟨taken, rfl⟩, _, written, rfl⟩ := assembled
    obtain rfl : text = content := Except.ok.inj ((write_read _ _ _ _ written).symm.trans wrote)
    obtain ⟨spot, mode, leads, node⟩ := (read_eq_ok ..).mp taken
    obtain ⟨rfl, _⟩ := resolve_child _ _ _ _ _ plainClass_plain reached leads
    have leads' := child_reached "A.smali" plainClass_plain peers reached leads reached' there'
    obtain ⟨mode', drew⟩ := write_of_place session.files (tree' / "A.smali") text _ leads'
      (by rw [bare "A.smali" []]; simp)
    refine ⟨{ session with files := session.files.put (place' ++ ["A.smali"]) (.file text mode') },
      ?_, fun names => ?_⟩
    · simp only [soleTools, plainTools, bind_eq_ok, ask_eq_ok, change_eq_ok]
      exact ⟨.directory, session, ⟨(find_eq_ok ..).mpr ⟨place', reached', there'⟩, rfl⟩, text,
        session, ⟨read, rfl⟩, _, drew, rfl⟩
    · rw [seen, seen, node_put _ _ _ _ (by simp)]
      cases names with
      | nil => simp [there, there']
      | cons first more =>
          by_cases own : first :: more = ["A.smali"]
          · simp [own, node, Node.shown]
          · rw [(holdsOnly_iff ..).mp only first more own, if_neg (by simpa using own),
              bare first more]
  · cases assembled

def solePipeline : Pipeline :=
  { givenPipeline with setting := { givenPipeline.setting with toolbox := soleTools } }

def soleSession (archive : Bytes) : Session :=
  { givenSession with
    files := ⟨[(["tmp"], .directory), (["in.apk"], .file archive newFileMode)], []⟩ }

def soleHanding? : Option Handing :=
  handing? solePipeline ⟨0, ["in.apk"]⟩ (soleSession givenArchive)

def soleHanded : Bytes := (soleHanding?.map Handing.handed).getD []

theorem solePipeline_comparable : Comparable solePipeline.setting :=
  ⟨rfl, givenPipeline_comparable.polite, soleTools_confined, soleTools_functional,
    givenPipeline_comparable.target⟩

theorem givenPatch_recurrent : Recurrent givenPatch where
  distinct := by decide +kernel
  framed := ⟨by decide +kernel, by decide +kernel, by decide +kernel⟩

theorem soleSession_sound (archive : Bytes) : (soleSession archive).files.Sound := by
  intro place name there
  cases place with
  | nil => rfl
  | cons first more =>
      exfalso
      apply there
      simp [soleSession, node?]

/-- A run on the archive that an earlier run handed to its signer patches the same entry, and hands
its signer the same archive again, from where it is signed. Its directory can be made, with a path
as long as that of the earlier run's, as numbered names in one place have. -/
theorem run_repeats (pipeline : Pipeline) (comparable : Comparable pipeline.setting)
    (standing : Standing pipeline.setting.toolbox) (returning : Returning pipeline.setting.toolbox)
    (recurrent : Recurrent pipeline.setting.patch) (inverts : Deflate.Inverts pipeline.deflate)
    (steady : Zip.Steady pipeline.setting.reader.decoders) (input input' root : Path)
    (session session' begun : Session) (file : Bytes) (archive middle : Zip.Archive)
    (handing : Handing) (sound : session.files.Sound) (sound' : session'.files.Sound)
    (given : session.files.read input = .ok file)
    (read : Zip.readWith pipeline.setting.reader.decoders file = .ok archive)
    (apart : (archive.names.filterMap (Apk.rank? Apk.defaultBase Apk.defaultExtension)).Nodup)
    (done : handing? pipeline input session = some handing)
    (opened : Zip.readWith pipeline.setting.reader.decoders handing.handed = .ok middle)
    (given' : session'.files.read input' = .ok handing.handed)
    (making : (pipeline.making session').perform session' = (.ok root, begun))
    (size : handing.root.text.utf8ByteSize = root.text.utf8ByteSize) :
    ∃ again, handing? pipeline input' session' = some again ∧ again.image = handing.image ∧
      again.handed = handing.handed ∧
      ∀ output material, (pipeline.run input' output material).perform session' =
          (again.signing pipeline output material).perform again.session ∧
        ∀ report after,
          (pipeline.run input' output material).perform session' = (.ok report, after) →
          report.isSuccess = true ∨ report.cause? = some .signingError →
            report.patchedEntry? = some handing.image.entry := by
  have polite := comparable.polite
  obtain ⟨images, path, rebuilt, made, ready, handover⟩ := (handing_eq_some ..).mp done
  obtain ⟨rootPlace, readied⟩ := ready_of_prepared polite.quiet input session made ready images file
    archive sound given read handover.making handover.preparing
  have yard := readied.yard
  have won := handover.won
  have aside := search_aside yard comparable standing images (fun _ member => member) _ won
  have member := search_member yard comparable standing images (fun _ member => member) _ won
  obtain ⟨content, _, _, clock, spot, promoted, there, same, rebuilding, reached, written⟩ :=
    rebuiltAround_ok polite.quiet handing.image path _ handing.session rebuilt handover.around
  cases (yard.archive _ aside).symm.trans there
  cases read.symm.trans same
  have handed : rebuilt.bytes = handing.handed := Except.ok.inj (written.symm.trans handover.handed)
  rw [← handed] at opened given'
  -- The rebuilt archive offers the same images, and for all but the winner the same contents.
  have successor := readied.successor _ handing.image member rfl rebuilt inverts steady rebuilding
    opened
  have distinct := readied.priorities apart
  have chosen := successor.images archive middle images handing.image read opened readied.chosen
    distinct member rfl
  obtain ⟨peers, ready', rootPlace', preparing, readied'⟩ := readied.elsewhere polite input' begun
    sound' given' opened chosen making size
  have yard' := readied'.yard
  obtain ⟨path', won', promoted'⟩ := search_again yard yard' comparable standing recurrent returning
    (fun image _ => peers.child _ (attemptName_plain image))
    (fun other among differs content => successor.others other.entry content differs
      (Apk.selectImages_unsigned _ _ readied.chosen other among))
    successor.new images (fun _ member => member)
    (Apk.selectImages_distinct _ _ readied.chosen distinct) won promoted
  have aside' := search_aside yard' comparable standing images (fun _ member => member) _ won'
  obtain ⟨output, free⟩ := readied'.output peers aside' (yard.leads _ aside) reached
  obtain ⟨rebuilt', after, around, written'⟩ := rebuiltAround_done polite handing.image path' _
    content _ _ middle _ promoted' (yard'.archive _ aside') opened
    (fun _ => successor.again middle _ opened rfl rfl rfl) output free
  have again : handing? pipeline input' session' = some ⟨root, handing.image,
      (pipeline.found root ready' images).attempts, rebuilt.bytes, after⟩ :=
    (handing_eq_some ..).mpr ⟨images, path', rebuilt', begun, ready', making, preparing, won', rfl,
      around, written'⟩
  refine ⟨_, again, rfl, handed, fun output material => ⟨handing_onward again output material,
    fun report after done ended => ?_⟩⟩
  obtain ⟨found, same, entry⟩ :=
    run_hands polite.quiet input' output material session' after report done ended
  cases again.symm.trans same
  exact entry

theorem soleHanding_found : ∃ archive middle handing,
    Zip.readWith Zip.noDecoders givenArchive = .ok archive ∧
      (archive.names.filterMap (Apk.rank? Apk.defaultBase Apk.defaultExtension)).Nodup ∧
      handing? solePipeline ⟨0, ["in.apk"]⟩ (soleSession givenArchive) = some handing ∧
      handing.image.entry = "classes.dex" ∧ soleHanded = handing.handed ∧
      handing.root = ⟨1, ["tmp", "apk_processing_00000000"]⟩ ∧
      Zip.readWith Zip.noDecoders handing.handed = .ok middle := by
  have ranks : (Zip.readWith Zip.noDecoders givenArchive).toOption.map (fun archive =>
      archive.names.filterMap (Apk.rank? Apk.defaultBase Apk.defaultExtension)) = some [1] := by
    decide +kernel
  have works : (soleHanding?.any fun handing =>
      handing.root = ⟨1, ["tmp", "apk_processing_00000000"]⟩ &&
        handing.image.entry = "classes.dex" &&
        (Zip.readWith Zip.noDecoders handing.handed).toOption.isSome) = true := by
    decide +kernel
  obtain ⟨archive, opened, ranked⟩ := Option.map_eq_some_iff.mp ranks
  obtain ⟨handing, found, shown⟩ := (Option.any_eq_true ..).mp works
  simp only [Bool.and_eq_true, decide_eq_true_eq] at shown
  obtain ⟨⟨rooted, named⟩, readable⟩ := shown
  obtain ⟨middle, again⟩ := Checked.ok_of_isSome readable
  refine ⟨archive, middle, handing, Checked.ok_of_toOption opened, by simp [ranked], found, named, ?_,
    rooted, again⟩
  rw [soleHanded, found]
  rfl

theorem run_repeats_given :
    Comparable solePipeline.setting ∧ Standing soleTools ∧ Returning soleTools ∧
      Recurrent givenPatch ∧ Zip.Steady Zip.noDecoders ∧
      ∃ archive middle handing,
        Zip.readWith Zip.noDecoders givenArchive = .ok archive ∧
        (archive.names.filterMap (Apk.rank? Apk.defaultBase Apk.defaultExtension)).Nodup ∧
        handing? solePipeline ⟨0, ["in.apk"]⟩ (soleSession givenArchive) = some handing ∧
        handing.image.entry = "classes.dex" ∧
        Zip.readWith Zip.noDecoders handing.handed = .ok middle ∧
        ∃ again, handing? solePipeline ⟨0, ["in.apk"]⟩ (soleSession handing.handed) = some again ∧
          again.image = handing.image ∧ again.handed = handing.handed := by
  obtain ⟨archive, middle, handing, read, apart, found, named, handed, rooted, again⟩ :=
    soleHanding_found
  have making := perform_of_toOption (solePipeline.making (soleSession soleHanded))
    (soleSession soleHanded) ⟨1, ["tmp", "apk_processing_00000000"]⟩ (by decide +kernel)
  rw [handed] at making
  obtain ⟨next, repeated, image, same, _⟩ := run_repeats solePipeline solePipeline_comparable
    soleTools_standing soleTools_returning givenPatch_recurrent Apk.greeting_inverts
    Zip.noDecoders_steady ⟨0, ["in.apk"]⟩ ⟨0, ["in.apk"]⟩ _ (soleSession givenArchive)
    (soleSession handing.handed) _ givenArchive archive middle handing (soleSession_sound _)
    (soleSession_sound _) rfl read apart found again rfl making (by rw [rooted])
  exact ⟨solePipeline_comparable, soleTools_standing, soleTools_returning, givenPatch_recurrent,
    Zip.noDecoders_steady, archive, middle, handing, read, apart, found, named, again, next, repeated,
    image, same⟩

theorem handing_room {pipeline : Pipeline} {input : Path} {session : Session} {handing : Handing}
    (done : handing? pipeline input session = some handing) :
    (handing.root / "unsigned_modified.apk").text.utf8ByteSize < pathLimit := by
  obtain ⟨_, _, _, _, _, handover⟩ := (handing_eq_some ..).mp done
  obtain ⟨_, _, reached, _⟩ := (read_eq_ok ..).mp handover.handed
  exact ((resolve_eq_ok ..).mp reached).1.2

/-- The session with an archive to be tried, but with a long path to the place for directories. -/
def farSession (rounds : Nat) (archive : Bytes) : Session :=
  { soleSession archive with temporary := roundabout rounds }

theorem farSession_making (rounds : Nat) (archive : Bytes) (short : 28 + 7 * rounds < pathLimit) :
    ∃ begun, (solePipeline.making (farSession rounds archive)).perform (farSession rounds archive) =
      (.ok (roundabout rounds / "apk_processing_00000000"), begun) := by
  have plain : PlainName "apk_processing_00000000" := temporary_plain "apk_processing_" 0
    (Text.whole_of_all _ _ (by decide)) (by decide)
  have leads : (farSession rounds archive).files.resolve (roundabout rounds) = .ok ["tmp"] :=
    roundabout_leads rounds _ rfl (by omega)
  have named : "apk_processing_00000000".utf8ByteSize = 23 := by decide
  obtain ⟨filled, _, size⟩ := roundabout_text rounds
  obtain ⟨place, reached⟩ := (resolves_child _ _ "apk_processing_00000000" _ plain leads rfl).mpr
    ⟨by decide, by rw [child_size _ _ plain filled, size, named]; omega, by rw [named]; decide⟩
  obtain ⟨rfl, _⟩ := resolve_child _ _ _ _ _ plain leads reached
  -- The first of the numbered names is free.
  have free : freeName (farSession rounds archive).files (roundabout rounds) "apk_processing_" 3 =
      roundabout rounds / "apk_processing_00000000" := by
    have found := find_of_resolve _ _ _ reached
    rw [freeName, List.range_succ_eq_map, List.map_cons, List.find?_cons_of_pos]
    · rfl
    · have first : "apk_processing_" ++ suffix 0 = "apk_processing_00000000" := by decide
      rw [first, found]
      rfl
  have made := makeDirectory_free _ _ _ reached rfl (child_filled _ _ plain)
  refine ⟨{ farSession rounds archive with
    files := (farSession rounds archive).files.put
      (["tmp"] ++ ["apk_processing_00000000"]) .directory }, ?_⟩
  simp only [Pipeline.making, makeTemporary, bind_eq_ok, get_eq_ok, change_eq_ok, pure_eq_ok]
  exact ⟨_, _, ⟨rfl, rfl⟩, (), _, ⟨_, free ▸ made, rfl⟩, free, rfl⟩

theorem farSession_root (rounds : Nat) (archive : Bytes) (root : Path) (begun : Session)
    (making : (solePipeline.making (farSession rounds archive)).perform (farSession rounds archive) =
      (.ok root, begun)) :
    root.parts ≠ [] ∧ 20 + 7 * rounds ≤ root.text.utf8ByteSize ∧
      root.text.utf8ByteSize < pathLimit := by
  have whole : ∀ c ∈ "apk_processing_".toList, c ≠ '/' := Text.whole_of_all _ _ (by decide)
  obtain ⟨_, _, _, _, reached, _⟩ := makeTemporary_ok _ _ _ _ _ whole (by decide) making
  obtain ⟨⟨_, room⟩, _⟩ := (resolve_eq_ok ..).mp reached
  obtain ⟨number, named⟩ := makeTemporary_numbered (roundabout rounds) _ _ _ _ making
  have plain := temporary_plain "apk_processing_" number whole (by decide)
  obtain ⟨filled, _, size⟩ := roundabout_text rounds
  have stem : "apk_processing_".utf8ByteSize = 15 := by decide
  refine ⟨named ▸ child_filled _ _ plain, ?_, room⟩
  rw [named, child_size _ _ plain filled, size, String.utf8ByteSize_append, stem]
  omega

theorem farSession_stops (rounds : Nat) (archive : Bytes) (input : Path)
    (long : pathLimit ≤ 42 + 7 * rounds) :
    handing? solePipeline input (farSession rounds archive) = none := by
  rw [Option.eq_none_iff_forall_not_mem]
  intro handing done
  obtain ⟨_, _, _, _, _, handover⟩ := (handing_eq_some ..).mp done
  obtain ⟨filled, least, _⟩ := farSession_root rounds archive _ _ handover.making
  have room := handing_room done
  have behind : "unsigned_modified.apk".utf8ByteSize = 21 := by decide
  rw [child_size _ _ unsigned_plain filled, behind] at room
  omega

/-- A run elsewhere need not come to its signer. Its directory may have a path so long that nothing
in it can be named, or not be made at all. -/
theorem run_stopped_elsewhere :
    Comparable solePipeline.setting ∧ Standing soleTools ∧ Returning soleTools ∧
      Recurrent givenPatch ∧ Deflate.Inverts solePipeline.deflate ∧ Zip.Steady Zip.noDecoders ∧
      ∃ archive middle handing,
        Zip.readWith Zip.noDecoders givenArchive = .ok archive ∧
        (archive.names.filterMap (Apk.rank? Apk.defaultBase Apk.defaultExtension)).Nodup ∧
        handing? solePipeline ⟨0, ["in.apk"]⟩ (soleSession givenArchive) = some handing ∧
        Zip.readWith Zip.noDecoders handing.handed = .ok middle ∧
        (∀ rounds, (farSession rounds handing.handed).files = (soleSession handing.handed).files) ∧
        (∃ root begun, (solePipeline.making (farSession 580 handing.handed)).perform
          (farSession 580 handing.handed) = (.ok root, begun)) ∧
        handing? solePipeline ⟨0, ["in.apk"]⟩ (farSession 580 handing.handed) = none ∧
        (∀ root begun, (solePipeline.making (farSession 583 handing.handed)).perform
          (farSession 583 handing.handed) ≠ (.ok root, begun)) ∧
        handing? solePipeline ⟨0, ["in.apk"]⟩ (farSession 583 handing.handed) = none := by
  obtain ⟨archive, middle, handing, read, apart, found, _, _, _, again⟩ := soleHanding_found
  obtain ⟨begun, making⟩ := farSession_making 580 handing.handed (by decide)
  refine ⟨solePipeline_comparable, soleTools_standing, soleTools_returning, givenPatch_recurrent,
    Apk.greeting_inverts, Zip.noDecoders_steady, archive, middle, handing, read, apart, found, again,
    fun _ => rfl, ⟨_, _, making⟩, farSession_stops 580 _ _ (by decide), fun root begun made => ?_,
    farSession_stops 583 _ _ (by decide)⟩
  obtain ⟨_, least, most⟩ := farSession_root 583 _ root begun made
  exact absurd (least.trans_lt most) (by decide)

end DexGraft.Search
