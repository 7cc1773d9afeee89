import DexGraft.Proofs.Files.Destination
import DexGraft.Proofs.Search.Calls
import DexGraft.Proofs.Search.Course

/-!
The archive in the run's directory. Attempts work beside it, and a class may be
rewritten anywhere: such a rewrite touches files with the names of classes and of
their temporary files, so it never reaches the archive or takes a directory away.
-/
namespace DexGraft

theorem Smali.extended_down (stem : List Char) :
    String.ofList (stem ++ Smali.fileExtension) ≠ ".." := by
  intro same
  have size := congrArg (fun name => name.toList.length) same
  simp [Smali.fileExtension] at size

theorem Smali.classFile_parts (target : String) :
    ∃ above last, (Path.ofText (Smali.classFile target)).parts =
      above ++ [String.ofList (last ++ Smali.fileExtension)] := by
  have ending : ∃ front, (Smali.classFile target).toList = front ++ Smali.fileExtension := by
    unfold Smali.classFile
    extract_lets stripped
    split
    · rename_i there
      obtain ⟨front, same⟩ := List.isSuffixOf_iff_suffix.mp there
      exact ⟨front, by rw [String.toList_ofList, same]⟩
    · exact ⟨_, String.toList_ofList⟩
  obtain ⟨front, same⟩ := ending
  obtain ⟨before, last, cut⟩ :=
    Text.splitAt_ending '/' front Smali.fileExtension (Text.whole_of_all _ _ (by decide))
  have filled : String.ofList (last ++ Smali.fileExtension) ≠ "" ∧
      String.ofList (last ++ Smali.fileExtension) ≠ "." := by
    constructor
    all_goals
      intro same
      have size := congrArg (fun name => name.toList.length) same
      simp [Smali.fileExtension] at size
  refine ⟨(before.map String.ofList).filter fun part => part != "" && part != ".", last, ?_⟩
  simp only [Path.ofText, Path.partsOf, same, cut, List.map_append, List.map_cons, List.map_nil,
    List.filter_append]
  generalize String.ofList (last ++ Smali.fileExtension) = name at filled ⊢
  simp [filled]

theorem Smali.classFile_name (tree : Path) (target : String) :
    ∃ above last, (tree / Smali.classFile target).parts =
      above ++ [String.ofList (last ++ Smali.fileExtension)] := by
  obtain ⟨above, last, parts⟩ := Smali.classFile_parts target
  change ∃ above last, (tree.join (Path.ofText (Smali.classFile target))).parts = _
  unfold Path.join
  split
  · exact ⟨above, last, parts⟩
  · exact ⟨tree.parts ++ above, last, by simp [parts]⟩

namespace Search

open Files DexGraft.Action

/-- The archive is in the run's directory, and no directory has gone since that was made. -/
structure Pinned (made : Files) (rootPlace : Place) (file : Bytes) (files : Files) : Prop where
  here : files.here = made.here
  directories : ∀ other, made.node? other = some .directory →
    files.node? other = some .directory
  archive : ∃ mode, files.node? (rootPlace ++ ["input.apk"]) = some (.file file mode)

section

variable {session made : Session} {root : Path} {rootPlace : Place} {file : Bytes}
  {files after : Files} {calls : List Event} {allowed : Fault → Prop}

theorem Opened.leads (opened : Opened session made root rootPlace) :
    made.files.resolve root = .ok rootPlace :=
  opened.underway.root opened.site

theorem Pinned.leads (pinned : Pinned made.files rootPlace file files)
    (opened : Opened session made root rootPlace) : files.resolve root = .ok rootPlace :=
  resolve_mono _ _ _ _ pinned.here pinned.directories opened.leads

theorem Pinned.there (pinned : Pinned made.files rootPlace file files)
    (opened : Opened session made root rootPlace) : files.node? rootPlace = some .directory :=
  pinned.directories _ opened.underway.there

theorem Pinned.read (pinned : Pinned made.files rootPlace file files)
    (opened : Opened session made root rootPlace) (content : Bytes)
    (read : files.read (root / "input.apk") = .ok content) : content = file := by
  obtain ⟨place, mode, reached, node⟩ := (read_eq_ok ..).mp read
  obtain ⟨rfl, _⟩ := resolve_child _ root _ _ place input_plain (pinned.leads opened) reached
  obtain ⟨_, archive⟩ := pinned.archive
  rw [archive] at node
  cases node
  rfl

theorem Pinned.outside (pinned : Pinned made.files rootPlace file files)
    (opened : Opened session made root rootPlace) {name : String} {more : Place}
    (apart : name ≠ "input.apk") (same : SameOutside (rootPlace ++ name :: more) files after) :
    Pinned made.files rootPlace file after := by
  obtain ⟨mode, archive⟩ := pinned.archive
  refine ⟨same.here.trans pinned.here, fun other there => ?_, mode, ?_⟩
  · rw [same.rest, pinned.directories other there]
    rintro ⟨rest, rfl⟩
    rw [List.append_assoc, List.cons_append, opened.bare] at there
    cases there
  · rw [same.rest, archive]
    rw [List.prefix_append_right_inj, List.cons_prefix_cons]
    exact fun under => apart under.1

theorem Between.pinned (between : Between session.files root rootPlace file files)
    (opened : Opened session made root rootPlace) : Pinned made.files rootPlace file files := by
  obtain ⟨place, mode, reached, node⟩ := (read_eq_ok ..).mp between.archive
  obtain ⟨rfl, _⟩ := resolve_child _ root _ _ place input_plain
    (between.underway.root opened.site) reached
  have outside := opened.underway.outside
  refine ⟨between.underway.outside.here.trans outside.here.symm, fun other there => ?_, mode, node⟩
  by_cases under : rootPlace <+: other
  · obtain ⟨more, rfl⟩ := under
    cases more with
    | nil => simpa using between.underway.there
    | cons name more =>
        rw [opened.bare] at there
        cases there
  · rw [between.underway.outside.rest other under, ← outside.rest other under, there]

theorem pinned_held (opened : Opened session made root rootPlace) {path : Path} {name : String}
    {more : Place} (spot : destination made.files.here path = rootPlace ++ name :: more)
    (apart : name ≠ "input.apk") :
    Held (At (Pinned made.files rootPlace file) calls) path (rootPlace ++ name :: more) where
  named := by simp
  leads session place before reached := by
    rw [resolve_destination _ _ _ reached, before.files.here, spot]
  under session files before same := ⟨before.files.outside opened apart same, before.calls⟩

theorem Opened.spot (opened : Opened session made root rootPlace) {image : Apk.Image} :
    destination made.files.here (scratchOf root image) = rootPlace ++ [attemptName image] := by
  change destination made.files.here (root / attemptName image) = _
  rw [destination_child _ _ _ (attemptName_plain _),
    ← resolve_destination _ _ _ opened.leads]

theorem Opened.scratch (opened : Opened session made root rootPlace) {image : Apk.Image} :
    Held (At (Pinned made.files rootPlace file) calls) (scratchOf root image)
      (rootPlace ++ [attemptName image]) :=
  pinned_held opened opened.spot (attemptName_apart image)

theorem Opened.inner (opened : Opened session made root rootPlace) {image : Apk.Image}
    (name : String) (plain : PlainName name) :
    Held (At (Pinned made.files rootPlace file) calls) (scratchOf root image / name)
      (rootPlace ++ [attemptName image, name]) := by
  refine pinned_held opened ?_ (attemptName_apart image)
  rw [destination_child _ _ _ plain, opened.spot, List.append_assoc]
  rfl

theorem Pinned.stored (pinned : Pinned made.files rootPlace file files)
    (opened : Opened session made root rootPlace) (tree : Path) (target : String)
    (old content : Bytes) (readable : files.read (tree / Smali.classFile target) = .ok old)
    (room : Smali.HasRoom files (tree / Smali.classFile target))
    (stored : Smali.Stored files after (tree / Smali.classFile target) content) :
    Pinned made.files rootPlace file after := by
  obtain ⟨above, last, parts⟩ := Smali.classFile_name tree target
  obtain ⟨place, mode, reached, node⟩ := (read_eq_ok ..).mp readable
  obtain ⟨temporary, beside, named, found, swapped⟩ := stored.swapped place reached
  obtain ⟨_, _, named', found', open_⟩ := room
  rw [named] at named'
  cases named'
  rw [found] at found'
  cases found'
  obtain ⟨parent, _, _, spot⟩ :=
    resolve_named files _ place above _ parts (Smali.extended_down last) reached
  obtain ⟨folder, _, _, _, _, spotted, _⟩ :=
    Smali.temporary_beside files _ temporary place beside named reached found
  -- The temporary file is no directory, so it is not on the way to one that was there.
  have clear : ∀ other, made.files.node? other = some .directory → ¬beside <+: other :=
    fun other there covers => open_ (pinned.directories _ (opened.sound.above other there _ covers))
  have apart : rootPlace ++ ["input.apk"] ≠ place := by
    intro same
    rw [spot] at same
    have names := (List.append_inj' same rfl).2
    have ends := congrArg (fun names => names.map fun name => name.toList.getLast?) names
    simp [Smali.fileExtension] at ends
  obtain ⟨archiveMode, archive⟩ := pinned.archive
  refine ⟨swapped.here.trans pinned.here, fun other there => ?_, archiveMode, ?_⟩
  · rw [swapped.rest other _ (clear other there), pinned.directories other there]
    rintro rfl
    rw [pinned.directories _ there] at node
    cases node
  · rw [swapped.rest _ apart, archive]
    intro covers
    rw [spotted, List.prefix_concat_iff] at covers
    rcases covers with same | covers
    · have names := (List.append_inj' same rfl).2
      have starts := congrArg (fun names => names.map fun name => name.toList.head?) names
      change [("." ++ _ ++ ".tmp").toList.head?] = [_] at starts
      simp at starts
    · rw [← spotted] at covers
      exact clear rootPlace opened.underway.there covers

end

end Search
end DexGraft
