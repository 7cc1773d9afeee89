import DexGraft.Proofs.Search.Confined

/-!
Where a run works. Its directory stands where nothing stood before, each attempt
has a directory of its own in it, and whatever happens inside leaves the paths to
both of them as they are.
-/
namespace DexGraft.Search

open Files DexGraft.Action

structure Site (begun : Files) (root : Path) (rootPlace : Place) : Prop where
  child : ∃ (base : Path) (name : String), PlainName name ∧ root = base / name
  reached : begun.resolve root = .ok rootPlace
  free : begun.node? rootPlace = none

/-- The run has its directory and has changed nothing outside it. -/
structure Underway (begun : Files) (rootPlace : Place) (files : Files) : Prop where
  outside : SameOutside rootPlace begun files
  there : files.node? rootPlace = some .directory

theorem Underway.root {begun files : Files} {root : Path} {rootPlace : Place}
    (underway : Underway begun rootPlace files) (site : Site begun root rootPlace) :
    files.resolve root = .ok rootPlace := by
  obtain ⟨base, name, plain, rfl⟩ := site.child
  refine resolve_fresh begun files (base / name) rootPlace base.parts name ?_ plain.down site.free
    underway.outside site.reached
  rw [child_eq base name plain]

theorem Underway.step {begun files after : Files} {rootPlace : Place}
    (underway : Underway begun rootPlace files) (name : String) (more : Place)
    (same : SameOutside (rootPlace ++ name :: more) files after) :
    Underway begun rootPlace after := by
  refine ⟨underway.outside.trans (same.wider (List.prefix_append _ _)), ?_⟩
  rw [same.rest _ (not_prefix_above rootPlace name more), underway.there]

/-- What an attempt does in its own directory leaves the archive as it is. -/
theorem archive_kept {begun : Files} {root : Path} {rootPlace : Place} {file : Bytes}
    (before after : Files) (name : String) (apart : name ≠ "input.apk")
    (site : Site begun root rootPlace) (early : Underway begun rootPlace before)
    (same : SameOutside (rootPlace ++ [name]) before after)
    (archive : before.read (root / "input.apk") = .ok file) :
    after.read (root / "input.apk") = .ok file := by
  obtain ⟨place, mode, reached, node⟩ := (read_eq_ok ..).mp archive
  obtain ⟨rfl, _⟩ := resolve_child _ root _ _ place input_plain (early.root site) reached
  have later := early.step name [] same
  refine (read_eq_ok ..).mpr ⟨_, mode, resolve_child_again before after root _ _ _ input_plain
    reached (later.root site) later.there, ?_⟩
  rw [same.rest _ fun under => ?_, node]
  have equal := under.eq_of_length (by simp)
  simp only [List.append_cancel_left_eq, List.cons.injEq, and_true] at equal
  exact apart equal

def attemptName (image : Apk.Image) : String :=
  "dex_attempt_" ++ image.stem

def extractedOf (root : Path) (image : Apk.Image) : Path :=
  scratchOf root image / imageName image

def rebuiltOf (root : Path) (image : Apk.Image) : Path :=
  scratchOf root image / ("modified_" ++ imageName image)

theorem imageName_customary {image : Apk.Image} (customary : image.Customary) :
    imageName image = image.entry := by
  rw [imageName, customary.plain.single]
  rfl

theorem attemptName_plain (image : Apk.Image) : PlainName (attemptName image) :=
  joined_plain _ _ (by decide) (Text.whole_of_all _ _ (by decide)) (stem_whole image.entry)

theorem modified_plain {name : String} (plain : PlainName name) : PlainName ("modified_" ++ name) :=
  joined_plain _ _ (by decide) (Text.whole_of_all _ _ (by decide)) plain.whole

def attemptNames (image : Apk.Image) : List String :=
  [imageName image, "smali", "modified_" ++ imageName image]

theorem attemptNames_plain {image : Apk.Image} (plain : PlainName (imageName image)) :
    ∀ name ∈ attemptNames image, PlainName name := by
  simp only [attemptNames, List.mem_cons, List.not_mem_nil, or_false]
  rintro name (rfl | rfl | rfl)
  · exact plain
  · exact smali_plain
  · exact modified_plain plain

theorem plainImage {image : Apk.Image} (customary : image.Customary) :
    PlainName (imageName image) := by
  rw [imageName_customary customary]
  exact customary.plain

theorem modified_apart (name : String) : "modified_" ++ name ≠ name := by
  intro same
  have size := congrArg String.length same
  simp at size

theorem modified_tree (name : String) : "modified_" ++ name ≠ "smali" := by
  intro same
  have first := congrArg (fun name => name.toList.head?) same
  simp at first

theorem attemptName_apart (image : Apk.Image) : attemptName image ≠ "input.apk" := by
  intro same
  have first := congrArg (fun name => name.toList.head?) same
  simp [attemptName] at first

theorem image_apart {image : Apk.Image} (customary : image.Customary) :
    image.entry ≠ "smali" ∧ "modified_" ++ image.entry ≠ "smali" ∧
      "modified_" ++ image.entry ≠ image.entry := by
  obtain ⟨rest, spelled, _⟩ := customary.spelled
  refine ⟨?_, ?_, ?_⟩
  · intro same
    rw [same] at spelled
    simp at spelled
  · exact modified_tree image.entry
  · exact modified_apart image.entry

/-- An attempt has its directory and has changed nothing outside it. -/
structure Working (root : Path) (rootPlace : Place) (image : Apk.Image) (prior files : Files) :
    Prop where
  outside : SameOutside (rootPlace ++ [attemptName image]) prior files
  there : files.node? (rootPlace ++ [attemptName image]) = some .directory
  reached : files.resolve (scratchOf root image) = .ok (rootPlace ++ [attemptName image])

section

variable {begun prior files after : Files} {root : Path} {rootPlace : Place} {image : Apk.Image}

theorem Working.underway (working : Working root rootPlace image prior files)
    (early : Underway begun rootPlace prior) : Underway begun rootPlace files :=
  early.step (attemptName image) [] working.outside

theorem Working.step (working : Working root rootPlace image prior files)
    (site : Site begun root rootPlace) (early : Underway begun rootPlace prior) (name : String)
    (same : SameOutside (rootPlace ++ [attemptName image] ++ [name]) files after) :
    Working root rootPlace image prior after := by
  have outside := working.outside.trans (same.wider (List.prefix_append _ _))
  have underway : Underway begun rootPlace after := early.step (attemptName image) [] outside
  refine ⟨outside, ?_, ?_⟩
  · rw [same.rest _ (not_prefix_above _ name []), working.there]
  · exact resolve_child_again files after root (attemptName image) rootPlace _
      (attemptName_plain _) working.reached (underway.root site) underway.there

theorem Working.child (working : Working root rootPlace image prior files) (name : String)
    (plain : PlainName name) (place : Place)
    (reached : files.resolve (scratchOf root image / name) = .ok place) :
    place = rootPlace ++ [attemptName image] ++ [name] :=
  (resolve_child files _ name _ place plain working.reached reached).1

theorem Working.child_again (working : Working root rootPlace image prior files) (once : Files)
    (name : String) (plain : PlainName name) (place : Place)
    (reached : once.resolve (scratchOf root image / name) = .ok place) :
    files.resolve (scratchOf root image / name) =
      .ok (rootPlace ++ [attemptName image] ++ [name]) :=
  resolve_child_again once files _ name _ place plain reached working.reached working.there

theorem Working.find_other (later : Working root rootPlace image prior after)
    (working : Working root rootPlace image prior files) (changed name : String)
    (plain : PlainName name) (apart : name ≠ changed)
    (same : SameOutside (rootPlace ++ [attemptName image] ++ [changed]) files after)
    (node : Node) (there : files.find (scratchOf root image / name) = .ok node) :
    after.find (scratchOf root image / name) = .ok node := by
  obtain ⟨place, reached, found⟩ := (find_eq_ok ..).mp there
  obtain rfl := working.child name plain place reached
  refine (find_eq_ok ..).mpr ⟨_, later.child_again files name plain _ reached, ?_⟩
  rw [same.rest _ fun under => ?_, found]
  have equal := under.eq_of_length (by simp)
  simp only [List.append_cancel_left_eq, List.cons.injEq, and_true] at equal
  exact apart equal.symm

theorem Working.read_other (later : Working root rootPlace image prior after)
    (working : Working root rootPlace image prior files) (changed name : String)
    (plain : PlainName name) (apart : name ≠ changed)
    (same : SameOutside (rootPlace ++ [attemptName image] ++ [changed]) files after)
    (content : Bytes) (there : files.read (scratchOf root image / name) = .ok content) :
    after.read (scratchOf root image / name) = .ok content := by
  obtain ⟨place, mode, reached, node⟩ := (read_eq_ok ..).mp there
  obtain ⟨goal, leads, file⟩ := (find_eq_ok ..).mp (later.find_other working changed name plain
    apart same _ ((find_eq_ok ..).mpr ⟨place, reached, node⟩))
  exact (read_eq_ok ..).mpr ⟨goal, mode, leads, file⟩

end

end DexGraft.Search
