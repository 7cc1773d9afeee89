import DexGraft.Proofs.Files.Standing
import DexGraft.Proofs.Search.Tidy

/-!
The directory of a patched image. The image is extracted and the tree made beside it;
what the assembler left takes the place of the extracted image, and the tree is cleared
away, so that nothing else stays.
-/
namespace DexGraft.Search

open Files DexGraft.Action

structure Staged (prior : Files) (place : Place) (image : Apk.Image) (files : Files) : Prop where
  tidy : Tidy prior place (attemptNames image) files
  apart : imageName image ≠ "smali"
  leaf : files.node? (place ++ [imageName image]) ≠ some .directory
  bare : ∀ name more, files.node? (place ++ imageName image :: name :: more) = none

/-- What the assembler left, a file or a directory, stands under the image's name. -/
structure Installed (scratch : Path) (name : String) (place : Place)
    (made after : Files) : Prop where
  reached : after.resolve scratch = .ok place
  there : after.node? place = some .directory
  left : made.resolve (scratch / ("modified_" ++ name)) = .ok (place ++ ["modified_" ++ name])
  stands : after.resolve (scratch / name) = .ok (place ++ [name])
  moved : Moved made (place ++ ["modified_" ++ name]) after (place ++ [name])

/-- Nothing else is in the directory, unless the disassembler left no directory where it was given
one. -/
structure Alone (scratch : Path) (name : String) (place : Place) (drawn made after : Files) : Prop
    extends Installed scratch name place made after where
  only : ∀ other more, other ≠ name → after.node? (place ++ other :: more) ≠ none →
    other = "smali" ∧ drawn.node? (place ++ ["smali"]) ≠ some .directory

section

variable {prior files after : Files} {scratch : Path} {place : Place} {image : Apk.Image}

theorem beside_names {name other : String} (apart : name ≠ other) (more : List String) :
    ¬place ++ [name] <+: place ++ other :: more := by
  rw [List.prefix_append_right_inj, List.cons_prefix_cons]
  exact fun same => apart same.1

namespace Staged

theorem change (staged : Staged prior place image files) (new : NewPlace prior scratch place)
    {name : String} (member : name ∈ attemptNames image) (apart : name ≠ imageName image)
    (same : SameOutside (place ++ [name]) files after) : Staged prior place image after where
  tidy := staged.tidy.inside new member same
  apart := staged.apart
  leaf := by
    rw [same.rest _ (beside_names apart [])]
    exact staged.leaf
  bare other more := by
    rw [same.rest _ (beside_names apart (other :: more))]
    exact staged.bare other more

theorem swapped (staged : Staged prior place image files) (new : NewPlace prior scratch place)
    {spot beside : Place} {old content : Bytes} {mode : Nat}
    (file : files.node? spot = some (.file old mode))
    (open_ : files.node? beside ≠ some .directory)
    (swapped : Smali.Swapped files after spot beside content) :
    Staged prior place image after := by
  have tidy := staged.tidy.swapped new file open_ swapped
  -- What was free or is emptied is no file that was filled.
  have free : ∀ other, files.node? other = none → after.node? other = none := by
    intro other nothing
    by_cases under : beside <+: other
    · exact swapped.gone other under
    · rw [swapped.rest other _ under, nothing]
      rintro rfl
      rw [nothing] at file
      cases file
  refine ⟨tidy, staged.apart, fun directory => ?_, fun name more => free _ (staged.bare name more)⟩
  by_cases filled : place ++ [imageName image] = spot
  · obtain ⟨mode, there⟩ := swapped.filled
    rw [filled, there] at directory
    cases directory
  · by_cases under : beside <+: place ++ [imageName image]
    · rw [swapped.gone _ under] at directory
      cases directory
    · rw [swapped.rest _ filled under] at directory
      exact staged.leaf directory

theorem emptied (staged : Staged prior place image files) (new : NewPlace prior scratch place) :
    Staged prior place image (files.dropUnder (place ++ [imageName image])) := by
  have named : place ++ [imageName image] ≠ [] := by simp
  have same := sameOutside_dropUnder files _ named
  refine ⟨staged.tidy.inside new (by simp [attemptNames]) same, staged.apart, ?_,
    fun name more => ?_⟩
  · rw [node_dropUnder _ _ _ named, if_pos (List.prefix_refl _)]
    simp
  · rw [node_dropUnder _ _ _ named, if_pos]
    rw [List.prefix_append_right_inj, List.cons_prefix_cons]
    exact ⟨rfl, List.nil_prefix⟩

end Staged

theorem staged_ok (new : NewPlace prior scratch place) (plain : PlainName (imageName image))
    (reader : Zip.Reader) (archive : Path) (session taken : Session) (size : Nat) (treed : Files)
    (made : session.files = prior.put place .directory)
    (extracting : (Apk.extract archive image.entry (scratch / imageName image) reader).perform
      session = (.ok size, taken))
    (treeing : taken.files.makeDirectory (scratch / "smali") = .ok treed) :
    Staged prior place image treed ∧ treed.node? (place ++ ["smali"]) = some .directory := by
  have start : Tidy prior place (attemptNames image) session.files := made ▸ tidy_made new
  obtain ⟨_, _, _, _, _, _, content, emptied, _, _, _, _, first, _, _, second⟩ :=
    Apk.extract_ok _ _ _ _ _ _ _ extracting
  obtain ⟨spot, mode, reached, open_, rfl⟩ := write_ok _ _ _ _ first
  obtain rfl := start.child new plain reached
  obtain ⟨spot, again, reached, _, files⟩ := write_ok _ _ _ _ second
  have middle := start.inside new (by simp [attemptNames])
    (sameOutside_put session.files (place ++ [imageName image]) (.file [] mode) (by simp))
  obtain rfl := middle.child new plain reached
  have named : place ++ [imageName image] ≠ [] := by simp
  have there : taken.files.node? (place ++ [imageName image]) = some (.file content again) := by
    rw [files, node_put _ _ _ _ named, if_pos rfl]
  have bare : ∀ name more, taken.files.node? (place ++ imageName image :: name :: more) = none := by
    intro name more
    rw [files, node_put _ _ _ _ named, if_neg (by simp), node_put _ _ _ _ named,
      if_neg (by simp), made, node_put _ _ _ _ new.named, if_neg (by simp)]
    exact new.sound.nothing_under place new.free _
  have tidy : Tidy prior place (attemptNames image) taken.files := by
    rw [files]
    exact middle.inside new (by simp [attemptNames]) (sameOutside_put _ _ _ named)
  obtain ⟨tree, reached, free, filled, rfl⟩ := makeDirectory_ok _ _ _ treeing
  obtain rfl := tidy.child new smali_plain reached
  have apart : "smali" ≠ imageName image := by
    intro same
    rw [same, there] at free
    cases free
  have same := sameOutside_put taken.files (place ++ ["smali"]) .directory filled
  refine ⟨⟨tidy.inside new (by simp [attemptNames]) same, apart.symm, ?_, fun name more => ?_⟩, ?_⟩
  · rw [same.rest _ (beside_names apart []), there]
    simp
  · rw [same.rest _ (beside_names apart (name :: more)), bare]
  · rw [node_put _ _ _ _ filled, if_pos rfl]

/-- What the assembler left has moved to the image's place, and nothing else has changed. -/
structure MovedOver (place : Place) (image : Apk.Image) (cleared after : Files) : Prop where
  here : after.here = cleared.here
  moved : Moved cleared (place ++ ["modified_" ++ imageName image]) after
    (place ++ [imageName image])
  gone : ∀ more, after.node? (place ++ ("modified_" ++ imageName image) :: more) = none
  rest : ∀ other, ¬place ++ [imageName image] <+: other →
    ¬place ++ ["modified_" ++ imageName image] <+: other → after.node? other = cleared.node? other

theorem under_name (name : String) (more : List String) :
    place ++ [name] <+: place ++ name :: more :=
  (List.prefix_append_right_inj place).mpr (List.cons_prefix_cons.mpr ⟨rfl, List.nil_prefix⟩)

theorem MovedOver.tidy (new : NewPlace prior scratch place)
    (takeover : MovedOver place image files after)
    (tidy : Tidy prior place (attemptNames image) files) :
    Tidy prior place (attemptNames image) after := by
  have apart : ∀ name, ¬place ++ [name] <+: place := fun name => not_prefix_above place name []
  have rest : ∀ other, ¬place <+: other → after.node? other = files.node? other :=
    fun other outside => takeover.rest other
      (fun under => outside ((List.prefix_append _ _).trans under))
      fun under => outside ((List.prefix_append _ _).trans under)
  refine ⟨takeover.here.trans tidy.here, fun other there => ?_, ?_, ?_, fun name more foreign => ?_⟩
  · rw [rest other (new.apart other there), tidy.directories other there]
  · rw [takeover.rest place (apart _) (apart _), tidy.there]
  · exact tidy.outside.congr
      (dropUnder_outside new.named ⟨takeover.here, fun other outside => rest other outside⟩)
  · rw [takeover.rest, tidy.own name more foreign]
    all_goals
      rw [List.prefix_append_right_inj, List.cons_prefix_cons]
      rintro ⟨rfl, _⟩
      exact foreign (by simp [attemptNames])

theorem moved_over (new : NewPlace prior scratch place) (plain : PlainName (imageName image))
    (staged : Staged prior place image files)
    (renamed : files.rename (scratch / ("modified_" ++ imageName image))
      (scratch / imageName image) = .ok after) : MovedOver place image files after := by
  have apart : ∀ {name other : String}, name ≠ other → ¬place ++ [name] <+: place ++ [other] :=
    fun differ => beside_names differ []
  obtain ⟨origin, goal, fromOrigin, toGoal⟩ := rename_places _ _ _ _ renamed
  obtain rfl := staged.tidy.child new (modified_plain plain) fromOrigin
  obtain rfl := staged.tidy.child new plain toGoal
  obtain ⟨moved, gone, rest⟩ := rename_moved _ _ _ _ fromOrigin toGoal (apart (modified_apart _))
    (apart (modified_apart _).symm) (by simp) (by simp)
    (fun name more => by rw [List.append_assoc]; exact staged.bare name more) renamed
  exact ⟨rename_here renamed, moved, fun more => gone _ (under_name _ more),
    fun other image made => rest other made image⟩

theorem promote_moves (new : NewPlace prior scratch place) (plain : PlainName (imageName image))
    (session moved : Session) (staged : Staged prior place image session.files)
    (done : (promote (scratch / ("modified_" ++ imageName image))
      (scratch / imageName image)).perform session = (.ok (), moved)) :
    ∃ cleared, Staged prior place image cleared ∧
      SameOutside (place ++ [imageName image]) session.files cleared ∧
      cleared.rename (scratch / ("modified_" ++ imageName image)) (scratch / imageName image) =
        .ok moved.files := by
  obtain ⟨cleared, rfl | removed, moving⟩ := promote_steps _ _ _ _ _ done
  · exact ⟨_, staged, SameOutside.refl _ _, moving⟩
  · obtain ⟨spot, _, _, reached, _, rfl⟩ := remove_ok _ _ _ removed
    obtain rfl := staged.tidy.child new plain reached
    exact ⟨_, staged.emptied new, sameOutside_dropUnder _ _ (by simp), moving⟩

theorem MovedOver.installed (new : NewPlace prior scratch place)
    (plain : PlainName (imageName image))
    {made cleared moved : Files} (takeover : MovedOver place image cleared moved)
    (ready : Staged prior place image cleared) (tidy : Tidy prior place (attemptNames image) made)
    (same : SameOutside (place ++ [imageName image]) made cleared)
    (renamed : cleared.rename (scratch / ("modified_" ++ imageName image))
      (scratch / imageName image) = .ok moved) :
    Installed scratch (imageName image) place made (moved.clearTree (scratch / "smali")) := by
  obtain ⟨_, _, fromOrigin, toGoal⟩ := rename_places _ _ _ _ renamed
  have swept : SameOutside (place ++ ["smali"]) moved (moved.clearTree (scratch / "smali")) :=
    (takeover.tidy new ready.tidy).clear_inside new smali_plain
  have after := (takeover.tidy new ready.tidy).inside new (by simp [attemptNames]) swept
  have unswept : ∀ more, (moved.clearTree (scratch / "smali")).node?
      (place ++ imageName image :: more) = moved.node? (place ++ imageName image :: more) :=
    fun more => swept.rest _ (beside_names ready.apart.symm more)
  have source : ∀ more, cleared.node? (place ++ ("modified_" ++ imageName image) :: more) =
      made.node? (place ++ ("modified_" ++ imageName image) :: more) :=
    fun more => same.rest _ (beside_names (modified_apart _).symm more)
  refine
    { reached := after.leads new
      there := after.there
      left := resolve_child_again cleared made scratch _ place _ (modified_plain plain) fromOrigin
        (tidy.leads new) tidy.there
      stands := resolve_child_again cleared _ scratch _ place _ plain toGoal (after.leads new)
        after.there
      moved := ?_ }
  cases takeover.moved with
  | file content mode stood stands alone =>
      refine .file content mode (by rw [← source, stood]) (by rw [unswept, stands])
        fun name more => ?_
      rw [List.append_assoc, List.singleton_append, unswept]
      simpa using alone name more
  | directory stood stands =>
      refine .directory (by rw [← source, stood]) fun more => ?_
      rw [List.append_assoc, List.singleton_append, unswept, List.append_assoc,
        List.singleton_append, ← source]
      simpa using stands more

theorem MovedOver.alone (new : NewPlace prior scratch place) (plain : PlainName (imageName image))
    {drawn made cleared moved : Files} (takeover : MovedOver place image cleared moved)
    (ready : Staged prior place image cleared) (tidy : Tidy prior place (attemptNames image) made)
    (same : SameOutside (place ++ [imageName image]) made cleared)
    (planted : drawn.node? (place ++ ["smali"]) = some .directory →
      cleared.node? (place ++ ["smali"]) = some .directory)
    (renamed : cleared.rename (scratch / ("modified_" ++ imageName image))
      (scratch / imageName image) = .ok moved)
    (once : Files) (spot : Place) (leads : once.resolve (scratch / "smali") = .ok spot) :
    Alone scratch (imageName image) place drawn made (moved.clearTree (scratch / "smali")) := by
  have later := takeover.tidy new ready.tidy
  have reached : moved.resolve (scratch / "smali") = .ok (place ++ ["smali"]) :=
    resolve_child_again once moved scratch "smali" place spot smali_plain leads (later.leads new)
      later.there
  have swept := later.clear_inside new smali_plain
  have after := later.inside new (by simp [attemptNames]) swept
  refine ⟨takeover.installed new plain ready tidy same renamed, fun other more foreign there => ?_⟩
  have own : other ∈ attemptNames image := by
    by_contra stranger
    exact there (after.own other more stranger)
  simp only [attemptNames, List.mem_cons, List.not_mem_nil, or_false] at own
  obtain rfl | rfl | rfl := own
  · exact absurd rfl foreign
  · refine ⟨rfl, fun directory => there ?_⟩
    -- A directory is cleared away with all that is in it.
    have tree : moved.node? (place ++ ["smali"]) = some .directory := by
      rw [takeover.rest _ (beside_names ready.apart []) (beside_names (modified_tree _) []),
        planted directory]
    rw [clearTree_directory _ _ _ reached tree, node_dropUnder _ _ _ (by simp),
      if_pos (under_name _ more)]
  · rw [swept.rest _ (beside_names (modified_tree _).symm more), takeover.gone more] at there
    exact absurd rfl there

end

end DexGraft.Search
