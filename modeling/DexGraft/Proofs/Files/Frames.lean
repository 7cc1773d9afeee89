import DexGraft.Proofs.Files.Places

/-!
What operations leave alone. Each of them changes files under one place at most,
so whoever works under a place of his own changes nothing outside it.
-/
namespace DexGraft.Files

/-- Whatever is not under the place is as it was. -/
structure SameOutside (place : Place) (before after : Files) : Prop where
  here : after.here = before.here
  rest : ∀ other, ¬place <+: other → after.node? other = before.node? other

section

variable {place inner : Place} {first second third : Files}

theorem SameOutside.refl (place : Place) (files : Files) : SameOutside place files files :=
  ⟨rfl, fun _ _ => rfl⟩

theorem SameOutside.symm (same : SameOutside place first second) :
    SameOutside place second first :=
  ⟨same.here.symm, fun other outside => (same.rest other outside).symm⟩

theorem SameOutside.trans (front : SameOutside place first second)
    (back : SameOutside place second third) : SameOutside place first third :=
  ⟨back.here.trans front.here, fun other outside =>
    (back.rest other outside).trans (front.rest other outside)⟩

theorem SameOutside.wider (narrow : SameOutside inner first second) (within : place <+: inner) :
    SameOutside place first second :=
  ⟨narrow.here, fun other outside => narrow.rest other fun under => outside (within.trans under)⟩

end

theorem sameOutside_put (files : Files) (place : Place) (node : Node) (named : place ≠ []) :
    SameOutside place files (files.put place node) := by
  refine ⟨here_put .., fun other outside => ?_⟩
  have apart : other ≠ place := fun same => outside (same ▸ List.prefix_refl _)
  rw [node_put _ _ _ _ named, if_neg apart]

theorem sameOutside_dropUnder (files : Files) (place : Place) (named : place ≠ []) :
    SameOutside place files (files.dropUnder place) := by
  refine ⟨here_dropUnder .., fun other outside => ?_⟩
  rw [node_dropUnder _ _ _ named, if_neg outside]

theorem write_outside (files after : Files) (path : Path) (content : Bytes) (place : Place)
    (reached : files.resolve path = .ok place) (done : files.write path content = .ok after) :
    SameOutside place files after := by
  obtain ⟨spot, mode, found, open_, rfl⟩ := write_ok files after path content done
  obtain rfl : spot = place := by simpa [found] using reached
  exact sameOutside_put files spot _ (named_of_open files spot open_)

theorem makeDirectory_named (files after : Files) (path : Path)
    (done : files.makeDirectory path = .ok after) :
    path.parts ≠ [] ∧ ∃ place, files.resolve path = .ok place ∧ files.node? place = none ∧
      place ≠ [] ∧ after = files.put place .directory := by
  unfold makeDirectory at done
  cases reached : files.resolve path with
  | error cause => simp [reached, bind, Except.bind] at done
  | ok place =>
      rw [reached] at done
      simp only [bind, Except.bind] at done
      split at done
      · cases done
      · rename_i free
        split at done
        · cases done
        · rename_i filled
          injection done with same
          refine ⟨by simpa using filled, place, rfl, free, ?_, same.symm⟩
          rintro rfl
          simp [node?] at free

theorem makeDirectory_ok (files after : Files) (path : Path)
    (done : files.makeDirectory path = .ok after) :
    ∃ place, files.resolve path = .ok place ∧ files.node? place = none ∧ place ≠ [] ∧
      after = files.put place .directory :=
  (makeDirectory_named files after path done).2

theorem removeTree_ok (files after : Files) (path : Path)
    (done : files.removeTree path = .ok after) :
    ∃ place, files.resolve path = .ok place ∧ files.node? place = some .directory ∧
      after = files.dropUnder place := by
  unfold removeTree at done
  cases reached : files.resolve path with
  | error cause => simp [reached, bind, Except.bind] at done
  | ok place =>
      rw [reached] at done
      simp only [bind, Except.bind] at done
      split at done
      · rename_i there
        injection done with same
        exact ⟨place, rfl, there, same.symm⟩
      · cases done
      · cases done

theorem clearTree_directory (files : Files) (path : Path) (place : Place)
    (reached : files.resolve path = .ok place) (there : files.node? place = some .directory) :
    files.clearTree path = files.dropUnder place := by
  simp [clearTree, removeTree, reached, there, bind, Except.bind]

theorem clearTree_outside (files : Files) (path : Path) (place : Place) (named : place ≠ [])
    (reached : files.resolve path = .ok place) :
    SameOutside place files (files.clearTree path) := by
  unfold clearTree
  cases removed : files.removeTree path with
  | error cause => exact SameOutside.refl place files
  | ok after =>
      obtain ⟨spot, found, _, rfl⟩ := removeTree_ok files after path removed
      obtain rfl : spot = place := by simpa [found] using reached
      exact sameOutside_dropUnder files spot named

theorem node_append (files : Files) (more : List (Place × Node)) (other : Place)
    (apart : ∀ entry ∈ more, entry.1 ≠ other) :
    ({ files with nodes := files.nodes ++ more } : Files).node? other = files.node? other := by
  have nowhere : more.find? (fun entry => entry.1 == other) = none := by
    rw [List.find?_eq_none]
    intro entry member
    simpa using apart entry member
  simp only [node?, List.find?_append, nowhere, Option.or_none]

theorem rename_ok (files after : Files) (source target : Path) (origin goal : Place)
    (fromOrigin : files.resolve source = .ok origin) (toGoal : files.resolve target = .ok goal)
    (apart : origin ≠ goal) (done : files.rename source target = .ok after) :
    (∃ content mode, files.node? origin = some (.file content mode) ∧
        files.node? goal ≠ some .directory ∧
        after = (files.dropUnder origin).put goal (.file content mode)) ∨
      ∃ moved : List (Place × Node), files.node? origin = some .directory ∧
        ¬origin <+: goal ∧ (∀ entry ∈ moved, goal <+: entry.1) ∧
        after = { (files.dropUnder origin).put goal .directory with
          nodes := ((files.dropUnder origin).put goal .directory).nodes ++ moved } := by
  simp only [rename, fromOrigin, toGoal, bind, Except.bind] at done
  split at done
  · cases done
  · cases done
  · rename_i content mode there open_
    rw [if_neg apart] at done
    injection done with same
    exact Or.inl ⟨content, mode, there, open_, same.symm⟩
  · cases done
  · rename_i there _
    rw [if_neg apart] at done
    split at done
    · cases done
    · rename_i beside
      split at done
      · cases done
      · injection done with same
        refine Or.inr ⟨_, there, fun under => beside (List.isPrefixOf_iff_prefix.mpr under), ?_,
          same.symm⟩
        intro entry member
        obtain ⟨below, _, rfl⟩ := List.mem_map.mp member
        exact List.prefix_append _ _

theorem rename_steps (files after : Files) (source target : Path) (origin goal : Place)
    (fromOrigin : files.resolve source = .ok origin) (toGoal : files.resolve target = .ok goal)
    (apart : origin ≠ goal) (source_named : origin ≠ []) (target_named : goal ≠ [])
    (done : files.rename source target = .ok after) :
    ∃ middle, SameOutside origin files middle ∧ SameOutside goal middle after := by
  refine ⟨files.dropUnder origin, sameOutside_dropUnder files origin source_named, ?_⟩
  rcases rename_ok files after source target origin goal fromOrigin toGoal apart done with
    ⟨content, mode, _, _, rfl⟩ | ⟨moved, _, _, under, rfl⟩
  · exact sameOutside_put _ goal _ target_named
  · have put := sameOutside_put (files.dropUnder origin) goal .directory target_named
    refine ⟨put.here, fun other outside => ?_⟩
    rw [node_append _ moved other, put.rest other outside]
    rintro entry member rfl
    exact outside (under entry member)

theorem rename_places (files after : Files) (source target : Path)
    (done : files.rename source target = .ok after) :
    ∃ origin goal, files.resolve source = .ok origin ∧ files.resolve target = .ok goal := by
  unfold rename at done
  cases fromOrigin : files.resolve source with
  | error cause => simp [fromOrigin, bind, Except.bind] at done
  | ok origin =>
      cases toGoal : files.resolve target with
      | error cause => simp [fromOrigin, toGoal, bind, Except.bind] at done
      | ok goal => exact ⟨origin, goal, rfl, rfl⟩

theorem rename_here {files after : Files} {source target : Path}
    (done : files.rename source target = .ok after) :
    after.here = files.here := by
  obtain ⟨origin, goal, fromOrigin, toGoal⟩ := rename_places _ _ _ _ done
  by_cases apart : origin = goal
  · simp only [rename, fromOrigin, toGoal, apart, bind, Except.bind] at done
    split at done <;> simp_all [refuse]
  · rcases rename_ok _ _ _ _ _ _ fromOrigin toGoal apart done with
      ⟨_, _, _, _, rfl⟩ | ⟨_, _, _, _, rfl⟩
    · exact here_put ..
    · exact here_put ..

theorem rename_node (files after : Files) (source target : Path) (origin goal : Place)
    (fromOrigin : files.resolve source = .ok origin) (toGoal : files.resolve target = .ok goal)
    (apart : origin ≠ goal) (named : goal ≠ []) (done : files.rename source target = .ok after) :
    ∃ node, files.node? origin = some node ∧ after.node? goal = some node := by
  rcases rename_ok files after source target origin goal fromOrigin toGoal apart done with
    ⟨content, mode, there, _, rfl⟩ | ⟨moved, there, _, _, rfl⟩
  · exact ⟨_, there, by rw [node_put _ _ _ _ named, if_pos rfl]⟩
  · refine ⟨_, there, ?_⟩
    have directory : ((files.dropUnder origin).put goal .directory).node? goal =
        some .directory := by
      rw [node_put _ _ _ _ named, if_pos rfl]
    rw [node_of_named _ _ named, Option.map_eq_some_iff] at directory ⊢
    obtain ⟨entry, found, node⟩ := directory
    exact ⟨entry, by simp [List.find?_append, found], node⟩

theorem rename_of_copied (files written : Files) (source target : Path) (content : Bytes)
    (there : files.read source = .ok content)
    (filled : files.write target content = .ok written) :
    ∃ after, files.rename source target = .ok after := by
  obtain ⟨origin, mode, fromOrigin, node⟩ := (read_eq_ok ..).mp there
  obtain ⟨goal, _, toGoal, open_, _⟩ := write_ok _ _ _ _ filled
  simp only [rename, fromOrigin, toGoal, node, bind, Except.bind]
  split <;> exact ⟨_, rfl⟩

structure PlainName (name : String) : Prop where
  single : Path.ofText name = ⟨0, [name]⟩
  down : name ≠ ".."

theorem child_eq (base : Path) (name : String) (plain : PlainName name) :
    base / name = { base with parts := base.parts ++ [name] } := by
  change base.join (Path.ofText name) = _
  rw [plain.single]
  rfl

theorem child_name (base : Path) (name : String) (plain : PlainName name) :
    (base / name).name = name := by
  rw [child_eq _ _ plain, Path.name, List.getLastD_concat]

theorem resolve_child (files : Files) (base : Path) (name : String) (spot place : Place)
    (plain : PlainName name) (there : files.resolve base = .ok spot)
    (reached : files.resolve (base / name) = .ok place) :
    place = spot ++ [name] ∧ files.node? spot = some .directory := by
  rw [child_eq base name plain] at reached
  obtain ⟨parent, front, directory, same⟩ := resolve_named files
    { base with parts := base.parts ++ [name] } place base.parts name rfl plain.down reached
  have walked := ((resolve_eq_ok files base spot).mp there).2
  have start : files.start { base with parts := base.parts ++ [name] } = files.start base := rfl
  rw [start, walked] at front
  cases front
  exact ⟨same, directory⟩

theorem resolve_room (files : Files) (base : Path) (name : String) (place : Place)
    (plain : PlainName name) (reached : files.resolve (base / name) = .ok place) :
    name.utf8ByteSize ≤ nameLimit := by
  rw [child_eq base name plain, resolve_eq_ok] at reached
  obtain ⟨_, _, onward⟩ := (walk_append ..).mp reached.2
  obtain ⟨_, ⟨up, _⟩ | ⟨_, short, _⟩⟩ := (walk_cons ..).mp onward
  · exact absurd up plain.down
  · exact short

theorem resolve_down (files : Files) (base : Path) (text : String) (parts : List String)
    (spot place : Place) (relative : Path.ofText text = ⟨0, parts⟩) (down : ".." ∉ parts)
    (there : files.resolve base = .ok spot) (reached : files.resolve (base / text) = .ok place) :
    place = spot ++ parts := by
  have joined : base / text = { base with parts := base.parts ++ parts } := by
    change base.join (Path.ofText text) = _
    rw [relative]
    rfl
  have walked := ((resolve_eq_ok ..).mp reached).2
  rw [joined] at walked
  obtain ⟨middle, front, onward⟩ := (walk_append ..).mp walked
  have same : files.walk (files.start base) base.parts = .ok spot :=
    ((resolve_eq_ok ..).mp there).2
  have start : files.start { base with parts := base.parts ++ parts } = files.start base := rfl
  rw [start, same] at front
  cases front
  exact walk_down files spot place parts down onward

theorem resolve_child_again (before after : Files) (base : Path) (name : String)
    (spot place : Place) (plain : PlainName name) (once : before.resolve (base / name) = .ok place)
    (there : after.resolve base = .ok spot) (directory : after.node? spot = some .directory) :
    after.resolve (base / name) = .ok (spot ++ [name]) := by
  rw [child_eq base name plain] at once ⊢
  obtain ⟨sayable, walked⟩ := (resolve_eq_ok _ _ _).mp once
  rw [walk_append] at walked
  obtain ⟨_, _, step⟩ := walked
  obtain ⟨_, ⟨up, _⟩ | ⟨_, short, _⟩⟩ := (walk_cons ..).mp step
  · exact absurd up plain.down
  · rw [resolve_eq_ok]
    refine ⟨sayable, (walk_append ..).mpr ⟨spot, ((resolve_eq_ok _ _ _).mp there).2, ?_⟩⟩
    exact (walk_cons ..).mpr ⟨directory, Or.inr ⟨plain.down, short, rfl⟩⟩

theorem resolve_fresh (before after : Files) (path : Path) (place : Place) (above : List String)
    (name : String) (parts : path.parts = above ++ [name]) (down : name ≠ "..")
    (free : before.node? place = none) (same : SameOutside place before after)
    (reached : before.resolve path = .ok place) : after.resolve path = .ok place := by
  obtain ⟨parent, front, _, spot⟩ := resolve_named before path place above name parts down reached
  -- The way ends beside the place, so nothing under the place can bar it.
  refine resolve_kept before after path place parent above name place parts same.here
    (by simp [free]) (fun other there outside => ?_) front ?_ reached
  · rw [same.rest other outside, there]
  · rw [spot]
    exact not_prefix_above parent name []

end DexGraft.Files
