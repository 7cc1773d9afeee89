import DexGraft.Proofs.Files.Making
import DexGraft.Proofs.Files.Mirror

/-!
Operations on files in which everything stands in a directory. Each of them leaves such
files behind, as long as it is asked for something with a name.
-/
namespace DexGraft.Files

section

variable {files after : Files}

theorem Sound.put_file (sound : files.Sound) (place : Place) (content : Bytes) (mode : Nat)
    (open_ : files.node? place ≠ some .directory)
    (stands : ∀ parent name, place = parent ++ [name] → files.node? parent = some .directory) :
    (files.put place (.file content mode)).Sound := by
  have named := named_of_open files place open_
  intro other name there
  have directory : files.node? other = some .directory := by
    rw [node_put _ _ _ _ named] at there
    split at there
    · rename_i same
      exact stands other name same.symm
    · exact sound other name there
  have apart : other ≠ place := fun same => open_ (same ▸ directory)
  rw [node_put _ _ _ _ named, if_neg apart, directory]

theorem Sound.stands (sound : files.Sound) (path : Path) (place : Place)
    (filled : path.parts ≠ []) (reached : files.resolve path = .ok place) (parent : Place)
    (name : String) (child : place = parent ++ [name]) : files.node? parent = some .directory := by
  cases there : files.node? place with
  | none =>
      obtain ⟨_, last, above, _, _, _, directory, same⟩ :=
        sound.free_named path place filled reached there
      rw [child] at same
      obtain ⟨rfl, _⟩ := List.append_inj' same rfl
      exact directory
  | some node =>
      refine sound parent name ?_
      rw [← child, there]
      exact Option.some_ne_none node

theorem Sound.write (sound : files.Sound) (path : Path) (content : Bytes)
    (filled : path.parts ≠ []) (done : files.write path content = .ok after) : after.Sound := by
  obtain ⟨place, mode, reached, open_, rfl⟩ := write_ok _ _ _ _ done
  exact sound.put_file place content mode open_ (sound.stands path place filled reached)

theorem Sound.remove (sound : files.Sound) (path : Path) (done : files.remove path = .ok after) :
    after.Sound := by
  obtain ⟨place, _, _, _, there, rfl⟩ := remove_ok _ _ _ done
  exact sound.drop place (named_of_open files place (by simp [there]))

theorem below_find (origin : Place) (names : List String) (filled : names ≠ []) :
    ((files.below origin).find? fun entry => entry.1 == names).map (·.2) =
      (files.nodes.find? fun entry => entry.1 == origin ++ names).map (·.2) := by
  have longer : 0 < names.length := List.length_pos_iff.mpr filled
  rw [below, List.find?_filterMap]
  have picks : ∀ entry : Place × Node,
      (Option.any (fun entry => entry.1 == names)
        (if origin.isPrefixOf entry.1 && origin.length < entry.1.length then
          some (entry.1.drop origin.length, entry.2) else none)) = (entry.1 == origin ++ names) := by
    intro entry
    split
    · rename_i under
      simp only [Bool.and_eq_true, List.isPrefixOf_iff_prefix] at under
      obtain ⟨⟨more, whole⟩, _⟩ := under
      simp [← whole]
    · rename_i outside
      symm
      rw [Option.any_none, beq_eq_false_iff_ne]
      rintro same
      simp [same, longer] at outside
  simp only [picks]
  cases found : files.nodes.find? fun entry => entry.1 == origin ++ names with
  | none => rfl
  | some entry =>
      have same := List.find?_some found
      simp only [beq_iff_eq] at same
      simp [same, longer]

theorem node_moved_directory (origin goal other : Place) (source : origin ≠ []) (named : goal ≠ [])
    (empty : ∀ name more, files.node? (goal ++ name :: more) = none) :
    ({ (files.dropUnder origin).put goal .directory with
        nodes := ((files.dropUnder origin).put goal .directory).nodes ++
          (files.below origin).map fun entry => (goal ++ entry.1, entry.2) } : Files).node? other =
      if other = goal then some .directory
      else if goal <+: other then files.node? (origin ++ other.drop goal.length)
      else if origin <+: other then none else files.node? other := by
  have before : ((files.dropUnder origin).put goal .directory).node? other =
      if other = goal then some .directory
      else if origin <+: other then none else files.node? other := by
    rw [node_put _ _ _ _ named, node_dropUnder _ _ _ source]
  by_cases under : goal <+: other
  · obtain ⟨names, rfl⟩ := under
    cases names with
    | nil =>
        rw [List.append_nil, if_pos rfl] at before
        rw [List.append_nil, if_pos rfl, node_of_named _ _ named, List.find?_append, Option.map_or,
          ← node_of_named _ _ named, before]
        rfl
    | cons name more =>
        have filled : goal ++ name :: more ≠ [] := by simp
        have lower : goal ++ name :: more ≠ goal := by simp
        have nothing : ((files.dropUnder origin).put goal .directory).node? (goal ++ name :: more) =
            none := by
          rw [before, if_neg lower, empty, ite_self]
        have moved : (fun entry : Place × Node => entry.1 == goal ++ name :: more) ∘
            (fun entry : Place × Node => (goal ++ entry.1, entry.2)) =
              fun entry => entry.1 == name :: more := by
          funext entry
          simp
        rw [if_neg lower, if_pos (List.prefix_append _ _), List.drop_left,
          node_of_named _ _ filled, List.find?_append, Option.map_or, ← node_of_named _ _ filled,
          nothing, Option.none_or, List.find?_map, Option.map_map, moved,
          node_of_named _ _ (by simp)]
        exact below_find origin (name :: more) (List.cons_ne_nil _ _)
  · have elsewhere : other ≠ goal := fun same => under (same ▸ List.prefix_refl goal)
    rw [node_append, before, if_neg elsewhere, if_neg elsewhere, if_neg under]
    intro entry member
    obtain ⟨below, _, rfl⟩ := List.mem_map.mp member
    exact fun same => under (same ▸ List.prefix_append _ _)

theorem rename_directory (source target : Path) (origin goal : Place)
    (fromOrigin : files.resolve source = .ok origin) (toGoal : files.resolve target = .ok goal)
    (apart : origin ≠ goal) (there : files.node? origin = some .directory)
    (done : files.rename source target = .ok after) :
    ¬origin <+: goal ∧ (files.node? goal = none ∨ files.below goal = []) ∧
      after = { (files.dropUnder origin).put goal .directory with
        nodes := ((files.dropUnder origin).put goal .directory).nodes ++
          (files.below origin).map fun entry => (goal ++ entry.1, entry.2) } := by
  simp only [rename, fromOrigin, toGoal, there, bind, Except.bind, if_neg apart] at done
  split at done
  · cases done
  · cases done
  · rename_i same _
    cases same
  · cases done
  · split at done
    · cases done
    · rename_i outside
      split at done
      · cases done
      · rename_i filled
        injection done with same
        refine ⟨fun under => outside (List.isPrefixOf_iff_prefix.mpr under), ?_, same.symm⟩
        cases occupied : files.node? goal with
        | none => exact Or.inl rfl
        | some node =>
            rw [occupied] at filled
            exact Or.inr (by simpa using filled)

/-- At one place stands what stood at another one: a file alone, or a directory with all that was in
it. -/
inductive Moved (before : Files) (origin : Place) (after : Files) (goal : Place) : Prop
  | file (content : Bytes) (mode : Nat) (stood : before.node? origin = some (.file content mode))
      (stands : after.node? goal = some (.file content mode))
      (alone : ∀ name more, after.node? (goal ++ name :: more) = none)
  | directory (stood : before.node? origin = some .directory)
      (stands : ∀ more, after.node? (goal ++ more) = before.node? (origin ++ more))

/-- A move takes everything from one place to another one, where nothing may have been below. -/
theorem rename_moved (source target : Path) (origin goal : Place)
    (fromOrigin : files.resolve source = .ok origin) (toGoal : files.resolve target = .ok goal)
    (apart : ¬origin <+: goal) (aside : ¬goal <+: origin) (named : origin ≠ []) (filled : goal ≠ [])
    (bare : ∀ name more, files.node? (goal ++ name :: more) = none)
    (done : files.rename source target = .ok after) :
    Moved files origin after goal ∧ (∀ other, origin <+: other → after.node? other = none) ∧
      ∀ other, ¬origin <+: other → ¬goal <+: other → after.node? other = files.node? other := by
  have differ : origin ≠ goal := fun same => apart (same ▸ List.prefix_refl _)
  -- Two places apart have nothing below in common.
  have beside : ∀ other, origin <+: other → ¬goal <+: other := fun other below above =>
    (List.prefix_or_prefix_of_prefix below above).elim apart aside
  have under : ∀ other, origin <+: other → other ≠ goal := fun other under same =>
    apart (same ▸ under)
  have clear : ∀ other, ¬goal <+: other → other ≠ goal := fun other clear same =>
    clear (same ▸ List.prefix_refl _)
  rcases rename_ok _ _ _ _ _ _ fromOrigin toGoal differ done with
    ⟨content, mode, there, _, rfl⟩ | ⟨_, there, _⟩
  · have put : ∀ other, (((files.dropUnder origin).put goal (.file content mode)).node? other) =
        if other = goal then some (.file content mode)
        else if origin <+: other then none else files.node? other := by
      intro other
      rw [node_put _ _ _ _ filled, node_dropUnder _ _ _ named]
    refine ⟨.file content mode there ?_ fun name more => ?_, fun other inside => ?_,
      fun other outside beyond => ?_⟩
    · rw [put, if_pos rfl]
    · rw [put, if_neg (by simp), bare, ite_self]
    · rw [put, if_neg (under other inside), if_pos inside]
    · rw [put, if_neg (clear other beyond), if_neg outside]
  · obtain ⟨_, _, rfl⟩ := rename_directory _ _ _ _ fromOrigin toGoal differ there done
    refine ⟨.directory there fun more => ?_, fun other inside => ?_,
      fun other outside beyond => ?_⟩
    · rw [node_moved_directory origin goal _ named filled bare]
      cases more with
      | nil => rw [List.append_nil, if_pos rfl, List.append_nil, there]
      | cons name more =>
          rw [if_neg (by simp), if_pos (List.prefix_append _ _), List.drop_left]
    · rw [node_moved_directory origin goal _ named filled bare,
        if_neg (under other inside), if_neg (beside other inside), if_pos inside]
    · rw [node_moved_directory origin goal _ named filled bare, if_neg (clear other beyond),
        if_neg beyond, if_neg outside]

theorem rename_free (source target : Path) (origin goal : Place)
    (fromOrigin : files.resolve source = .ok origin) (toGoal : files.resolve target = .ok goal)
    (there : files.node? origin ≠ none) (free : files.node? goal = none)
    (apart : ¬origin <+: goal) : ∃ after, files.rename source target = .ok after := by
  have differ : origin ≠ goal := fun same => apart (same ▸ List.prefix_refl _)
  have beside : origin.isPrefixOf goal = false := by
    simpa only [Bool.eq_false_iff, ne_eq, List.isPrefixOf_iff_prefix] using apart
  cases found : files.node? origin with
  | none => exact absurd found there
  | some node =>
      simp only [rename, fromOrigin, toGoal, found, free, bind, Except.bind]
      cases node with
      | file content mode => simp [differ]
      | directory => simp [differ, beside]

theorem Moved.alike {before before' after after' : Files} {origin origin' goal goal' : Place}
    (moved : Moved before origin after goal) (moved' : Moved before' origin' after' goal')
    (same : SameUnder origin origin' before before') : SameUnder goal goal' after after' := by
  have here := same.here
  intro names
  cases moved with
  | file content mode stood stands alone =>
      cases moved' with
      | directory stood' _ =>
          rw [seen, seen, stood, stood'] at here
          cases here
      | file content' mode' stood' stands' alone' =>
          rw [seen, seen, stood, stood'] at here
          cases here
          cases names with
          | nil => simp [seen, stands, stands', Node.shown]
          | cons name more => rw [seen, seen, alone, alone']
  | directory stood stands =>
      cases moved' with
      | file _ _ stood' _ _ =>
          rw [seen, seen, stood, stood'] at here
          cases here
      | directory stood' stands' =>
          rw [seen, seen, stands, stands']
          exact same names

theorem Sound.moved_directory (sound : files.Sound) (source target : Path) (origin goal : Place)
    (filled : target.parts ≠ []) (fromOrigin : files.resolve source = .ok origin)
    (toGoal : files.resolve target = .ok goal) (apart : origin ≠ goal)
    (there : files.node? origin = some .directory) (done : files.rename source target = .ok after) :
    after.Sound := by
  obtain ⟨outside, room, rfl⟩ := rename_directory _ _ _ _ fromOrigin toGoal apart there done
  have source : origin ≠ [] := by
    rintro rfl
    exact outside List.nil_prefix
  have empty : ∀ place name more, files.below place = [] →
      files.node? (place ++ name :: more) = none := by
    intro place name more nothing
    rw [node_of_named _ _ (by simp), ← below_find place _ (List.cons_ne_nil _ _), nothing]
    rfl
  have named : goal ≠ [] := by
    rintro rfl
    obtain ⟨name, more, rfl⟩ := List.exists_cons_of_ne_nil source
    rcases room with free | nothing
    · cases free
    · rw [← List.nil_append (name :: more), empty [] name more nothing] at there
      cases there
  have bare : ∀ name more, files.node? (goal ++ name :: more) = none := by
    intro name more
    rcases room with free | nothing
    · exact sound.nothing_under goal free _
    · exact empty goal name more nothing
  intro other name stood
  rw [node_moved_directory origin goal _ source named bare] at stood ⊢
  by_cases here : other = goal
  · rw [if_pos here]
  rw [if_neg here]
  by_cases below : goal <+: other
  · obtain ⟨names, rfl⟩ := below
    rw [if_neg (by simp), if_pos ((List.prefix_append _ _).trans (List.prefix_append _ _)),
      List.append_assoc, List.drop_left, ← List.append_assoc] at stood
    rw [if_pos (List.prefix_append _ _), List.drop_left, sound _ _ stood]
  rw [if_neg below]
  by_cases last : other ++ [name] = goal
  · have above : ¬origin <+: other := fun under =>
      outside (under.trans (last ▸ List.prefix_append _ _))
    rw [if_neg above, sound.stands target goal filled toGoal other name last.symm]
  · have aside : ¬goal <+: other ++ [name] := by
      intro under
      rcases List.prefix_concat_iff.mp under with same | under
      · exact last same.symm
      · exact below under
    rw [if_neg last, if_neg aside] at stood
    by_cases under : origin <+: other ++ [name]
    · rw [if_pos under] at stood
      exact absurd rfl stood
    · rw [if_neg under] at stood
      rw [if_neg fun upper => under (upper.trans (List.prefix_append _ _)), sound _ _ stood]

theorem Sound.rename (sound : files.Sound) (source target : Path) (filled : target.parts ≠ [])
    (done : files.rename source target = .ok after) : after.Sound := by
  obtain ⟨origin, goal, fromOrigin, toGoal⟩ := rename_places _ _ _ _ done
  by_cases apart : origin = goal
  · subst apart
    simp only [Files.rename, fromOrigin, toGoal, bind, Except.bind, if_true] at done
    split at done <;> cases done <;> exact sound
  · rcases rename_ok _ _ _ _ _ _ fromOrigin toGoal apart done with
      ⟨content, mode, there, open_, rfl⟩ | ⟨_, there, _⟩
    · have named := named_of_open files origin (by simp [there])
      refine (sound.drop origin named).put_file goal content mode ?_ fun parent name child => ?_
      · rw [node_dropUnder _ _ _ named]
        split
        · simp
        · exact open_
      · have directory := sound.stands target goal filled toGoal parent name child
        rw [node_dropUnder _ _ _ named, if_neg, directory]
        intro under
        rw [sound.above parent directory origin under] at there
        cases there
    · exact sound.moved_directory source target origin goal filled fromOrigin toGoal apart there done

end

end DexGraft.Files
