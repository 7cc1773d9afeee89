import DexGraft.Files.Basic
import Mathlib.Tactic.Common
import Mathlib.Data.List.Infix

/-!
Where paths lead, and what changes when files do. A path keeps leading to its
place as long as the directories on its way stay; changes under one place do not
touch anything elsewhere.
-/
namespace DexGraft.Files

theorem not_prefix_above (place : Place) (name : String) (more : Place) :
    ¬place ++ name :: more <+: place := by
  intro under
  have longer := under.length_le
  rw [List.length_append, List.length_cons] at longer
  omega

theorem node_root (files : Files) : files.node? [] = some .directory := rfl

theorem node_of_named (files : Files) (place : Place) (named : place ≠ []) :
    files.node? place = (files.nodes.find? fun entry => entry.1 == place).map (·.2) := by
  simp [node?, named]

theorem find_replaced (nodes : List (Place × Node)) (place other : Place) (node : Node) :
    ((nodes.map fun entry => if entry.1 == place then (place, node) else entry).find?
        fun entry => entry.1 == other).map (·.2) =
      if other = place ∧ nodes.any (fun entry => entry.1 == place) then some node
      else (nodes.find? fun entry => entry.1 == other).map (·.2) := by
  induction nodes with
  | nil => simp
  | cons entry rest ih =>
      by_cases here : entry.1 = place
      · by_cases same : other = place
        · simp [here, same]
        · simp [here, Ne.symm same, same] at ih ⊢
          exact ih
      · by_cases same : other = place
        · subst same
          simp only [List.map_cons, beq_iff_eq, here, if_false, List.find?_cons, List.any_cons,
            beq_eq_false_iff_ne.mpr here, Bool.false_or] at ih ⊢
          exact ih
        · simp only [List.map_cons, beq_iff_eq, here, if_false, List.find?_cons, same,
            false_and] at ih ⊢
          split <;> simp_all

theorem node_put (files : Files) (place other : Place) (node : Node) (named : place ≠ []) :
    (files.put place node).node? other =
      if other = place then some node else files.node? other := by
  by_cases root : other = []
  · subst root
    simp [node?, Ne.symm named]
  · rw [node_of_named _ _ root, node_of_named _ _ root]
    unfold put
    by_cases present : files.nodes.any fun entry => entry.1 == place
    · rw [if_pos present, find_replaced]
      simp [present]
    · rw [if_neg present]
      simp only [List.find?_append, List.find?_singleton, beq_iff_eq]
      by_cases same : other = place
      · subst same
        have missing : files.nodes.find? (fun entry => entry.1 == other) = none := by
          rw [List.find?_eq_none]
          exact fun entry member hit => present (List.any_eq_true.mpr ⟨entry, member, hit⟩)
        simp [missing]
      · simp [same, Ne.symm same]

theorem node_dropUnder (files : Files) (place other : Place) (named : place ≠ []) :
    (files.dropUnder place).node? other =
      if place <+: other then none else files.node? other := by
  by_cases root : other = []
  · subst root
    simp [node?, named]
  · rw [node_of_named _ _ root, node_of_named _ _ root, dropUnder, List.find?_filter]
    by_cases under : place <+: other
    · rw [if_pos under, Option.map_eq_none_iff, List.find?_eq_none]
      intro entry _
      by_cases same : entry.1 = other
      · simp [same, under]
      · simp [same]
    · rw [if_neg under]
      congr 2
      funext entry
      by_cases same : entry.1 = other
      · have outside : place.isPrefixOf other = false := by
          rwa [Bool.eq_false_iff, ne_eq, List.isPrefixOf_iff_prefix]
        simp [same, outside]
      · simp [same]

theorem node_moved (files : Files) (origin goal other : Place) (first second : Node)
    (source : origin ≠ []) (target : goal ≠ []) :
    (((files.put origin first).dropUnder origin).put goal second).node? other =
      if other = goal then some second
      else if origin <+: other then none else files.node? other := by
  rw [node_put _ _ _ _ target, node_dropUnder _ _ _ source]
  by_cases under : origin <+: other
  · simp [under]
  · have elsewhere : other ≠ origin := fun same => under (same ▸ List.prefix_refl other)
    rw [node_put _ _ _ _ source, if_neg elsewhere]

theorem here_put (files : Files) (place : Place) (node : Node) :
    (files.put place node).here = files.here := by
  unfold put
  split <;> rfl

theorem here_dropUnder (files : Files) (place : Place) :
    (files.dropUnder place).here = files.here := rfl

theorem walk_cons (files : Files) (place goal : Place) (name : String) (rest : List String) :
    files.walk place (name :: rest) = .ok goal ↔
      files.node? place = some .directory ∧
        (name = ".." ∧ files.walk place.dropLast rest = .ok goal ∨
          name ≠ ".." ∧ name.utf8ByteSize ≤ nameLimit ∧
            files.walk (place ++ [name]) rest = .ok goal) := by
  rw [walk]
  cases node : files.node? place with
  | none => simp
  | some found =>
      cases found with
      | file content mode => simp
      | directory =>
          by_cases up : name = ".."
          · simp [up]
          · by_cases long : nameLimit < name.utf8ByteSize
            · simp [up, long, Nat.not_le.mpr long]
            · simp [up, long, Nat.not_lt.mp long]

theorem walk_down (files : Files) (place goal : Place) (names : List String)
    (down : ".." ∉ names) (reached : files.walk place names = .ok goal) :
    goal = place ++ names := by
  induction names generalizing place with
  | nil =>
      cases reached
      simp
  | cons name rest ih =>
      obtain ⟨here, below⟩ := List.ne_and_not_mem_of_not_mem_cons down
      obtain ⟨_, ⟨up, _⟩ | ⟨_, _, onward⟩⟩ := (walk_cons ..).mp reached
      · exact absurd up.symm here
      · rw [ih (place ++ [name]) below onward, List.append_assoc, List.singleton_append]

theorem walk_append (files : Files) (place goal : Place) (first second : List String) :
    files.walk place (first ++ second) = .ok goal ↔
      ∃ middle, files.walk place first = .ok middle ∧ files.walk middle second = .ok goal := by
  induction first generalizing place with
  | nil => simp [walk]
  | cons name rest ih =>
      simp only [List.cons_append, walk_cons, ih]
      constructor
      · rintro ⟨there, ⟨up, middle, front, back⟩ | ⟨down, short, middle, front, back⟩⟩
        · exact ⟨middle, ⟨there, Or.inl ⟨up, front⟩⟩, back⟩
        · exact ⟨middle, ⟨there, Or.inr ⟨down, short, front⟩⟩, back⟩
      · rintro ⟨middle, ⟨there, ⟨up, front⟩ | ⟨down, short, front⟩⟩, back⟩
        · exact ⟨there, Or.inl ⟨up, middle, front, back⟩⟩
        · exact ⟨there, Or.inr ⟨down, short, middle, front, back⟩⟩

-- Who is below a place that is no directory cannot get out: the way up leads through it.
theorem walk_stays_under (files : Files) (barrier place goal : Place) (names : List String)
    (closed : files.node? barrier ≠ some .directory) (under : barrier <+: place)
    (reached : files.walk place names = .ok goal) : barrier <+: goal := by
  induction names generalizing place with
  | nil => cases reached; exact under
  | cons name rest ih =>
      obtain ⟨there, ⟨_, onward⟩ | ⟨_, _, onward⟩⟩ := (walk_cons ..).mp reached
      · apply ih place.dropLast _ onward
        have strictly : barrier ≠ place := fun same => closed (same ▸ there)
        have shorter : barrier.length < place.length :=
          Nat.lt_of_le_of_ne under.length_le fun same => strictly (under.eq_of_length same)
        rw [List.dropLast_eq_take]
        exact List.prefix_take_iff.mpr ⟨under, by omega⟩
      · exact ih (place ++ [name]) (under.trans (List.prefix_append _ _)) onward

theorem walk_kept (before after : Files) (barrier place goal : Place) (names : List String)
    (closed : before.node? barrier ≠ some .directory)
    (kept : ∀ other, before.node? other = some .directory → ¬barrier <+: other →
      after.node? other = some .directory)
    (outside : ¬barrier <+: goal) (reached : before.walk place names = .ok goal) :
    after.walk place names = .ok goal := by
  induction names generalizing place with
  | nil => simpa [walk] using reached
  | cons name rest ih =>
      have above : ¬barrier <+: place := fun under =>
        outside (walk_stays_under before barrier place goal _ closed under reached)
      obtain ⟨there, ⟨up, onward⟩ | ⟨down, short, onward⟩⟩ := (walk_cons ..).mp reached
      · exact (walk_cons ..).mpr ⟨kept _ there above, Or.inl ⟨up, ih _ onward⟩⟩
      · exact (walk_cons ..).mpr ⟨kept _ there above, Or.inr ⟨down, short, ih _ onward⟩⟩

theorem walk_mono (before after : Files) (place goal : Place) (names : List String)
    (kept : ∀ other, before.node? other = some .directory → after.node? other = some .directory)
    (reached : before.walk place names = .ok goal) : after.walk place names = .ok goal := by
  induction names generalizing place with
  | nil => simpa [walk] using reached
  | cons name rest ih =>
      obtain ⟨there, ⟨up, onward⟩ | ⟨down, short, onward⟩⟩ := (walk_cons ..).mp reached
      · exact (walk_cons ..).mpr ⟨kept _ there, Or.inl ⟨up, ih _ onward⟩⟩
      · exact (walk_cons ..).mpr ⟨kept _ there, Or.inr ⟨down, short, ih _ onward⟩⟩

def start (files : Files) (path : Path) : Place :=
  if path.isAbsolute then [] else files.here

def Sayable (path : Path) : Prop :=
  path.text.toList.any (·.toNat == 0) = false ∧ path.text.utf8ByteSize < pathLimit

theorem resolve_eq_ok (files : Files) (path : Path) (place : Place) :
    files.resolve path = .ok place ↔
      Sayable path ∧ files.walk (files.start path) path.parts = .ok place := by
  unfold resolve Sayable start
  cases nul : path.text.toList.any (·.toNat == 0) with
  | true => simp
  | false =>
      by_cases long : pathLimit ≤ path.text.utf8ByteSize
      · simp [long, refuse, Nat.not_lt.mpr long]
      · cases walked : files.walk (if path.isAbsolute then [] else files.here) path.parts with
        | ok goal => simp [long, Nat.lt_of_not_le long]
        | error kind => simp [long, refuse]

theorem resolve_mono (before after : Files) (path : Path) (place : Place)
    (here : after.here = before.here)
    (kept : ∀ other, before.node? other = some .directory → after.node? other = some .directory)
    (reached : before.resolve path = .ok place) : after.resolve path = .ok place := by
  obtain ⟨sayable, walked⟩ := (resolve_eq_ok before path place).mp reached
  have same : after.start path = before.start path := by simp [start, here]
  rw [resolve_eq_ok, same]
  exact ⟨sayable, walk_mono before after _ place _ kept walked⟩

theorem resolve_named (files : Files) (path : Path) (place : Place) (above : List String)
    (name : String) (parts : path.parts = above ++ [name]) (down : name ≠ "..")
    (reached : files.resolve path = .ok place) :
    ∃ parent, files.walk (files.start path) above = .ok parent ∧
      files.node? parent = some .directory ∧ place = parent ++ [name] := by
  have walked := ((resolve_eq_ok files path place).mp reached).2
  rw [parts, walk_append] at walked
  obtain ⟨parent, front, step⟩ := walked
  obtain ⟨there, ⟨up, _⟩ | ⟨_, _, arrived⟩⟩ := (walk_cons ..).mp step
  · exact absurd up down
  · cases arrived
    exact ⟨parent, front, there, rfl⟩

/-- A path keeps its place when directories outside a barrier stay, if it ends right at the
barrier or beside it. -/
theorem resolve_kept (before after : Files) (path : Path) (place parent : Place)
    (above : List String) (name : String) (barrier : Place)
    (parts : path.parts = above ++ [name]) (here : after.here = before.here)
    (closed : before.node? barrier ≠ some .directory)
    (kept : ∀ other, before.node? other = some .directory → ¬barrier <+: other →
      after.node? other = some .directory)
    (front : before.walk (before.start path) above = .ok parent) (outside : ¬barrier <+: parent)
    (reached : before.resolve path = .ok place) : after.resolve path = .ok place := by
  obtain ⟨sayable, walked⟩ := (resolve_eq_ok before path place).mp reached
  have same : after.start path = before.start path := by simp [start, here]
  rw [resolve_eq_ok, same]
  refine ⟨sayable, ?_⟩
  rw [parts, walk_append] at walked ⊢
  obtain ⟨middle, first, step⟩ := walked
  obtain rfl : middle = parent := by simpa [first] using front
  refine ⟨middle, walk_kept before after barrier _ middle above closed kept outside first, ?_⟩
  obtain ⟨there, onward⟩ := (walk_cons ..).mp step
  exact (walk_cons ..).mpr ⟨kept middle there outside, by simpa [walk] using onward⟩

theorem find_eq_ok (files : Files) (path : Path) (node : Node) :
    files.find path = .ok node ↔
      ∃ place, files.resolve path = .ok place ∧ files.node? place = some node := by
  unfold find
  cases files.resolve path with
  | error cause => simp [bind, Except.bind]
  | ok place => cases there : files.node? place <;> simp [bind, Except.bind, refuse, there]

theorem read_eq_ok (files : Files) (path : Path) (content : Bytes) :
    files.read path = .ok content ↔
      ∃ place mode, files.resolve path = .ok place ∧
        files.node? place = some (.file content mode) := by
  unfold read
  cases found : files.find path with
  | error cause =>
      simp only [bind, Except.bind, reduceCtorEq, false_iff, not_exists]
      intro place mode there
      have missing := (find_eq_ok files path _).mpr ⟨place, there⟩
      rw [found] at missing
      cases missing
  | ok node =>
      obtain ⟨place, reached, there⟩ := (find_eq_ok files path node).mp found
      cases node <;> simp [bind, Except.bind, refuse, reached, there]

theorem size_of_read (files : Files) (path : Path) (content : Bytes)
    (read : files.read path = .ok content) : files.size path = .ok content.length := by
  obtain ⟨place, mode, reached, there⟩ := (read_eq_ok ..).mp read
  simp only [size, (find_eq_ok files path _).mpr ⟨place, reached, there⟩, bind, Except.bind]

theorem find_of_some (files : Files) (path : Path) (node : Node)
    (found : files.find? path = .ok (some node)) : files.find path = .ok node := by
  unfold find? at found
  split at found
  · rename_i there
    cases found
    exact there
  · split at found <;> cases found
  · cases found

theorem isFile_read (files : Files) (path : Path) (there : files.isFile path = .ok true) :
    ∃ content, files.read path = .ok content := by
  unfold isFile at there
  cases found : files.find? path with
  | error cause => simp [found, bind, Except.bind] at there
  | ok node? =>
      obtain _ | _ | ⟨content, mode⟩ := node?
      · simp [found, bind, Except.bind, pure, Except.pure] at there
      · simp [found, bind, Except.bind, pure, Except.pure] at there
      · refine ⟨content, ?_⟩
        simp [read, find_of_some _ _ _ found, bind, Except.bind]

theorem missing_of_resolve (files : Files) (path : Path) (place : Place)
    (reached : files.resolve path = .ok place) (free : files.node? place = none) :
    files.exists? path = .ok false := by
  simp [exists?, find?, find, reached, free, refuse, bind, Except.bind, pure, Except.pure]

theorem write_ok (files after : Files) (path : Path) (content : Bytes)
    (done : files.write path content = .ok after) :
    ∃ place mode, files.resolve path = .ok place ∧ files.node? place ≠ some .directory ∧
      after = files.put place (.file content mode) := by
  unfold write at done
  cases reached : files.resolve path with
  | error cause => simp [reached, bind, Except.bind] at done
  | ok place =>
      rw [reached] at done
      simp only [bind, Except.bind] at done
      split at done
      · cases done
      · rename_i old mode there
        injection done with same
        exact ⟨place, mode, rfl, by simp [there], same.symm⟩
      · rename_i free
        injection done with same
        exact ⟨place, newFileMode, rfl, by simp [free], same.symm⟩

theorem write_of_place (files : Files) (path : Path) (content : Bytes) (place : Place)
    (reached : files.resolve path = .ok place) (open_ : files.node? place ≠ some .directory) :
    ∃ mode, files.write path content = .ok (files.put place (.file content mode)) := by
  unfold write
  rw [reached]
  simp only [bind, Except.bind]
  split
  · contradiction
  · exact ⟨_, rfl⟩
  · exact ⟨_, rfl⟩

theorem named_of_open (files : Files) (place : Place)
    (open_ : files.node? place ≠ some .directory) : place ≠ [] := by
  rintro rfl
  exact open_ (node_root files)

theorem resolve_put (files : Files) (path : Path) (place goal : Place) (node : Node)
    (open_ : files.node? place ≠ some .directory) (reached : files.resolve path = .ok goal) :
    (files.put place node).resolve path = .ok goal := by
  apply resolve_mono files _ path goal (here_put ..) _ reached
  intro other there
  have apart : other ≠ place := fun same => open_ (same ▸ there)
  rw [node_put _ _ _ _ (named_of_open files place open_), if_neg apart, there]

theorem read_put_apart (files : Files) (path : Path) (place : Place) (node : Node) (content : Bytes)
    (open_ : files.node? place ≠ some .directory) (apart : files.resolve path ≠ .ok place)
    (read : files.read path = .ok content) : (files.put place node).read path = .ok content := by
  obtain ⟨goal, mode, reached, there⟩ := (read_eq_ok ..).mp read
  have other : goal ≠ place := by
    rintro rfl
    exact apart reached
  refine (read_eq_ok ..).mpr ⟨goal, mode, resolve_put files path place goal node open_ reached, ?_⟩
  rw [node_put _ _ _ _ (named_of_open files place open_), if_neg other, there]

theorem read_put (files : Files) (path : Path) (place : Place) (node : Node) (content : Bytes)
    (free : files.node? place = none) (read : files.read path = .ok content) :
    (files.put place node).read path = .ok content := by
  refine read_put_apart files path place node content (by simp [free]) (fun reached => ?_) read
  obtain ⟨goal, mode, reached', there⟩ := (read_eq_ok ..).mp read
  cases reached.symm.trans reached'
  rw [free] at there
  cases there

theorem write_read (files after : Files) (path : Path) (content : Bytes)
    (done : files.write path content = .ok after) : after.read path = .ok content := by
  obtain ⟨place, mode, reached, open_, rfl⟩ := write_ok files after path content done
  refine (read_eq_ok ..).mpr ⟨place, mode, resolve_put files path place place _ open_ reached, ?_⟩
  rw [node_put _ _ _ _ (named_of_open files place open_), if_pos rfl]

theorem read_written (files after : Files) (path target : Path) (content written : Bytes)
    (read : files.read path = .ok content) (done : files.write target written = .ok after) :
    after.read path = .ok content ∨ after.read path = .ok written := by
  obtain ⟨goal, mode, reached, there⟩ := (read_eq_ok ..).mp read
  obtain ⟨place, newMode, _, open_, rfl⟩ := write_ok files after target written done
  have kept := resolve_put files path place goal (.file written newMode) open_ reached
  have node := node_put files place goal (.file written newMode) (named_of_open files place open_)
  by_cases same : goal = place
  · rw [if_pos same] at node
    exact Or.inr ((read_eq_ok ..).mpr ⟨goal, newMode, kept, node⟩)
  · rw [if_neg same, there] at node
    exact Or.inl ((read_eq_ok ..).mpr ⟨goal, mode, kept, node⟩)

theorem remove_ok (files after : Files) (path : Path) (done : files.remove path = .ok after) :
    ∃ place content mode, files.resolve path = .ok place ∧
      files.node? place = some (.file content mode) ∧ after = files.dropUnder place := by
  unfold remove at done
  cases reached : files.resolve path with
  | error cause => simp [reached, bind, Except.bind] at done
  | ok place =>
      rw [reached] at done
      simp only [bind, Except.bind] at done
      split at done
      · rename_i content mode there
        injection done with same
        exact ⟨place, content, mode, rfl, there, same.symm⟩
      · cases done
      · cases done

theorem rename_file (files : Files) (source target : Path) (origin goal : Place)
    (content : Bytes) (mode : Nat) (fromOrigin : files.resolve source = .ok origin)
    (toGoal : files.resolve target = .ok goal)
    (there : files.node? origin = some (.file content mode))
    (open_ : files.node? goal ≠ some .directory) (apart : origin ≠ goal) :
    files.rename source target =
      .ok ((files.dropUnder origin).put goal (.file content mode)) := by
  simp only [rename, fromOrigin, toGoal, there, bind, Except.bind]
  split <;> simp_all

end DexGraft.Files
