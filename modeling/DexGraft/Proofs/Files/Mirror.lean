import DexGraft.Proofs.Files.Beyond

/-!
The same files in two places. Where the same is to be seen under two places, all that is
looked up or changed by names from there on comes out the same, as long as these names do
not lead out.
-/
namespace DexGraft

def Node.shown : Node → Option Bytes
  | .directory => none
  | .file content _ => some content

namespace Files

def seen (files : Files) (place : Place) : Option (Option Bytes) :=
  (files.node? place).map Node.shown

theorem seen_directory (files : Files) (place : Place) :
    files.seen place = some none ↔ files.node? place = some .directory := by
  unfold seen
  cases files.node? place with
  | none => simp
  | some node => cases node <;> simp [Node.shown]

theorem seen_free (files : Files) (place : Place) :
    files.seen place = none ↔ files.node? place = none := by
  simp [seen]

theorem seen_file (files : Files) (place : Place) (content : Bytes) :
    files.seen place = some (some content) ↔ ∃ mode, files.node? place = some (.file content mode) := by
  unfold seen
  cases files.node? place with
  | none => simp
  | some node => cases node <;> simp [Node.shown]

/-- The same is to be seen under both places. -/
def SameUnder (left right : Place) (first second : Files) : Prop :=
  ∀ names, first.seen (left ++ names) = second.seen (right ++ names)

section

variable {left right : Place} {first second first' second' : Files}

theorem SameUnder.deeper (same : SameUnder left right first second) (names : List String) :
    SameUnder (left ++ names) (right ++ names) first second := by
  intro more
  rw [List.append_assoc, List.append_assoc]
  exact same (names ++ more)

theorem SameUnder.here (same : SameUnder left right first second) :
    first.seen left = second.seen right := by
  simpa using same []

theorem SameUnder.change (same : SameUnder left right first second) (name : String)
    (onLeft : SameOutside (left ++ [name]) first first')
    (onRight : SameOutside (right ++ [name]) second second')
    (inner : SameUnder (left ++ [name]) (right ++ [name]) first' second') :
    SameUnder left right first' second' := by
  intro names
  by_cases under : [name] <+: names
  · obtain ⟨more, rfl⟩ := under
    rw [← List.append_assoc, ← List.append_assoc]
    exact inner more
  · have outside : ∀ place : Place, ¬place ++ [name] <+: place ++ names := fun place covers =>
      under ((List.prefix_append_right_inj place).mp covers)
    rw [seen, seen, onLeft.rest _ (outside left), onRight.rest _ (outside right)]
    exact same names

theorem SameUnder.put (same : SameUnder left right first second) (names : List String)
    (named : left ++ names ≠ []) (named' : right ++ names ≠ []) (node node' : Node)
    (shown : node.shown = node'.shown) :
    SameUnder left right (first.put (left ++ names) node) (second.put (right ++ names) node') := by
  intro other
  rw [seen, seen, node_put _ _ _ _ named, node_put _ _ _ _ named']
  by_cases here : other = names
  · simp [here, shown]
  · rw [if_neg (by simpa using here), if_neg (by simpa using here)]
    exact same other

end

def follow (front : List String) : List String → Option (List String)
  | [] => some front
  | name :: rest =>
      if name = ".." then if front = [] then none else follow front.dropLast rest
      else follow (front ++ [name]) rest

theorem follow_append (front names more : List String) :
    follow front (names ++ more) = (follow front names).bind fun middle => follow middle more := by
  induction names generalizing front with
  | nil => rfl
  | cons name rest ih =>
      rw [List.cons_append, follow, follow]
      split
      · split
        · rfl
        · exact ih _
      · exact ih _

theorem follow_down (front : List String) (name : String) (down : name ≠ "..") :
    follow front [name] = some (front ++ [name]) := by
  rw [follow, if_neg down, follow]

theorem follow_all (front names : List String) (down : ".." ∉ names) :
    follow front names = some (front ++ names) := by
  induction names generalizing front with
  | nil => simp [follow]
  | cons name rest ih =>
      obtain ⟨here, later⟩ := List.ne_and_not_mem_of_not_mem_cons down
      rw [follow, if_neg here.symm, ih _ later, List.append_assoc, List.singleton_append]

theorem walk_mirrored {left right : Place} {first second : Files}
    (same : SameUnder left right first second) (front names goal : List String)
    (within : follow front names = some goal) :
    (first.walk (left ++ front) names = .ok (left ++ goal) ∧
        second.walk (right ++ front) names = .ok (right ++ goal)) ∨
      ∃ kind, first.walk (left ++ front) names = .error kind ∧
        second.walk (right ++ front) names = .error kind := by
  induction names generalizing front with
  | nil =>
      cases within
      exact Or.inl ⟨rfl, rfl⟩
  | cons name rest ih =>
      have here := same front
      simp only [walk]
      cases there : first.node? (left ++ front) with
      | none =>
          rw [(seen_free ..).mpr there] at here
          rw [(seen_free ..).mp here.symm]
          exact Or.inr ⟨_, rfl, rfl⟩
      | some node =>
          cases node with
          | file content mode =>
              rw [(seen_file ..).mpr ⟨mode, there⟩] at here
              obtain ⟨_, other⟩ := (seen_file ..).mp here.symm
              rw [other]
              exact Or.inr ⟨_, rfl, rfl⟩
          | directory =>
              rw [(seen_directory ..).mpr there] at here
              rw [(seen_directory ..).mp here.symm]
              rw [follow] at within
              by_cases up : name = ".."
              · rw [if_pos up] at within
                split at within
                · cases within
                · rename_i filled
                  simp only [if_pos up, List.dropLast_append_of_ne_nil filled]
                  exact ih _ within
              · rw [if_neg up] at within
                simp only [if_neg up, List.append_assoc]
                split
                · exact Or.inr ⟨_, rfl, rfl⟩
                · exact ih _ within

structure Peers (path path' : Path) : Prop where
  filled : path.parts ≠ []
  filled' : path'.parts ≠ []
  size : path.text.utf8ByteSize = path'.text.utf8ByteSize

theorem Peers.beyond {path path' : Path} (peers : Peers path path') (names : List String) :
    Peers (beyond path names) (beyond path' names) := by
  refine ⟨by simp [Files.beyond, peers.filled], by simp [Files.beyond, peers.filled'], ?_⟩
  cases names with
  | nil => rw [beyond_nil, beyond_nil, peers.size]
  | cons name rest =>
      rw [beyond_text _ _ peers.filled (List.cons_ne_nil _ _),
        beyond_text _ _ peers.filled' (List.cons_ne_nil _ _)]
      simp only [String.utf8ByteSize_append, peers.size]

theorem Peers.child {path path' : Path} (peers : Peers path path') (name : String)
    (plain : PlainName name) :
    (path / name).text.utf8ByteSize = (path' / name).text.utf8ByteSize := by
  rw [beyond_child path name plain, beyond_child path' name plain]
  exact (peers.beyond [name]).size

theorem resolves_alike (first second : Files) (path path' : Path) (name : String)
    (left right : Place) (plain : PlainName name) (reached : first.resolve path = .ok left)
    (there : first.node? left = some .directory) (reached' : second.resolve path' = .ok right)
    (there' : second.node? right = some .directory)
    (size : (path / name).text.utf8ByteSize = (path' / name).text.utf8ByteSize) :
    (∃ place, first.resolve (path / name) = .ok place) ↔
      ∃ place, second.resolve (path' / name) = .ok place := by
  rw [resolves_child first path name left plain reached there,
    resolves_child second path' name right plain reached' there', size]

theorem child_reached {files files' : Files} {path path' : Path} {left right spot : Place}
    (name : String) (plain : PlainName name) (peers : Peers path path')
    (leads : files.resolve path = .ok left) (reached : files.resolve (path / name) = .ok spot)
    (leads' : files'.resolve path' = .ok right) (there' : files'.node? right = some .directory) :
    files'.resolve (path' / name) = .ok (right ++ [name]) := by
  obtain ⟨rfl, there⟩ := resolve_child files path name left spot plain leads reached
  obtain ⟨spot', reached'⟩ := (resolves_alike files files' path path' name left right plain leads
    there leads' there' (peers.child name plain)).mp ⟨_, reached⟩
  obtain ⟨rfl, _⟩ := resolve_child files' path' name right spot' plain leads' reached'
  exact reached'

/-- Two paths lead to the same names in both trees, or are refused for the same reason. -/
inductive Mirrored (left right : Place) (goal : List String) :
    Except Cause Place → Except Cause Place → Prop
  | leads : Mirrored left right goal (.ok (left ++ goal)) (.ok (right ++ goal))
  | unsayable : Mirrored left right goal (.error .nulCharacter) (.error .nulCharacter)
  | barred (kind : FileFault.Kind) (text text' : String) :
      Mirrored left right goal (.error (.file ⟨kind, text⟩)) (.error (.file ⟨kind, text'⟩))

section

variable {left right : Place} {first second : Files} {path path' : Path} {goal : List String}

theorem resolve_mirrored (peers : Peers path path') (names : List String)
    (within : follow [] names = some goal) (reached : first.resolve path = .ok left)
    (reached' : second.resolve path' = .ok right) (same : SameUnder left right first second) :
    Mirrored left right goal (first.resolve (beyond path names))
      (second.resolve (beyond path' names)) := by
  obtain ⟨⟨nulFree, short⟩, walked⟩ := (resolve_eq_ok ..).mp reached
  obtain ⟨⟨nulFree', short'⟩, walked'⟩ := (resolve_eq_ok ..).mp reached'
  have sizes := (peers.beyond names).size
  have nul : (beyond path names).text.toList.any (·.toNat == 0) =
      (beyond path' names).text.toList.any (·.toNat == 0) := by
    cases names with
    | nil => rw [beyond_nil, beyond_nil, nulFree, nulFree']
    | cons name rest =>
        rw [beyond_text _ _ peers.filled (List.cons_ne_nil _ _),
          beyond_text _ _ peers.filled' (List.cons_ne_nil _ _)]
        simp only [String.toList_append, List.any_append, nulFree, nulFree']
  have onward : first.walk (first.start (beyond path names)) (beyond path names).parts =
      first.walk left names := walk_onto _ _ _ path.parts names walked
  have onward' : second.walk (second.start (beyond path' names)) (beyond path' names).parts =
      second.walk right names := walk_onto _ _ _ path'.parts names walked'
  unfold start at onward onward'
  unfold resolve
  rw [nul, sizes, onward, onward']
  split
  · exact .unsayable
  split
  · exact .barred _ _ _
  rcases walk_mirrored same [] names goal within with ⟨there, there'⟩ | ⟨kind, stopped, stopped'⟩
  · rw [List.append_nil] at there there'
    rw [there, there']
    exact .leads
  · rw [List.append_nil] at stopped stopped'
    rw [stopped, stopped']
    exact .barred _ _ _

theorem leads_within (names : List String) (within : follow [] names = some goal)
    (filled : path.parts ≠ []) (reached : first.resolve path = .ok left) (spot : Place)
    (leads : first.resolve (beyond path names) = .ok spot) : spot = left ++ goal := by
  have mirrored := resolve_mirrored ⟨filled, filled, rfl⟩ names within reached reached fun _ => rfl
  rw [leads] at mirrored
  cases mirrored
  rfl

namespace Mirrored

variable (mirrored : Mirrored left right goal (first.resolve path) (second.resolve path'))
  (same : SameUnder left right first second)

include mirrored same

theorem find? :
    (∃ found found', first.find? path = .ok found ∧ second.find? path' = .ok found' ∧
        found.map Node.shown = found'.map Node.shown) ∨
      ∃ cause cause', first.find? path = .error cause ∧ second.find? path' = .error cause' := by
  have here := same goal
  unfold Files.find? Files.find
  generalize first.resolve path = reached at mirrored
  generalize second.resolve path' = reached' at mirrored
  cases mirrored with
  | leads =>
      refine Or.inl ⟨first.node? (left ++ goal), second.node? (right ++ goal), ?_, ?_, here⟩
      · simp only [bind, Except.bind]
        cases first.node? (left ++ goal) <;> rfl
      · simp only [bind, Except.bind]
        cases second.node? (right ++ goal) <;> rfl
  | unsayable => exact Or.inl ⟨none, none, rfl, rfl, rfl⟩
  | barred kind text text' =>
      simp only [bind, Except.bind]
      split
      · exact Or.inl ⟨none, none, rfl, rfl, rfl⟩
      · exact Or.inr ⟨_, _, rfl, rfl⟩

theorem isFile :
    (∃ there, first.isFile path = .ok there ∧ second.isFile path' = .ok there) ∨
      ∃ cause cause', first.isFile path = .error cause ∧ second.isFile path' = .error cause' := by
  unfold Files.isFile
  rcases mirrored.find? same with ⟨found, found', done, done', shown⟩ | ⟨_, _, failed, failed'⟩
  · rw [done, done']
    refine Or.inl ⟨_, rfl, ?_⟩
    rcases found with _ | _ | _ <;> rcases found' with _ | _ | _ <;>
      first | rfl | simp [Node.shown] at shown
  · rw [failed, failed']
    exact Or.inr ⟨_, _, rfl, rfl⟩

theorem read :
    (∃ content, first.read path = .ok content ∧ second.read path' = .ok content) ∨
      ∃ cause cause', first.read path = .error cause ∧ second.read path' = .error cause' := by
  have here := same goal
  unfold Files.read Files.find
  generalize first.resolve path = reached at mirrored
  generalize second.resolve path' = reached' at mirrored
  cases mirrored with
  | leads =>
      simp only [bind, Except.bind]
      cases there : first.node? (left ++ goal) with
      | none =>
          rw [(seen_free ..).mpr there] at here
          rw [(seen_free ..).mp here.symm]
          exact Or.inr ⟨_, _, rfl, rfl⟩
      | some node =>
          cases node with
          | directory =>
              rw [(seen_directory ..).mpr there] at here
              rw [(seen_directory ..).mp here.symm]
              exact Or.inr ⟨_, _, rfl, rfl⟩
          | file content mode =>
              rw [(seen_file ..).mpr ⟨mode, there⟩] at here
              obtain ⟨_, other⟩ := (seen_file ..).mp here.symm
              rw [other]
              exact Or.inl ⟨content, rfl, rfl⟩
  | unsayable => exact Or.inr ⟨_, _, rfl, rfl⟩
  | barred kind text text' => exact Or.inr ⟨_, _, rfl, rfl⟩

theorem write (content : Bytes) :
    (∃ mode mode', first.write path content = .ok (first.put (left ++ goal) (.file content mode)) ∧
        second.write path' content = .ok (second.put (right ++ goal) (.file content mode'))) ∨
      ∃ cause cause', first.write path content = .error cause ∧
        second.write path' content = .error cause' := by
  have here := same goal
  unfold Files.write
  generalize first.resolve path = reached at mirrored
  generalize second.resolve path' = reached' at mirrored
  cases mirrored with
  | leads =>
      simp only [bind, Except.bind]
      cases there : first.node? (left ++ goal) with
      | none =>
          rw [(seen_free ..).mpr there] at here
          rw [(seen_free ..).mp here.symm]
          exact Or.inl ⟨_, _, rfl, rfl⟩
      | some node =>
          cases node with
          | directory =>
              rw [(seen_directory ..).mpr there] at here
              rw [(seen_directory ..).mp here.symm]
              exact Or.inr ⟨_, _, rfl, rfl⟩
          | file content mode =>
              rw [(seen_file ..).mpr ⟨mode, there⟩] at here
              obtain ⟨_, other⟩ := (seen_file ..).mp here.symm
              rw [other]
              exact Or.inl ⟨_, _, rfl, rfl⟩
  | unsayable => exact Or.inr ⟨_, _, rfl, rfl⟩
  | barred kind text text' => exact Or.inr ⟨_, _, rfl, rfl⟩

theorem makeDirectory (peers : Peers path path') :
    (first.makeDirectory path = .ok (first.put (left ++ goal) .directory) ∧
        second.makeDirectory path' = .ok (second.put (right ++ goal) .directory)) ∨
      ∃ cause cause', first.makeDirectory path = .error cause ∧
        second.makeDirectory path' = .error cause' := by
  have here := same goal
  have named : path.parts.isEmpty = false := by simpa using peers.filled
  have named' : path'.parts.isEmpty = false := by simpa using peers.filled'
  unfold Files.makeDirectory
  rw [named, named']
  generalize first.resolve path = reached at mirrored
  generalize second.resolve path' = reached' at mirrored
  cases mirrored with
  | leads =>
      simp only [bind, Except.bind]
      cases there : first.node? (left ++ goal) with
      | none =>
          rw [(seen_free ..).mpr there] at here
          rw [(seen_free ..).mp here.symm]
          exact Or.inl ⟨rfl, rfl⟩
      | some node =>
          cases other : second.node? (right ++ goal) with
          | none =>
              rw [(seen_free ..).mpr other, seen_free] at here
              rw [here] at there
              cases there
          | some node' => exact Or.inr ⟨_, _, rfl, rfl⟩
  | unsayable => exact Or.inr ⟨_, _, rfl, rfl⟩
  | barred kind text text' => exact Or.inr ⟨_, _, rfl, rfl⟩

end Mirrored

end

end Files
end DexGraft
