import DexGraft.Proofs.Files.Scratch

/-!
Directories made and removed. A tree of files stays one in which everything stands in
a directory, and a directory is only made where nothing stood.
-/
namespace DexGraft.Files

theorem Sound.drop {files : Files} (sound : files.Sound) (place : Place) (named : place ≠ []) :
    (files.dropUnder place).Sound := by
  intro other name there
  rw [node_dropUnder _ _ _ named] at there ⊢
  split at there
  · exact absurd rfl there
  · rename_i outside
    rw [if_neg fun under => outside (under.trans (List.prefix_append _ _))]
    exact sound other name there

theorem Sound.congr {files after : Files} (sound : files.Sound)
    (same : ∀ other, after.node? other = files.node? other) : after.Sound := by
  intro other name there
  rw [same] at there ⊢
  exact sound other name there

theorem Sound.parent {files : Files} (sound : files.Sound) (place : Place)
    (there : files.node? place = some .directory) :
    files.node? place.dropLast = some .directory :=
  sound.above place there _ (List.dropLast_prefix place)

theorem Sound.free_named {files : Files} (sound : files.Sound) (path : Path) (place : Place)
    (filled : path.parts ≠ []) (reached : files.resolve path = .ok place)
    (free : files.node? place = none) :
    ∃ above name parent, path.parts = above ++ [name] ∧ name ≠ ".." ∧
      files.walk (files.start path) above = .ok parent ∧
      files.node? parent = some .directory ∧ place = parent ++ [name] := by
  have parts := (List.dropLast_concat_getLast filled).symm
  have walked := ((resolve_eq_ok ..).mp reached).2
  rw [parts, walk_append] at walked
  obtain ⟨parent, front, step⟩ := walked
  obtain ⟨there, ⟨_, arrived⟩ | ⟨down, _, arrived⟩⟩ := (walk_cons ..).mp step
  · cases arrived
    rw [sound.parent parent there] at free
    cases free
  · cases arrived
    exact ⟨_, _, parent, parts, down, front, there, rfl⟩

theorem Sound.makeDirectory {files after : Files} (sound : files.Sound) (path : Path)
    (done : files.makeDirectory path = .ok after) : after.Sound := by
  obtain ⟨filled, place, reached, free, _, rfl⟩ := makeDirectory_named _ _ _ done
  obtain ⟨_, name, parent, _, _, _, there, rfl⟩ := sound.free_named path place filled reached free
  exact sound.put_directory parent name there

theorem Sound.makeMissing {files after : Files} (sound : files.Sound) (path : Path)
    (done : files.makeMissing path = .ok after) : after.Sound := by
  unfold Files.makeMissing at done
  split at done
  · cases done
    exact sound
  · split at done
    · exact sound.makeDirectory path done
    · cases done
  · cases done

-- By induction on the paths; each is made in the files the ones before it left.
theorem Sound.makeAll {files after : Files} (sound : files.Sound) (paths : List Path)
    (done : paths.foldlM Files.makeMissing files = .ok after) : after.Sound := by
  induction paths generalizing files with
  | nil =>
      cases done
      exact sound
  | cons path rest ih =>
      rw [List.foldlM_cons] at done
      cases first : files.makeMissing path with
      | error cause => simp [first, bind, Except.bind] at done
      | ok next =>
          rw [first] at done
          exact ih (sound.makeMissing path first) done

/-- Nothing stands where a path with a name leads. -/
structure NewPlace (prior : Files) (path : Path) (place : Place) : Prop where
  sound : prior.Sound
  filled : path.parts ≠ []
  reached : prior.resolve path = .ok place
  free : prior.node? place = none

section

variable {prior files : Files} {path : Path} {place : Place}

theorem NewPlace.named (new : NewPlace prior path place) : place ≠ [] :=
  named_of_open prior place (by simp [new.free])

theorem NewPlace.apart (new : NewPlace prior path place) (other : Place)
    (there : prior.node? other = some .directory) : ¬place <+: other := by
  rintro ⟨names, rfl⟩
  rw [new.sound.nothing_under place new.free names] at there
  cases there

theorem NewPlace.leads (new : NewPlace prior path place) (here : files.here = prior.here)
    (kept : ∀ other, prior.node? other = some .directory → files.node? other = some .directory) :
    files.resolve path = .ok place :=
  resolve_mono prior files path place here kept new.reached

theorem NewPlace.above (new : NewPlace prior path place) (upper : Place) (covers : upper <+: place)
    (other : upper ≠ place) : prior.node? upper = some .directory := by
  obtain ⟨_, name, parent, _, _, _, there, rfl⟩ :=
    new.sound.free_named path place new.filled new.reached new.free
  rcases List.prefix_concat_iff.mp covers with same | covers
  · exact absurd same other
  · exact new.sound.above parent there upper covers

end

theorem NewPlace.made_sound {prior : Files} {path : Path} {place : Place}
    (new : NewPlace prior path place) : (prior.put place .directory).Sound := by
  obtain ⟨_, name, parent, _, _, _, there, rfl⟩ :=
    new.sound.free_named path place new.filled new.reached new.free
  exact new.sound.put_directory parent name there

theorem Sound.makeDirectories {files after : Files} (sound : files.Sound) (path : Path)
    (done : files.makeDirectories path = .ok after) :
    ∃ prior place, NewPlace prior path place ∧ after = prior.put place .directory := by
  unfold Files.makeDirectories at done
  simp only [bind, Except.bind] at done
  split at done
  · cases done
  · rename_i prior made
    obtain ⟨filled, place, reached, free, _, rfl⟩ := makeDirectory_named _ _ _ done
    exact ⟨prior, place, ⟨sound.makeAll _ made, filled, reached, free⟩, rfl⟩

end DexGraft.Files
