import DexGraft.Proofs.Files.Frames
import DexGraft.Proofs.Session.Run
import DexGraft.Proofs.Text.Cut

/-!
Directories that are made for a while. Each is new when it is made, and nothing
stands in it.
-/
namespace DexGraft

theorem Path.rootSlashes_eq_zero (text : List Char) :
    Path.rootSlashes text = 0 ↔ text.head? ≠ some '/' := by
  unfold Path.rootSlashes
  cases text with
  | nil => simp
  | cons c rest =>
      by_cases slash : c = '/'
      · subst slash
        simp only [List.takeWhile_cons, beq_self_eq_true, ↓reduceIte, List.length_cons]
        split <;> simp_all
      · simp [slash]

namespace Files

theorem plainName_of (name : String) (filled : name ≠ "") (here : name ≠ ".") (down : name ≠ "..")
    (whole : ∀ c ∈ name.toList, c ≠ '/') : PlainName name := by
  refine ⟨?_, down⟩
  have parts : Path.partsOf name.toList = [name] := by
    simp [Path.partsOf, Text.splitAt_whole '/' name.toList whole, filled, here]
  have relative : Path.rootSlashes name.toList = 0 :=
    (Path.rootSlashes_eq_zero _).mpr fun slash => whole _ (List.mem_of_head? slash) rfl
  rw [Path.ofText, parts, relative]

theorem ofText_part (text part : String) (member : part ∈ (Path.ofText text).parts) :
    part ≠ "" ∧ part ≠ "." ∧ ∀ c ∈ part.toList, c ≠ '/' := by
  simp only [Path.ofText, Path.partsOf, List.mem_filter, List.mem_map, Bool.and_eq_true,
    bne_iff_ne] at member
  obtain ⟨⟨piece, cut, rfl⟩, filled, here⟩ := member
  rw [String.toList_ofList]
  exact ⟨filled, here, Text.splitAt_pieces '/' _ piece cut⟩

theorem ofText_name (text : String) :
    (Path.ofText text).name = "" ∨ (Path.ofText text).name ∈ (Path.ofText text).parts := by
  rw [Path.name, List.getLastD_eq_getLast?]
  cases last : (Path.ofText text).parts.getLast? with
  | none => exact Or.inl rfl
  | some name => exact Or.inr (List.mem_of_getLast? last)

theorem name_whole (text : String) : ∀ c ∈ (Path.ofText text).name.toList, c ≠ '/' := by
  rcases ofText_name text with empty | member
  · simp [empty]
  · exact (ofText_part text _ member).2.2

theorem name_plain (text : String) :
    (Path.ofText text).name = "" ∨ (Path.ofText text).name = ".." ∨
      PlainName (Path.ofText text).name := by
  rcases ofText_name text with empty | member
  · exact Or.inl empty
  · obtain ⟨filled, here, whole⟩ := ofText_part text _ member
    by_cases up : (Path.ofText text).name = ".."
    · exact Or.inr (Or.inl up)
    · exact Or.inr (Or.inr (plainName_of _ filled here up whole))

theorem stem_whole (text : String) : ∀ c ∈ (Path.ofText text).stem.toList, c ≠ '/' := by
  rw [Path.stem, String.toList_ofList]
  intro c member
  unfold Path.stemOf at member
  extract_lets ending stem at member
  split at member
  · exact name_whole text c member
  · exact name_whole text c (List.mem_of_mem_take member)

theorem PlainName.whole {name : String} (plain : PlainName name) : ∀ c ∈ name.toList, c ≠ '/' :=
  (ofText_part name name (by rw [plain.single]; exact List.mem_singleton_self name)).2.2

theorem joined_plain (front back : String) (long : 2 < front.length)
    (frontWhole : ∀ c ∈ front.toList, c ≠ '/') (backWhole : ∀ c ∈ back.toList, c ≠ '/') :
    PlainName (front ++ back) := by
  have size : 2 < (front ++ back).length := by
    rw [String.length_append]
    omega
  apply plainName_of
  · intro same
    rw [same] at size
    exact absurd size (by decide)
  · intro same
    rw [same] at size
    exact absurd size (by decide)
  · intro same
    rw [same] at size
    exact absurd size (by decide)
  · intro c member
    rw [String.toList_append, List.mem_append] at member
    rcases member with front | back
    · exact frontWhole c front
    · exact backWhole c back

/-- Whatever stands somewhere stands in a directory. -/
def Sound (files : Files) : Prop :=
  ∀ place name, files.node? (place ++ [name]) ≠ none → files.node? place = some .directory

theorem Sound.nothing_under {files : Files} (sound : files.Sound) (place : Place)
    (free : files.node? place = none) (names : List String) :
    files.node? (place ++ names) = none := by
  induction names using List.reverseRecOn with
  | nil => simpa using free
  | append_singleton names name ih =>
      by_contra there
      rw [← List.append_assoc] at there
      have directory := sound (place ++ names) name there
      rw [ih] at directory
      cases directory

theorem Sound.above {files : Files} (sound : files.Sound) (place : Place)
    (there : files.node? place = some .directory) (upper : Place) (covers : upper <+: place) :
    files.node? upper = some .directory := by
  obtain ⟨names, rfl⟩ := covers
  induction names using List.reverseRecOn with
  | nil => simpa using there
  | append_singleton names name ih =>
      refine ih (sound (upper ++ names) name ?_)
      rw [List.append_assoc, there]
      exact Option.some_ne_none _

theorem Sound.put_directory {files : Files} (sound : files.Sound) (parent : Place) (name : String)
    (above : files.node? parent = some .directory) :
    (files.put (parent ++ [name]) .directory).Sound := by
  intro place child there
  have named : parent ++ [name] ≠ [] := by simp
  rw [node_put _ _ _ _ named] at there ⊢
  split
  · rfl
  · split at there
    · rename_i same
      obtain ⟨rfl, _⟩ := List.append_inj' same rfl
      exact above
    · exact sound place child there

theorem makeMissing_there (files after : Files) (path : Path) (place : Place)
    (walked : files.walk (files.start path) path.parts = .ok place)
    (there : files.node? place = some .directory) (done : files.makeMissing path = .ok after) :
    after = files := by
  unfold makeMissing at done
  split at done
  · injection done with same
    exact same.symm
  · split at done
    · obtain ⟨spot, reached, free, _, _⟩ := makeDirectory_ok _ _ _ done
      have same := ((resolve_eq_ok _ _ _).mp reached).2
      rw [walked] at same
      cases same
      rw [free] at there
      cases there
    · cases done
  · cases done

theorem walk_passes (files : Files) (place spot : Place) (names : List String) (count : Nat)
    (directory : files.node? spot = some .directory)
    (walked : files.walk place names = .ok spot) :
    ∃ between, files.walk place (names.take count) = .ok between ∧
      files.node? between = some .directory := by
  rw [← List.take_append_drop count names, walk_append] at walked
  obtain ⟨between, front, back⟩ := walked
  refine ⟨between, front, ?_⟩
  cases rest : names.drop count with
  | nil =>
      rw [rest] at back
      cases back
      exact directory
  | cons next more =>
      rw [rest] at back
      exact ((walk_cons ..).mp back).1

theorem makeMissing_all (files after : Files) (paths : List Path)
    (there : ∀ path ∈ paths, ∃ place, files.walk (files.start path) path.parts = .ok place ∧
      files.node? place = some .directory)
    (done : paths.foldlM makeMissing files = .ok after) : after = files := by
  induction paths with
  | nil =>
      cases done
      rfl
  | cons path rest ih =>
      rw [List.foldlM_cons] at done
      cases first : files.makeMissing path with
      | error cause => simp [first, bind, Except.bind] at done
      | ok next =>
          obtain ⟨place, walked, directory⟩ := there path List.mem_cons_self
          obtain rfl := makeMissing_there files next path place walked directory first
          rw [first] at done
          exact ih (fun other member => there other (List.mem_cons_of_mem _ member)) done

theorem makeDirectories_child (files after : Files) (base : Path) (name : String) (spot : Place)
    (plain : PlainName name) (there : files.resolve base = .ok spot)
    (directory : files.node? spot = some .directory)
    (done : files.makeDirectories (base / name) = .ok after) :
    files.resolve (base / name) = .ok (spot ++ [name]) ∧ files.node? (spot ++ [name]) = none ∧
      after = files.put (spot ++ [name]) .directory := by
  have walked := ((resolve_eq_ok _ _ _).mp there).2
  unfold makeDirectories at done
  simp only [bind, Except.bind] at done
  split at done
  · cases done
  · rename_i prepared made
    have same : prepared = files := by
      apply makeMissing_all files prepared _ _ made
      intro path member
      obtain ⟨count, bound, rfl⟩ := List.mem_map.mp member
      rw [child_eq base name plain, List.mem_range, List.length_append, List.length_singleton]
        at bound
      obtain ⟨place, front, here⟩ := walk_passes files _ spot base.parts count directory walked
      refine ⟨place, ?_, here⟩
      have short : count ≤ base.parts.length := by omega
      rw [child_eq base name plain]
      simpa [start, Path.isAbsolute, List.take_append_of_le_length short] using front
    rw [same] at done
    obtain ⟨place, reached, free, _, rfl⟩ := makeDirectory_ok _ _ _ done
    obtain ⟨rfl, _⟩ := resolve_child files base name spot place plain there reached
    exact ⟨reached, free, rfl⟩

end Files

namespace Action

open Files

theorem freeName_numbered (files : Files) (root : Path) (stem : String) (tries : Nat) :
    ∃ number, freeName files root stem tries = root / (stem ++ suffix number) := by
  -- Whatever is looked for, the path is one of the numbered ones.
  have numbered : ∀ wanted : Path → Bool, ∃ number,
      (((List.range tries).map fun number => root / (stem ++ suffix number)).find? wanted).getD
        (root / (stem ++ suffix tries)) = root / (stem ++ suffix number) := by
    intro wanted
    cases found : ((List.range tries).map fun number =>
        root / (stem ++ suffix number)).find? wanted with
    | none => exact ⟨tries, rfl⟩
    | some path =>
        obtain ⟨number, _, same⟩ := List.mem_map.mp (List.mem_of_find?_eq_some found)
        exact ⟨number, same.symm⟩
  exact numbered _

theorem suffix_digits (number : Nat) : ∀ c ∈ (suffix number).toList, c.isDigit = true := by
  intro c member
  have parts : (suffix number).toList =
      List.replicate (8 - (toString number).length) '0' ++ (toString number).toList := by
    simp only [suffix, String.toList_append, String.toList_ofList]
  rw [parts, List.mem_append] at member
  rcases member with zeros | digits
  · rw [List.eq_of_mem_replicate zeros]
    decide
  · rw [Nat.toString_eq_repr, Nat.toList_repr] at digits
    exact Nat.isDigit_of_mem_toDigits (by decide) (by decide) digits

theorem temporary_plain (stem : String) (number : Nat) (whole : ∀ c ∈ stem.toList, c ≠ '/')
    (long : 2 < stem.length) : PlainName (stem ++ suffix number) := by
  refine joined_plain _ _ long whole ?_
  -- The number is written in digits, so the name has no slash.
  rintro c member rfl
  exact absurd (suffix_digits number '/' member) (by decide)

theorem makeTemporary_numbered (root path : Path) (stem : String) (session after : Session)
    (done : (makeTemporary root stem).perform session = (.ok path, after)) :
    ∃ number, path = root / (stem ++ suffix number) := by
  simp only [makeTemporary, bind_eq_ok, get_eq_ok, change_eq_ok, pure_eq_ok] at done
  obtain ⟨_, _, _, _, _, _, rfl, _⟩ := done
  exact freeName_numbered _ root stem _

theorem makeTemporary_ok (root path : Path) (stem : String) (session after : Session)
    (whole : ∀ c ∈ stem.toList, c ≠ '/') (long : 2 < stem.length)
    (done : (makeTemporary root stem).perform session = (.ok path, after)) :
    ∃ name place, PlainName name ∧ path = root / name ∧
      session.files.resolve path = .ok place ∧ session.files.node? place = none ∧ place ≠ [] ∧
      after = { session with files := session.files.put place .directory } := by
  obtain ⟨number, named⟩ := makeTemporary_numbered root path stem session after done
  simp only [makeTemporary, bind_eq_ok, get_eq_ok, change_eq_ok, pure_eq_ok] at done
  obtain ⟨_, _, ⟨rfl, rfl⟩, _, _, ⟨files, made, rfl⟩, rfl, rfl⟩ := done
  obtain ⟨place, reached, free, filled, rfl⟩ := makeDirectory_ok _ _ _ made
  exact ⟨stem ++ suffix number, place, temporary_plain stem number whole long, named, reached,
    free, filled, rfl⟩

end Action
end DexGraft
