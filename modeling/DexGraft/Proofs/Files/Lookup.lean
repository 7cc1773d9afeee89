import DexGraft.Proofs.Files.Scratch

/-!
Paths and their texts: the text of a path reads back as that path. What is at the end of a path is
known of each that keeps the limits for names and paths.
-/
namespace DexGraft.Path

open Text Files

/-- A path as a text spells it: its names are filled, and none is a single dot or has a slash in
it. -/
structure Canonical (path : Path) : Prop where
  slashes : path.slashes ≤ 2
  parts : ∀ part ∈ path.parts, part ≠ "" ∧ part ≠ "." ∧ ∀ c ∈ part.toList, c ≠ '/'

theorem canonical_ofText (text : String) : (ofText text).Canonical where
  slashes := by
    simp only [ofText, rootSlashes]
    split <;> omega
  parts part member := ofText_part text part member

theorem Canonical.child {path : Path} (canonical : path.Canonical) (name : String) :
    (path / name).Canonical := by
  have named := canonical_ofText name
  change (path.join (ofText name)).Canonical
  unfold join
  split
  · exact named
  · refine ⟨canonical.slashes, fun part member => ?_⟩
    rcases List.mem_append.mp member with front | back
    · exact canonical.parts part front
    · exact named.parts part back

theorem splitAt_intercalated (names : List String) (some : names ≠ [])
    (whole : ∀ name ∈ names, ∀ c ∈ name.toList, c ≠ '/') :
    splitAt '/' ("/".intercalate names).toList = names.map String.toList := by
  have slash : "/".toList = ['/'] := rfl
  rw [String.toList_intercalate, slash, splitAt_intercalate]
  · simpa using some
  · simpa using whole

theorem partsOf_slashes (count : Nat) (text : List Char) :
    partsOf (List.replicate count '/' ++ text) = partsOf text := by
  induction count with
  | zero => rfl
  | succ count ih =>
      rw [← ih, List.replicate_succ, List.cons_append, partsOf, splitAt]
      simp [partsOf]

theorem partsOf_names {path : Path} (canonical : path.Canonical) :
    partsOf ("/".intercalate path.parts).toList = path.parts := by
  by_cases none : path.parts = []
  · simp [none]
    rfl
  · rw [partsOf, splitAt_intercalated _ none fun part member => (canonical.parts part member).2.2]
    simp only [List.map_map, Function.comp_def, String.ofList_toList, List.map_id']
    apply List.filter_eq_self.mpr
    intro part member
    obtain ⟨filled, here, _⟩ := canonical.parts part member
    simp [filled, here]

theorem names_open {path : Path} (canonical : path.Canonical) :
    ("/".intercalate path.parts).toList.head? ≠ some '/' := by
  cases named : path.parts with
  | nil => simp
  | cons first rest =>
      obtain ⟨filled, _, whole⟩ := canonical.parts first (by simp [named])
      have letters : first.toList ≠ [] := by simpa using filled
      have opens : ("/".intercalate (first :: rest)).toList.head? = first.toList.head? := by
        cases rest with
        | nil => simp
        | cons second others =>
            rw [String.intercalate_cons_cons, String.append_assoc, String.toList_append,
              List.head?_append_of_ne_nil _ letters]
      rw [opens]
      intro slash
      exact whole '/' (List.mem_of_head? slash) rfl

theorem rootSlashes_names {path : Path} (canonical : path.Canonical) :
    rootSlashes (List.replicate path.slashes '/' ++ ("/".intercalate path.parts).toList) =
      path.slashes := by
  have few := canonical.slashes
  have opens : ("/".intercalate path.parts).toList.takeWhile (· == '/') = [] := by
    have other := names_open canonical
    cases text : ("/".intercalate path.parts).toList with
    | nil => rfl
    | cons c rest =>
        rw [text] at other
        have letter : c ≠ '/' := by simpa using other
        simp [letter]
  have count : (List.replicate path.slashes '/' ++
      ("/".intercalate path.parts).toList).takeWhile (· == '/') =
        List.replicate path.slashes '/' := by
    rw [List.takeWhile_append_of_pos (by simp), opens, List.append_nil]
  have roots : path.slashes = 0 ∨ path.slashes = 1 ∨ path.slashes = 2 := by omega
  rw [rootSlashes, count, List.length_replicate]
  rcases roots with none | one | two
  · simp [none]
  · simp [one]
  · simp [two]

theorem ofText_text {path : Path} (canonical : path.Canonical) : ofText path.text = path := by
  unfold text
  split
  · rename_i bare
    obtain ⟨slashes, parts⟩ := path
    simp only [Bool.and_eq_true, decide_eq_true_eq, List.isEmpty_iff] at bare
    obtain ⟨rfl, rfl⟩ := bare
    rfl
  · rw [ofText, String.toList_append, String.toList_ofList, partsOf_slashes,
      rootSlashes_names canonical, partsOf_names canonical]

theorem text_ending (path : Path) (above : List String) (name : String)
    (parts : path.parts = above ++ [name]) : ∃ front, path.text = front ++ name := by
  have ending : ∃ front, "/".intercalate path.parts = front ++ name := by
    rw [parts]
    by_cases alone : above = []
    · exact ⟨"", by simp [alone]⟩
    · exact ⟨_, by rw [String.intercalate_append_of_ne_nil alone (List.cons_ne_nil name []),
        String.intercalate_singleton]⟩
  obtain ⟨front, ending⟩ := ending
  refine ⟨String.ofList (List.replicate path.slashes '/') ++ front, ?_⟩
  rw [text, if_neg (by simp [parts]), ending, String.append_assoc]

theorem text_closed {path : Path} (canonical : path.Canonical) (named : path.parts ≠ []) :
    path.text.toList.getLast? ≠ some '/' := by
  obtain ⟨above, name, parts⟩ := (List.eq_nil_or_concat path.parts).resolve_left named
  rw [List.concat_eq_append] at parts
  obtain ⟨filled, _, whole⟩ := canonical.parts name (by simp [parts])
  obtain ⟨front, ending⟩ := text_ending path above name parts
  have letters : name.toList ≠ [] := by simpa using filled
  rw [ending, String.toList_append, List.getLast?_append_of_ne_nil _ letters]
  intro slash
  exact whole '/' (List.mem_of_getLast? slash) rfl

end DexGraft.Path

namespace DexGraft.Files

open Text

theorem ofText_intercalate (names : List String) (some : names ≠ [])
    (plain : ∀ name ∈ names, PlainName name) :
    Path.ofText ("/".intercalate names) = ⟨0, names⟩ := by
  have canonical : (⟨0, names⟩ : Path).Canonical := by
    constructor
    · exact Nat.zero_le 2
    · intro name member
      apply ofText_part name name
      rw [(plain name member).single]
      exact List.mem_singleton_self name
  have text : (⟨0, names⟩ : Path).text = "/".intercalate names := by
    rw [Path.text, if_neg (by simpa using some)]
    simp
  rw [← text, Path.ofText_text canonical]

/-- A path that can be looked up with the file system's limits for names and paths. -/
structure Short (path : Path) : Prop where
  names : ∀ name ∈ path.parts, name.utf8ByteSize ≤ nameLimit
  whole : path.text.utf8ByteSize < pathLimit

theorem walk_barred (files : Files) (place : Place) (names : List String) (kind : FileFault.Kind)
    (short : ∀ name ∈ names, name.utf8ByteSize ≤ nameLimit)
    (barred : files.walk place names = .error kind) : kind = .missing ∨ kind = .notDirectory := by
  induction names generalizing place with
  | nil => cases barred
  | cons name rest ih =>
      obtain ⟨here, later⟩ := List.forall_mem_cons.mp short
      rw [walk] at barred
      split at barred
      · cases barred
        exact Or.inl rfl
      · cases barred
        exact Or.inr rfl
      · rw [if_neg (Nat.not_lt.mpr here)] at barred
        split at barred
        · exact ih _ later barred
        · exact ih _ later barred

theorem find_barred (files : Files) (path : Path) (short : Short path) (fault : FileFault)
    (barred : files.find path = .error (.file fault)) :
    fault.kind = .missing ∨ fault.kind = .notDirectory := by
  unfold find resolve at barred
  rw [if_neg (Nat.not_le.mpr short.whole)] at barred
  split at barred
  · cases barred
  · split at barred
    · rename_i place reached
      cases there : files.node? place with
      | some node => simp [bind, Except.bind, there] at barred
      | none =>
          simp only [bind, Except.bind, there] at barred
          cases barred
          exact Or.inl rfl
    · rename_i kind walked
      cases barred
      exact walk_barred files _ _ kind short.names walked

theorem isFile_overlong (files : Files) (name : String) (down : name ≠ "..")
    (nul : name.toList.any (·.toNat == 0) = false) (long : nameLimit < name.utf8ByteSize) :
    ∃ cause, files.isFile ⟨1, [name]⟩ = .error cause := by
  have sayable : (⟨1, [name]⟩ : Path).text.toList.any (·.toNat == 0) = false := by
    simpa [Path.text] using nul
  have barred : files.resolve ⟨1, [name]⟩ = refuse .nameTooLong ⟨1, [name]⟩ := by
    simp [resolve, sayable, walk, Path.isAbsolute, node_root, down, long]
  refine ⟨.file ⟨.nameTooLong, (⟨1, [name]⟩ : Path).text⟩, ?_⟩
  simp [isFile, find?, find, barred, refuse, bind, Except.bind]

theorem isFile_short (files : Files) (path : Path) (short : Short path) :
    ∃ there, files.isFile path = .ok there := by
  have known : ∃ found, files.find? path = .ok found := by
    unfold find?
    split
    · exact ⟨_, rfl⟩
    · rename_i fault failed
      have obstacle := find_barred files path short fault failed
      exact ⟨none, if_pos (by simpa using obstacle)⟩
    · exact ⟨_, rfl⟩
  obtain ⟨found, known⟩ := known
  rw [isFile, known]
  exact ⟨_, rfl⟩

theorem isFile_of_find {files : Files} {path : Path} {content : Bytes} {mode : Nat}
    (found : files.find path = .ok (.file content mode)) : files.isFile path = .ok true := by
  simp [isFile, find?, found, bind, Except.bind, pure, Except.pure]

theorem isDirectory_of_find {files : Files} {path : Path}
    (found : files.find path = .ok .directory) : files.isDirectory path = .ok true := by
  simp [isDirectory, find?, found, bind, Except.bind, pure, Except.pure]

theorem parts_of_file {files : Files} {path : Path} {content : Bytes} {mode : Nat}
    (found : files.find path = .ok (.file content mode)) :
    path.parts ≠ [] ∨ path.slashes = 0 := by
  by_contra bare
  rw [not_or, not_not] at bare
  obtain ⟨place, reached, there⟩ := (find_eq_ok ..).mp found
  have walked := ((resolve_eq_ok ..).mp reached).2
  have absolute : path.isAbsolute = true := by simpa [Path.isAbsolute] using bare.2
  rw [bare.1, start, if_pos absolute] at walked
  cases walked
  cases there

end DexGraft.Files
