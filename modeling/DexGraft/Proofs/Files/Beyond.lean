import DexGraft.Proofs.Files.Making

/-!
Paths that go on with more names. Where a path can be looked up, so can those on its way;
and a directory is made in one that is there.
-/
namespace DexGraft.Files

def beyond (path : Path) (names : List String) : Path :=
  { path with parts := path.parts ++ names }

theorem beyond_nil (path : Path) : beyond path [] = path := by
  simp [beyond]

theorem beyond_child (path : Path) (name : String) (plain : PlainName name) :
    path / name = beyond path [name] := child_eq path name plain

theorem beyond_text (path : Path) (names : List String) (filled : path.parts ≠ [])
    (more : names ≠ []) : (beyond path names).text = path.text ++ "/" ++ "/".intercalate names := by
  have bare : path.parts.isEmpty = false := by simpa using filled
  have longer : (path.parts ++ names).isEmpty = false := by simp [filled]
  simp only [Path.text, beyond, bare, longer, Bool.and_false, Bool.false_eq_true, if_false]
  rw [String.intercalate_append_of_ne_nil filled more]
  simp only [String.append_assoc]

theorem child_size (base : Path) (name : String) (plain : PlainName name)
    (filled : base.parts ≠ []) :
    (base / name).text.utf8ByteSize = base.text.utf8ByteSize + 1 + name.utf8ByteSize := by
  have slash : "/".utf8ByteSize = 1 := by decide
  rw [beyond_child _ _ plain, beyond_text _ _ filled (List.cons_ne_nil _ _),
    String.utf8ByteSize_append, String.utf8ByteSize_append, String.intercalate_singleton, slash]

theorem walk_onto (files : Files) (place middle : Place) (front back : List String)
    (reached : files.walk place front = .ok middle) :
    files.walk place (front ++ back) = files.walk middle back := by
  induction front generalizing place with
  | nil =>
      cases reached
      rfl
  | cons name rest ih =>
      obtain ⟨there, ⟨up, onward⟩ | ⟨down, short, onward⟩⟩ := (walk_cons ..).mp reached
      · rw [List.cons_append, walk, there]
        simp only [if_pos up]
        exact ih _ onward
      · rw [List.cons_append, walk, there]
        simp only [if_neg down, if_neg (Nat.not_lt.mpr short)]
        exact ih _ onward

theorem intercalate_nul (parts : List String) :
    ("/".intercalate parts).toList.any (·.toNat == 0) =
      parts.any fun part => part.toList.any (·.toNat == 0) := by
  induction parts with
  | nil => rfl
  | cons part rest ih =>
      cases rest with
      | nil => simp
      | cons next more =>
          rw [String.intercalate_cons_cons, String.toList_append, String.toList_append,
            List.any_append, List.any_append, ih, List.any_cons]
          simp

theorem text_nul (path : Path) : path.text.toList.any (·.toNat == 0) =
    path.parts.any fun part => part.toList.any (·.toNat == 0) := by
  unfold Path.text
  split
  · rename_i bare
    simp only [Bool.and_eq_true, List.isEmpty_iff] at bare
    rw [bare.2]
    rfl
  · rw [String.toList_append, List.any_append, intercalate_nul, String.toList_ofList]
    have slashes : (List.replicate path.slashes '/').any (·.toNat == 0) = false := by
      rw [List.any_eq_false]
      intro c member
      rw [List.eq_of_mem_replicate member]
      decide
    rw [slashes, Bool.false_or]

theorem sayable_front (path : Path) (names : List String) (sayable : Sayable (beyond path names)) :
    Sayable path := by
  obtain ⟨nulFree, short⟩ := sayable
  rw [text_nul] at nulFree
  simp only [beyond, List.any_append, Bool.or_eq_false_iff] at nulFree
  refine ⟨by rw [text_nul, nulFree.1], ?_⟩
  by_cases filled : path.parts = []
  · by_cases relative : path.slashes = 0
    · have dot : path.text = "." := by simp [Path.text, filled, relative]
      rw [dot]
      decide
    · simp only [Path.text, beyond, filled, relative, decide_false, Bool.false_and,
        Bool.false_eq_true, if_false, List.nil_append, String.utf8ByteSize_append] at short ⊢
      simp only [String.intercalate_nil, String.utf8ByteSize_empty]
      omega
  · by_cases more : names = []
    · rw [more, beyond_nil] at short
      exact short
    · rw [beyond_text _ _ filled more, String.utf8ByteSize_append, String.utf8ByteSize_append]
        at short
      omega

theorem find_of_resolve (files : Files) (path : Path) (place : Place)
    (reached : files.resolve path = .ok place) : files.find? path = .ok (files.node? place) := by
  unfold Files.find? Files.find
  simp only [reached, bind, Except.bind]
  cases files.node? place <;> rfl

theorem exists_of_resolve (files : Files) (path : Path) (place : Place)
    (reached : files.resolve path = .ok place) :
    files.exists? path = .ok (files.node? place).isSome := by
  rw [exists?, find_of_resolve _ _ _ reached]
  rfl

theorem exists_found (files : Files) (path : Path) (there : files.exists? path = .ok true) :
    ∃ place, files.resolve path = .ok place := by
  cases found : files.find path with
  | ok node =>
      obtain ⟨place, reached, _⟩ := (find_eq_ok ..).mp found
      exact ⟨place, reached⟩
  | error cause =>
      unfold exists? Files.find? at there
      rw [found] at there
      cases cause with
      | file fault =>
          by_cases gone : fault.kind = .missing ∨ fault.kind = .notDirectory <;>
            simp [bind, Except.bind, pure, Except.pure, gone] at there
      | _ => simp [bind, Except.bind, pure, Except.pure] at there

theorem resolve_shorter (files : Files) (base : Path) (front name : String) (place spot : Place)
    (plain : PlainName name) (longer : PlainName (front ++ name)) (filled : base.parts ≠ [])
    (leads : files.resolve base = .ok place) (there : files.node? place = some .directory)
    (reached : files.resolve (base / (front ++ name)) = .ok spot) :
    files.resolve (base / name) = .ok (place ++ [name]) := by
  have room := resolve_room _ _ _ _ longer reached
  rw [beyond_child _ _ longer, resolve_eq_ok, Sayable,
    beyond_text _ _ filled (List.cons_ne_nil _ _), String.intercalate_singleton] at reached
  rw [beyond_child _ _ plain, resolve_eq_ok, Sayable,
    beyond_text _ _ filled (List.cons_ne_nil _ _), String.intercalate_singleton]
  simp only [String.toList_append, List.any_append, String.utf8ByteSize_append,
    Bool.or_eq_false_iff] at reached room ⊢
  obtain ⟨⟨⟨nulFree, _, nameFree⟩, short⟩, _⟩ := reached
  refine ⟨⟨⟨nulFree, nameFree⟩, by omega⟩, (walk_append ..).mpr ⟨place, ?_, ?_⟩⟩
  · exact ((resolve_eq_ok ..).mp leads).2
  · exact (walk_cons ..).mpr ⟨there, Or.inr ⟨plain.down, by omega, rfl⟩⟩

theorem resolves_child (files : Files) (base : Path) (name : String) (spot : Place)
    (plain : PlainName name) (there : files.resolve base = .ok spot)
    (directory : files.node? spot = some .directory) :
    (∃ place, files.resolve (base / name) = .ok place) ↔
      name.toList.any (·.toNat == 0) = false ∧ (base / name).text.utf8ByteSize < pathLimit ∧
        name.utf8ByteSize ≤ nameLimit := by
  obtain ⟨⟨nulFree, _⟩, walked⟩ := (resolve_eq_ok ..).mp there
  have nul : (base / name).text.toList.any (·.toNat == 0) = name.toList.any (·.toNat == 0) := by
    rw [text_nul] at nulFree
    rw [text_nul, child_eq _ _ plain, List.any_append, nulFree, Bool.false_or]
    simp
  constructor
  · rintro ⟨place, reached⟩
    obtain ⟨⟨clean, short⟩, _⟩ := (resolve_eq_ok ..).mp reached
    exact ⟨nul ▸ clean, short, resolve_room _ _ _ _ plain reached⟩
  · rintro ⟨clean, short, room⟩
    refine ⟨spot ++ [name], (resolve_eq_ok ..).mpr ⟨⟨nul.trans clean, short⟩, ?_⟩⟩
    rw [child_eq _ _ plain]
    exact (walk_append ..).mpr ⟨spot, walked,
      (walk_cons ..).mpr ⟨directory, Or.inr ⟨plain.down, room, rfl⟩⟩⟩

theorem makeMissing_kept (files : Files) (path : Path) (place : Place)
    (reached : files.resolve path = .ok place) (there : files.node? place = some .directory) :
    files.makeMissing path = .ok files := by
  have found := (find_eq_ok ..).mpr ⟨place, reached, there⟩
  rw [makeMissing, found]

theorem makeMissing_none (files : Files) (paths : List Path)
    (there : ∀ path ∈ paths, files.makeMissing path = .ok files) :
    paths.foldlM makeMissing files = .ok files := by
  induction paths with
  | nil => rfl
  | cons path rest ih =>
      rw [List.foldlM_cons, there path List.mem_cons_self]
      exact ih fun other member => there other (List.mem_cons_of_mem _ member)

theorem makeDirectories_done (files : Files) (base : Path) (name : String) (spot : Place)
    (plain : PlainName name) (there : files.resolve base = .ok spot)
    (directory : files.node? spot = some .directory)
    (reached : files.resolve (base / name) = .ok (spot ++ [name]))
    (free : files.node? (spot ++ [name]) = none) :
    files.makeDirectories (base / name) = .ok (files.put (spot ++ [name]) .directory) := by
  obtain ⟨sayable, _⟩ := (resolve_eq_ok ..).mp reached
  have walked := ((resolve_eq_ok ..).mp there).2
  have prepared : ((List.range (base / name).parts.length).map fun count =>
      { (base / name) with parts := (base / name).parts.take count }).foldlM makeMissing files =
        .ok files := by
    refine makeMissing_none files _ fun path member => ?_
    obtain ⟨count, bound, rfl⟩ := List.mem_map.mp member
    rw [beyond_child _ _ plain] at sayable bound ⊢
    rw [List.mem_range, beyond, List.length_append, List.length_singleton] at bound
    obtain ⟨place, front, here⟩ := walk_passes files _ spot base.parts count directory walked
    have short : count ≤ base.parts.length := by omega
    refine makeMissing_kept files _ place ((resolve_eq_ok ..).mpr ⟨?_, ?_⟩) here
    · refine sayable_front _ ((base.parts ++ [name]).drop count) ?_
      simpa [beyond] using sayable
    · simpa [start, Path.isAbsolute, beyond, List.take_append_of_le_length short] using front
  have filled : (base / name).parts.isEmpty = false := by
    rw [beyond_child _ _ plain]
    simp [beyond]
  simp only [makeDirectories, prepared, Files.makeDirectory, reached, free, filled, bind,
    Except.bind, Bool.false_eq_true, if_false]

end DexGraft.Files
