import DexGraft.Proofs.Files.Lookup
import DexGraft.Proofs.Text.Trimmed
import DexGraft.Smali.ClassPath

/-!
The spellings of a class name: with slashes, with dots and as a descriptor. All three lead to one
file, except for a class `smali` in a package: with dots its name reads like that of a file.
-/
namespace DexGraft.Text

theorem forall_mem_intercalate {holds : Char → Prop} {mark : Char} {pieces : List (List Char)}
    (there : holds mark) (all : ∀ piece ∈ pieces, ∀ c ∈ piece, holds c) :
    ∀ c ∈ [mark].intercalate pieces, holds c := by
  induction pieces with
  | nil => simp
  | cons first rest ih =>
      obtain ⟨here, later⟩ := List.forall_mem_cons.mp all
      cases rest with
      | nil => rwa [List.intercalate_singleton]
      | cons second others =>
          rw [List.intercalate_cons_cons, List.forall_mem_append, List.forall_mem_append]
          exact ⟨⟨here, by simpa using there⟩, ih later⟩

theorem map_intercalate (change : Char → Char) (mark : Char) (pieces : List (List Char)) :
    ([mark].intercalate pieces).map change =
      [change mark].intercalate (pieces.map (List.map change)) := by
  induction pieces with
  | nil => rfl
  | cons first rest ih =>
      cases rest with
      | nil => simp
      | cons second others =>
          simp only [List.map_cons, List.intercalate_cons_cons, List.map_append] at ih ⊢
          rw [ih, List.map_nil]

theorem trim_self {text : List Char} (filled : ∀ c ∈ text, isBlank c = false) :
    trim text = text := by
  have start : trimStart text = text := by
    cases text with
    | nil => rfl
    | cons c rest => exact List.dropWhile_cons_of_neg (by simp [filled])
  rw [trim, start]
  refine List.rdropWhile_eq_self_iff.mpr fun some => ?_
  simp [filled _ (List.getLast_mem some)]

end DexGraft.Text

namespace DexGraft.Smali

open Text Files

theorem plainName_of_ending {name : String} (ends : fileExtension <:+ name.toList)
    (whole : ∀ c ∈ name.toList, c ≠ '/') : PlainName name := by
  have long : 2 < name.toList.length := Nat.lt_of_lt_of_le (by decide) ends.length_le
  refine plainName_of name ?_ ?_ ?_ whole <;> rintro rfl <;> exact absurd long (by decide)

theorem map_dotToSlash {text : List Char} (none : '.' ∉ text) : text.map dotToSlash = text := by
  have same : ∀ c ∈ text, dotToSlash c = id c := by
    rintro c member
    rw [dotToSlash, if_neg (by rintro dot; exact none (eq_of_beq dot ▸ member)), id]
  rw [List.map_congr_left same, List.map_id]

theorem stripDescriptor_self {name : List Char} (none : ';' ∉ name) :
    stripDescriptor name = name := by
  unfold stripDescriptor
  split
  · rename_i rest
    cases cut : dropEnd? [';'] rest with
    | none => rfl
    | some body =>
        rw [(dropEnd_eq_some ..).mp cut] at none
        exact absurd (by simp) none
  · rfl

theorem stripDescriptor_inner (name : List Char) :
    stripDescriptor ('L' :: (name ++ [';'])) = name := by
  rw [stripDescriptor, (dropEnd_eq_some ..).mpr rfl, Option.getD_some]

theorem classFile_ended {name : String} {stripped : List Char}
    (strip : stripDescriptor (trim name.toList) = stripped) (ends : fileExtension <:+ stripped) :
    classFile name = String.ofList stripped := by
  rw [classFile, strip]
  exact if_pos (List.isSuffixOf_iff_suffix.mpr ends)

theorem classFile_open {name : String} {stripped : List Char}
    (strip : stripDescriptor (trim name.toList) = stripped) (ends : ¬fileExtension <:+ stripped) :
    classFile name = String.ofList (stripped.map dotToSlash) ++ ".smali" := by
  rw [classFile, strip]
  refine (if_neg (mt List.isSuffixOf_iff_suffix.mp ends)).trans ?_
  rw [String.ofList_append]
  rfl

/-- The name of a class with those of the packages it is in. -/
structure ClassName where
  packages : List String
  simple : String
  filled : ∀ name ∈ packages ++ [simple], name ≠ ""
  plain : ∀ name ∈ packages ++ [simple], ∀ c ∈ name.toList,
    c ≠ '.' ∧ c ≠ '/' ∧ c ≠ ';' ∧ isBlank c = false

namespace ClassName

variable (given : ClassName)

def names : List String :=
  given.packages ++ [given.simple]

def slashed : String :=
  "/".intercalate given.names

def dotted : String :=
  ".".intercalate given.names

def descriptor : String :=
  "L" ++ given.slashed ++ ";"

/-- Where the class is kept in a tree. -/
def within (tree : Path) : Path :=
  { tree with parts := tree.parts ++ given.packages ++ [given.simple ++ ".smali"] }

/-- With dots the name of the class ends like that of a file. -/
def NamesFile : Prop :=
  given.packages ≠ [] ∧ given.simple = "smali"

variable {given}

theorem spelled_free (mark : String) (between : Char) (single : mark.toList = [between]) :
    ∀ c ∈ (mark.intercalate given.names).toList,
      c = between ∨ c ≠ '.' ∧ c ≠ '/' ∧ c ≠ ';' ∧ isBlank c = false := by
  rw [String.toList_intercalate, single]
  refine forall_mem_intercalate (Or.inl rfl) fun piece member c inside => Or.inr ?_
  obtain ⟨name, among, rfl⟩ := List.mem_map.mp member
  exact given.plain name among c inside

theorem slashed_free : ∀ c ∈ given.slashed.toList, c ≠ '.' ∧ c ≠ ';' ∧ isBlank c = false := by
  intro c member
  rcases spelled_free "/" '/' rfl c member with rfl | ⟨dot, _, mark, filled⟩
  · decide
  · exact ⟨dot, mark, filled⟩

theorem dotted_free : ∀ c ∈ given.dotted.toList, c ≠ '/' ∧ c ≠ ';' ∧ isBlank c = false := by
  intro c member
  rcases spelled_free "." '.' rfl c member with rfl | ⟨_, slash, mark, filled⟩
  · decide
  · exact ⟨slash, mark, filled⟩

theorem dotted_slashed : given.dotted.toList.map dotToSlash = given.slashed.toList := by
  have unchanged : ∀ piece ∈ given.names.map String.toList, piece.map dotToSlash = id piece := by
    rintro piece member
    obtain ⟨name, among, rfl⟩ := List.mem_map.mp member
    exact map_dotToSlash fun dot => (given.plain name among '.' dot).1 rfl
  have dot : ".".toList = ['.'] := rfl
  have slash : "/".toList = [dotToSlash '.'] := rfl
  rw [dotted, slashed, String.toList_intercalate, String.toList_intercalate, dot, slash,
    map_intercalate, List.map_congr_left unchanged, List.map_id]

theorem trim_slashed : trim given.slashed.toList = given.slashed.toList :=
  trim_self fun c member => (slashed_free c member).2.2

theorem trim_dotted : trim given.dotted.toList = given.dotted.toList :=
  trim_self fun c member => (dotted_free c member).2.2

theorem trim_descriptor : trim given.descriptor.toList = 'L' :: (given.slashed.toList ++ [';']) := by
  have shape : given.descriptor.toList = 'L' :: (given.slashed.toList ++ [';']) := by
    simp [descriptor]
  rw [shape]
  refine trim_self fun c member => ?_
  rcases List.mem_cons.mp member with rfl | member
  · decide
  · rcases List.mem_append.mp member with inner | last
    · exact (slashed_free c inner).2.2
    · rw [List.mem_singleton.mp last]
      decide

theorem slashed_ending : ¬fileExtension <:+ given.slashed.toList := by
  intro ends
  exact (slashed_free '.' (ends.subset (by decide))).1 rfl

theorem classFile_slashed : classFile given.slashed = given.slashed ++ ".smali" := by
  have strip : stripDescriptor (trim given.slashed.toList) = given.slashed.toList := by
    rw [trim_slashed, stripDescriptor_self fun mark => (slashed_free _ mark).2.1 rfl]
  rw [classFile_open strip slashed_ending, map_dotToSlash fun dot => (slashed_free _ dot).1 rfl,
    String.ofList_toList]

theorem classFile_descriptor : classFile given.descriptor = given.slashed ++ ".smali" := by
  have strip : stripDescriptor (trim given.descriptor.toList) = given.slashed.toList := by
    rw [trim_descriptor, stripDescriptor_inner]
  rw [classFile_open strip slashed_ending, map_dotToSlash fun dot => (slashed_free _ dot).1 rfl,
    String.ofList_toList]

theorem strip_dotted : stripDescriptor (trim given.dotted.toList) = given.dotted.toList := by
  rw [trim_dotted, stripDescriptor_self fun mark => (dotted_free _ mark).2.1 rfl]

theorem dotted_ending (given : ClassName) :
    given.packages = [] ∧ given.dotted.toList = given.simple.toList ∨
      given.packages ≠ [] ∧ '.' :: given.simple.toList <:+ given.dotted.toList := by
  by_cases alone : given.packages = []
  · exact Or.inl ⟨alone, by simp [dotted, names, alone]⟩
  · refine Or.inr ⟨alone, ?_⟩
    rw [dotted, names, String.intercalate_append_of_ne_nil alone (List.cons_ne_nil given.simple []),
      String.toList_append, String.toList_append, List.append_assoc, String.intercalate_singleton]
    exact List.suffix_append _ _

theorem simple_free : '.' ∉ given.simple.toList := fun dot =>
  (given.plain given.simple (by simp) '.' dot).1 rfl

theorem dotted_namesFile : fileExtension <:+ given.dotted.toList ↔ given.NamesFile := by
  have extension : fileExtension = '.' :: "smali".toList := rfl
  have dotless : '.' ∉ "smali".toList := by decide
  rw [extension]
  rcases dotted_ending given with ⟨alone, same⟩ | ⟨packed, ends⟩
  · rw [same]
    refine iff_of_false (fun suffix => ?_) fun file => file.1 alone
    exact simple_free (suffix.subset List.mem_cons_self)
  · constructor
    · intro suffix
      -- Of two endings that open with a dot and have no other, neither is longer.
      have same : '.' :: given.simple.toList = '.' :: "smali".toList := by
        rcases List.suffix_or_suffix_of_suffix ends suffix with shorter | longer
        · rcases List.suffix_cons_iff.mp shorter with same | inner
          · exact same
          · exact absurd (inner.subset List.mem_cons_self) dotless
        · rcases List.suffix_cons_iff.mp longer with same | inner
          · exact same.symm
          · exact absurd (inner.subset List.mem_cons_self) simple_free
      exact ⟨packed, String.toList_inj.mp (List.cons.inj same).2⟩
    · intro file
      rwa [file.2] at ends

theorem fileNames_plain (given : ClassName) :
    ∀ name ∈ given.packages ++ [given.simple ++ ".smali"], PlainName name := by
  intro name member
  rcases List.mem_append.mp member with among | last
  · have listed := List.mem_append_left [given.simple] among
    have free := given.plain name listed
    refine plainName_of name (given.filled name listed) ?_ ?_ fun c inside => (free c inside).2.1
    · rintro rfl
      exact (free '.' (by decide)).1 rfl
    · rintro rfl
      exact (free '.' (by decide)).1 rfl
  · rw [List.mem_singleton.mp last]
    refine plainName_of_ending ?_ fun c inside => ?_
    · rw [String.toList_append]
      exact List.suffix_append _ _
    · rw [String.toList_append] at inside
      rcases List.mem_append.mp inside with own | ending
      · exact (given.plain given.simple (by simp) c own).2.1
      · exact whole_of_all '/' ".smali".toList (by decide) c ending

theorem within_eq (tree : Path) : tree / (given.slashed ++ ".smali") = given.within tree := by
  have joined : given.slashed ++ ".smali" =
      "/".intercalate (given.packages ++ [given.simple ++ ".smali"]) := by
    rw [slashed, names]
    by_cases alone : given.packages = []
    · simp [alone]
    · rw [String.intercalate_append_of_ne_nil alone (List.cons_ne_nil given.simple []),
        String.intercalate_append_of_ne_nil alone (List.cons_ne_nil _ []), String.append_assoc,
        String.append_assoc, String.append_assoc, String.intercalate_singleton,
        String.intercalate_singleton]
  have parts := ofText_intercalate (given.packages ++ [given.simple ++ ".smali"]) (by simp)
    given.fileNames_plain
  rw [joined]
  change tree.join (Path.ofText _) = _
  rw [parts]
  simp [Path.join, Path.isAbsolute, within]

theorem within_dotted (tree : Path) (ends : fileExtension <:+ given.dotted.toList) :
    tree / given.dotted = { tree with parts := tree.parts ++ [given.dotted] } :=
  child_eq tree given.dotted (plainName_of_ending ends fun c member => (dotted_free c member).1)

end ClassName

def fileAt (files : Files) (path : Path) : Except Cause (Option Path) :=
  (files.isFile path).map fun there => if there then some path else none

theorem locate_eq (files : Files) (tree : Path) (name : String) :
    locate files tree name = fileAt files (tree / classFile name) := by
  simp only [locate, fileAt]
  generalize tree / classFile name = path
  cases files.isFile path <;> rfl

/-- With slashes and as a descriptor a class is looked for in its own file, and with dots as well
unless that reads like the name of a file. There is an answer for every path that is not too
long. -/
theorem locate_spellings (files : Files) (tree : Path) (given : ClassName) :
    locate files tree given.slashed = fileAt files (given.within tree) ∧
    locate files tree given.descriptor = fileAt files (given.within tree) ∧
    (¬given.NamesFile → locate files tree given.dotted = fileAt files (given.within tree)) ∧
    (given.NamesFile → locate files tree given.dotted =
      fileAt files { tree with parts := tree.parts ++ [given.dotted] }) ∧
    ∀ path, Short path →
      files.isFile path = .ok true ∧ fileAt files path = .ok (some path) ∨
        files.isFile path = .ok false ∧ fileAt files path = .ok none := by
  simp only [locate_eq]
  refine ⟨?_, ?_, fun other => ?_, fun same => ?_, fun path short => ?_⟩
  · rw [ClassName.classFile_slashed, ClassName.within_eq]
  · rw [ClassName.classFile_descriptor, ClassName.within_eq]
  · rw [classFile_open ClassName.strip_dotted (mt ClassName.dotted_namesFile.mp other),
      ClassName.dotted_slashed, String.ofList_toList, ClassName.within_eq]
  · have ends := ClassName.dotted_namesFile.mpr same
    rw [classFile_ended ClassName.strip_dotted ends, String.ofList_toList,
      ClassName.within_dotted tree ends]
  · obtain ⟨there, known⟩ := isFile_short files path short
    cases there
    · exact Or.inr ⟨known, by rw [fileAt, known]; rfl⟩
    · exact Or.inl ⟨known, by rw [fileAt, known]; rfl⟩

def givenFile (above : List String) (name : String) : Files where
  nodes := above.inits.tail.map (·, .directory) ++ [(above ++ [name], .file [] newFileMode)]
  here := []

def packaged : ClassName where
  packages := ["a", "b"]
  simple := "C"
  filled := by decide
  plain := by simp [isBlank]

theorem locate_spellings_packaged :
    ¬packaged.NamesFile ∧ Short (packaged.within ⟨1, ["t"]⟩) ∧
      ∀ spelling ∈ ["a/b/C", "a.b.C", "La/b/C;"],
        locate (givenFile ["t", "a", "b"] "C.smali") ⟨1, ["t"]⟩ spelling =
          .ok (some ⟨1, ["t", "a", "b", "C.smali"]⟩) := by
  have other : ¬packaged.NamesFile := fun file => absurd file.2 (by decide)
  have short : Short (packaged.within ⟨1, ["t"]⟩) := ⟨by decide, by decide⟩
  have found : (givenFile ["t", "a", "b"] "C.smali").isFile (packaged.within ⟨1, ["t"]⟩) =
      .ok true := by
    rfl
  obtain ⟨slashed, descriptor, dotted, _, answered⟩ :=
    locate_spellings (givenFile ["t", "a", "b"] "C.smali") ⟨1, ["t"]⟩ packaged
  have answer : fileAt (givenFile ["t", "a", "b"] "C.smali") (packaged.within ⟨1, ["t"]⟩) =
      .ok (some ⟨1, ["t", "a", "b", "C.smali"]⟩) := by
    rcases answered _ short with ⟨_, same⟩ | ⟨none, _⟩
    · exact same
    · rw [found] at none
      cases none
  refine ⟨other, short, ?_⟩
  simp only [List.forall_mem_cons, List.not_mem_nil, false_imp_iff, implies_true, and_true]
  exact ⟨slashed.trans answer, (dotted other).trans answer, descriptor.trans answer⟩

def nameLikeFile : ClassName where
  packages := ["a"]
  simple := "smali"
  filled := by decide
  plain := by simp [isBlank]

def overlong : ClassName where
  packages := []
  simple := String.ofList (List.replicate 300 'a')
  filled := by
    intro name member
    rw [List.mem_singleton.mp member, ← String.toList_inj.ne, String.toList_ofList]
    exact List.cons_ne_nil 'a' _
  plain := by
    intro name member c inside
    rw [List.mem_singleton.mp member, String.toList_ofList] at inside
    rw [List.eq_of_mem_replicate inside]
    decide

theorem overlong_name : nameLimit < (overlong.simple ++ ".smali").utf8ByteSize := by
  have size : ∀ count, (String.ofList (List.replicate count 'a')).utf8ByteSize = count := by
    intro count
    induction count with
    | zero => rfl
    | succ count ih =>
        have one : (String.singleton 'a').utf8ByteSize = 1 := rfl
        rw [List.replicate_succ, String.ofList_cons, String.utf8ByteSize_append, ih, one,
          Nat.add_comm]
  rw [String.utf8ByteSize_append, overlong, size]
  decide

/-- A class `smali` in a package is found with slashes and missed with dots, and there is no answer
for a class whose file has too long a name. -/
theorem spellings_differ :
    locate (givenFile ["t", "a"] "smali.smali") ⟨1, ["t"]⟩ nameLikeFile.slashed =
        .ok (some ⟨1, ["t", "a", "smali.smali"]⟩) ∧
      locate (givenFile ["t", "a"] "smali.smali") ⟨1, ["t"]⟩ nameLikeFile.dotted = .ok none ∧
      ∃ cause, locate ⟨[], []⟩ Path.root overlong.slashed = .error cause := by
  refine ⟨rfl, rfl, ?_⟩
  have letters : (overlong.simple ++ ".smali").toList =
      List.replicate 300 'a' ++ ".smali".toList := by
    rw [String.toList_append, overlong, String.toList_ofList]
  have down : overlong.simple ++ ".smali" ≠ ".." := by
    intro same
    rw [same] at letters
    exact absurd (congrArg List.head? letters) (by decide)
  have nul : (overlong.simple ++ ".smali").toList.any (·.toNat == 0) = false := by
    rw [letters, List.any_append, List.any_replicate]
    rfl
  obtain ⟨cause, failed⟩ := isFile_overlong ⟨[], []⟩ _ down nul overlong_name
  refine ⟨cause, ?_⟩
  rw [locate_eq, ClassName.classFile_slashed, ClassName.within_eq, fileAt]
  change (Files.isFile ⟨[], []⟩ ⟨1, [overlong.simple ++ ".smali"]⟩).map _ = _
  rw [failed]
  rfl

end DexGraft.Smali
