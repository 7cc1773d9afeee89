import DexGraft.Proofs.Checked
import DexGraft.Proofs.Files.Lookup
import DexGraft.Proofs.Tool.Versions
import DexGraft.Tool.Find

/-!
The tool that is found in the build tools of an SDK, when nothing else has it. It is that of the
newest version that has the tool, unless a release candidate with the same numbers has it too: the
candidate is found before its release, and of two candidates the one that is listed first.
-/
namespace DexGraft.Tool

open Text Files

def LeadsToProgram (files : Files) (path : Path) : Prop :=
  ∃ content mode, files.find path = .ok (.file content mode) ∧ mode &&& executeBits ≠ 0

theorem isProgram_iff (files : Files) (text : String) :
    isProgram files text = true ↔
      ∃ content mode, files.find (Path.ofText text) = .ok (.file content mode) ∧
        mode &&& executeBits ≠ 0 ∧ text.toList.getLast? ≠ some '/' := by
  unfold isProgram
  split
  · rename_i content mode found
    simp only [found, Except.ok.injEq, Node.file.injEq, Bool.and_eq_true, bne_iff_ne]
    constructor
    · intro runs
      exact ⟨content, mode, ⟨rfl, rfl⟩, runs⟩
    · rintro ⟨_, _, ⟨rfl, rfl⟩, runs⟩
      exact runs
  · rename_i other
    constructor
    · intro never
      cases never
    · rintro ⟨content, mode, found, _⟩
      exact (other content mode found).elim

theorem isProgram_text (files : Files) {path : Path} (canonical : path.Canonical) :
    isProgram files path.text = true ↔ LeadsToProgram files path := by
  rw [isProgram_iff, Path.ofText_text canonical]
  constructor
  · rintro ⟨content, mode, found, runs, _⟩
    exact ⟨content, mode, found, runs⟩
  · rintro ⟨content, mode, found, runs⟩
    have closed : path.text.toList.getLast? ≠ some '/' := by
      by_cases named : path.parts = []
      · have bare := (parts_of_file found).resolve_left (by simpa using named)
        have text : path.text = "." := by simp [Path.text, bare, named]
        rw [text]
        decide
      · exact Path.text_closed canonical named
    exact ⟨content, mode, found, runs, closed⟩

theorem isExecutableFile_short (files : Files) {path : Path} (canonical : path.Canonical)
    (short : Short path) : isExecutableFile files path = .ok (isProgram files path.text) := by
  obtain ⟨there, known⟩ := isFile_short files path short
  rw [isExecutableFile, known]
  cases runs : isProgram files path.text with
  | false => simp [bind, Except.bind, pure, Except.pure]
  | true =>
      obtain ⟨content, mode, found, _⟩ := (isProgram_text files canonical).mp runs
      rw [isFile_of_find found] at known
      cases known
      rfl

theorem firstExecutable_eq (files : Files) (paths : List Path) (runs : Path → Bool)
    (known : ∀ path ∈ paths, isExecutableFile files path = .ok (runs path)) :
    firstExecutable files paths = .ok ((paths.find? runs).map Path.text) := by
  induction paths with
  | nil => rfl
  | cons path rest ih =>
      obtain ⟨here, later⟩ := List.forall_mem_cons.mp known
      rw [firstExecutable, here, List.find?_cons]
      cases hit : runs path with
      | true => rfl
      | false => exact ih later

def toolAt (sdk : Path) (tool : String) (version : Version) : Path :=
  sdk / "build-tools" / version.name / tool

theorem canonical_toolAt {sdk : Path} {tool : String} (canonical : sdk.Canonical)
    (version : Version) : (toolAt sdk tool version).Canonical :=
  ((canonical.child "build-tools").child version.name).child tool

def HasTool (files : Files) (sdk : Path) (tool : String) (version : Version) : Prop :=
  LeadsToProgram files (toolAt sdk tool version)

theorem hasTool_text {files : Files} {sdk : Path} {tool : String} {version : Version}
    (canonical : sdk.Canonical) :
    isProgram files (toolAt sdk tool version).text = true ↔ HasTool files sdk tool version :=
  isProgram_text files (canonical_toolAt canonical version)

/-- The build tools of an SDK, in the order in which they are listed: directories with the names of
versions. -/
structure Stocked (files : Files) (sdk : Path) (versions : List Version) : Prop where
  shelved : files.find (sdk / "build-tools") = .ok .directory
  listed : ∀ place, files.resolve (sdk / "build-tools") = .ok place →
    files.namesIn place = versions.map Version.name
  directories : ∀ version ∈ versions,
    files.find (sdk / "build-tools" / version.name) = .ok .directory

/-- A tool is neither on the search path nor in the bin directory, and of the roots only one has
build tools, in each of which it can be looked up. -/
structure OnlyInSdk (files : Files) (environment : Environment) (tool : String)
    (bin : Option String) (sdk : Path) (versions : List Version) : Prop where
  unfound : onSearchPath files environment tool = none
  unbinned : ∀ directory, bin = some directory →
    isExecutableFile files (Path.ofText directory / tool) = .ok false
  among : sdk ∈ sdks environment (bin.map Path.ofText)
  sole : ∀ other ∈ sdks environment (bin.map Path.ofText), other ≠ sdk →
    files.isDirectory (other / "build-tools") = .ok false
  stocked : Stocked files sdk versions
  short : ∀ version ∈ versions, Short (toolAt sdk tool version)

theorem Version.name_plain (version : Version) : PlainName version.name := by
  have long : 2 < version.name.length := by
    have major := List.length_pos_of_ne_nil version.major.filled
    rw [Version.name, String.length_ofList]
    simp only [List.length_append, List.length_cons]
    omega
  apply plainName_of
  · intro same
    rw [same] at long
    exact absurd long (by decide)
  · intro same
    rw [same] at long
    exact absurd long (by decide)
  · intro same
    rw [same] at long
    exact absurd long (by decide)
  · have slash : isAsciiDigit '/' = false := rfl
    have suffix : ∀ c ∈ version.suffix, c ≠ '/' := by
      cases marked : version.candidate with
      | none => simp [Version.suffix, marked]
      | some numeral =>
          simp only [Version.suffix, marked, List.forall_mem_cons]
          exact ⟨by decide, by decide, by decide, numeral.plain '/' slash⟩
    simp only [Version.name, String.toList_ofList, List.forall_mem_append, List.forall_mem_cons]
    exact ⟨version.major.plain '/' slash, by decide, version.minor.plain '/' slash, by decide,
      version.patch.plain '/' slash, suffix⟩

section

variable {files : Files} {environment : Environment} {tool : String} {bin : Option String}
  {sdk : Path} {versions : List Version}

theorem Stocked.versionKeys (stocked : Stocked files sdk versions) :
    (versions.map Version.name).mapM (fun name => return (← versionKey name, name)) =
      (.ok (versions.map fun version => (version.key, version.name)) :
        Except Cause (List (List Nat × String))) := by
  apply Checked.mapM_all
  intro version member
  obtain ⟨place, reached, _⟩ := (find_eq_ok ..).mp (stocked.directories version member)
  have room := resolve_room files _ version.name place version.name_plain reached
  rw [version.versionKey_name (Nat.le_trans room (by decide))]
  rfl

theorem Stocked.buildTools (stocked : Stocked files sdk versions) :
    buildTools files sdk =
      .ok ((newestFirst Version.key versions).map fun version =>
        sdk / "build-tools" / version.name) := by
  obtain ⟨place, reached, _⟩ := (find_eq_ok ..).mp stocked.shelved
  have sorted : newestFirst Prod.fst (versions.map fun version => (version.key, version.name)) =
      (newestFirst Version.key versions).map fun version => (version.key, version.name) := by
    simp only [newestFirst]
    rw [List.map_mergeSort]
    simp
  rw [Tool.buildTools, Checked.bind_eq_ok]
  refine ⟨true, isDirectory_of_find stocked.shelved, ?_⟩
  rw [if_neg (by decide), Checked.bind_eq_ok]
  have keys := stocked.versionKeys
  rw [← stocked.listed place reached] at keys
  refine ⟨place, reached, Checked.bind_eq_ok.mpr ⟨_, keys, ?_⟩⟩
  rw [sorted, List.map_map]
  rfl

theorem buildTools_none {other : Path}
    (none : files.isDirectory (other / "build-tools") = .ok false) :
    buildTools files other = .ok [] := by
  rw [buildTools, Checked.bind_eq_ok]
  exact ⟨false, none, rfl⟩

def foundIn (files : Files) (sdk : Path) (tool : String) (versions : List Version) :
    Option String :=
  ((newestFirst Version.key versions).find? fun version =>
    isProgram files (toolAt sdk tool version).text).map fun version =>
      (toolAt sdk tool version).text

theorem firstExecutable_stocked (canonical : sdk.Canonical)
    (short : ∀ version ∈ versions, Short (toolAt sdk tool version)) :
    firstExecutable files (((newestFirst Version.key versions).map fun version =>
      sdk / "build-tools" / version.name).map (· / tool)) =
        .ok (foundIn files sdk tool versions) := by
  have paths : ((newestFirst Version.key versions).map fun version =>
      sdk / "build-tools" / version.name).map (· / tool) =
        (newestFirst Version.key versions).map (toolAt sdk tool) := by
    rw [List.map_map]
    rfl
  rw [paths, firstExecutable_eq files _ fun path => isProgram files path.text]
  · simp only [foundIn, List.find?_map, Option.map_map, Function.comp_def]
  · simp only [List.forall_mem_map]
    intro version member
    have listed : version ∈ versions := List.mem_mergeSort.mp member
    exact isExecutableFile_short files (canonical_toolAt canonical version) (short version listed)

-- By recursion on the roots: any other root has nothing, and this one has the same each time.
theorem inSdks_sole (roots : List Path) (canonical : sdk.Canonical)
    (stocked : Stocked files sdk versions)
    (short : ∀ version ∈ versions, Short (toolAt sdk tool version))
    (sole : ∀ other ∈ roots, other ≠ sdk → files.isDirectory (other / "build-tools") = .ok false) :
    inSdks files tool roots =
      .ok (if sdk ∈ roots then foundIn files sdk tool versions else none) := by
  induction roots with
  | nil => rfl
  | cons root rest ih =>
      have later := ih fun other member => sole other (List.mem_cons_of_mem _ member)
      by_cases this : root = sdk
      · subst this
        rw [inSdks, stocked.buildTools]
        simp only [bind, Except.bind]
        rw [firstExecutable_stocked canonical short]
        cases found : foundIn files root tool versions with
        | some path => simp [pure, Except.pure]
        | none => simp [later, found]
      · rw [inSdks, buildTools_none (sole root List.mem_cons_self this)]
        simp only [bind, Except.bind, List.map_nil, firstExecutable, later, List.mem_cons,
          Ne.symm this, false_or]

theorem canonical_sdks (root : Path) (member : root ∈ sdks environment (bin.map Path.ofText)) :
    root.Canonical := by
  rcases List.mem_append.mp member with own | named
  · simp only [Option.map_map, Option.mem_toList, Option.map_eq_some_iff] at own
    obtain ⟨directory, _, rfl⟩ := own
    exact (Path.canonical_ofText directory).child "android-sdk"
  · obtain ⟨key, _, value⟩ := List.mem_filterMap.mp named
    obtain ⟨text, _, rfl⟩ := Option.map_eq_some_iff.mp value
    exact Path.canonical_ofText text

theorem OnlyInSdk.findTool (only : OnlyInSdk files environment tool bin sdk versions) :
    findTool files environment tool (bin.map Path.ofText) =
      .ok (foundIn files sdk tool versions) := by
  have unbinned : firstExecutable files ((bin.map Path.ofText).map (· / tool)).toList =
      .ok none := by
    cases given : bin with
    | none => rfl
    | some directory =>
        simp [firstExecutable, only.unbinned directory given, bind, Except.bind]
  rw [Tool.findTool, only.unfound]
  simp only [unbinned, bind, Except.bind]
  rw [inSdks_sole _ (canonical_sdks sdk only.among) only.stocked only.short only.sole,
    if_pos only.among]

theorem foundIn_eq_some (canonical : sdk.Canonical) (path : String) :
    foundIn files sdk tool versions = some path ↔
      ∃ version, Chosen (HasTool files sdk tool) versions version ∧
        path = (toolAt sdk tool version).text := by
  have turned : ∀ version, (toolAt sdk tool version).text = path ↔
      path = (toolAt sdk tool version).text := fun version => eq_comm
  simp only [foundIn, Option.map_eq_some_iff, find_newestFirst, turned,
    hasTool_text canonical]

theorem foundIn_eq_none (canonical : sdk.Canonical) :
    foundIn files sdk tool versions = none ↔
      ∀ version ∈ versions, ¬HasTool files sdk tool version := by
  simp only [foundIn, Option.map_eq_none_iff, List.find?_eq_none, newestFirst, List.mem_mergeSort,
    hasTool_text canonical]

/-- A tool that is only in the build tools is found unless no version has it. The version that is
chosen has the numbers of the newest one, and is that one if it alone has them; otherwise it may be
a candidate in its place. -/
theorem findTool_chooses (only : OnlyInSdk files environment tool bin sdk versions) :
    ∃ answer, findTool files environment tool (bin.map Path.ofText) = .ok answer ∧
      (answer = none ↔ ∀ version ∈ versions, ¬HasTool files sdk tool version) ∧
      (∀ path, answer = some path ↔
        ∃ version, Chosen (HasTool files sdk tool) versions version ∧
          path = (toolAt sdk tool version).text) ∧
      ∀ newest, Newest (HasTool files sdk tool) versions newest →
        (∃ version, Chosen (HasTool files sdk tool) versions version ∧
          version.numbers = newest.numbers ∧ (version = newest ∨ version.candidate ≠ none)) ∧
        ((∀ other ∈ versions, HasTool files sdk tool other → other.numbers = newest.numbers →
          other = newest) → answer = some (toolAt sdk tool newest).text) := by
  have canonical := canonical_sdks sdk only.among
  refine ⟨foundIn files sdk tool versions, only.findTool, foundIn_eq_none canonical,
    foundIn_eq_some canonical, ?_⟩
  intro newest best
  have found : ∃ version, Chosen (HasTool files sdk tool) versions version := by
    by_contra none
    have nothing : foundIn files sdk tool versions = .none := by
      apply Option.eq_none_iff_forall_ne_some.mpr
      intro path some
      obtain ⟨version, chosen, _⟩ := (foundIn_eq_some canonical path).mp some
      exact none ⟨version, chosen⟩
    exact (foundIn_eq_none canonical).mp nothing newest best.listed best.has
  obtain ⟨version, chosen⟩ := found
  have like := chosen.newest best
  constructor
  · exact ⟨version, chosen, like⟩
  · intro alone
    have same : version = newest := alone version chosen.listed chosen.has like.1
    rw [foundIn_eq_some canonical]
    exact ⟨newest, same ▸ chosen, rfl⟩

end

/-- An SDK at `/s` with versions of the build tools, each with the signer or without it. -/
def shelf (stock : List (Version × Bool)) : Files where
  nodes := [(["s"], .directory), (["s", "build-tools"], .directory)] ++
    stock.flatMap fun (version, has) =>
      (["s", "build-tools", version.name], .directory) ::
        if has then [(["s", "build-tools", version.name, signerName], .file [] 0o755)] else []
  here := []

def shelfRoot : Path := ⟨1, ["s"]⟩

def shelfEnvironment : Environment := [("PATH", ""), ("ANDROID_HOME", "/s")]

theorem namesIn_shelf (stock : List (Version × Bool)) :
    (shelf stock).namesIn ["s", "build-tools"] = (stock.map Prod.fst).map Version.name := by
  simp only [namesIn, below, shelf]
  rw [List.filterMap_append, List.filterMap_append]
  induction stock with
  | nil => rfl
  | cons first rest ih =>
      obtain ⟨version, has⟩ := first
      cases has <;> simp_all

theorem onlyInSdk_shelf (stock : List (Version × Bool))
    (found : ∀ version ∈ stock.map Prod.fst,
      (shelf stock).find (shelfRoot / "build-tools" / version.name) = .ok .directory)
    (short : ∀ version ∈ stock.map Prod.fst, Short (toolAt shelfRoot signerName version)) :
    OnlyInSdk (shelf stock) shelfEnvironment signerName none shelfRoot (stock.map Prod.fst) := by
  have reached : (shelf stock).resolve (shelfRoot / "build-tools") = .ok ["s", "build-tools"] := by
    apply (resolve_eq_ok ..).mpr
    exact ⟨⟨by decide, by decide⟩, rfl⟩
  constructor
  · rfl
  · intro directory given
    cases given
  · exact List.mem_singleton_self shelfRoot
  · intro other member apart
    exact absurd (List.mem_singleton.mp member) apart
  · constructor
    · exact (find_eq_ok ..).mpr ⟨_, reached, rfl⟩
    · intro place there
      rw [reached] at there
      cases there
      exact namesIn_shelf stock
    · exact found
  · exact short

def thirtyFour (candidate : Option Numeral) : Version where
  major := ⟨['3', '4'], by decide, List.all_eq_true.mp rfl⟩
  minor := ⟨['0'], by decide, List.all_eq_true.mp rfl⟩
  patch := ⟨['0'], by decide, List.all_eq_true.mp rfl⟩
  candidate := candidate

def release : Version := thirtyFour none

def candidateOne : Version := thirtyFour (some ⟨['1'], by decide, List.all_eq_true.mp rfl⟩)

def candidateTwo : Version := thirtyFour (some ⟨['2'], by decide, List.all_eq_true.mp rfl⟩)

def nine : Version where
  major := ⟨['9'], by decide, List.all_eq_true.mp rfl⟩
  minor := ⟨['0'], by decide, List.all_eq_true.mp rfl⟩
  patch := ⟨['0'], by decide, List.all_eq_true.mp rfl⟩
  candidate := none

def mixedStock : List (Version × Bool) :=
  [(nine, true), (release, false), (candidateOne, true)]

theorem shelved_short : ∀ version ∈ [nine, release, candidateOne, candidateTwo],
    Short (toolAt shelfRoot signerName version) := by
  simp only [List.forall_mem_cons, List.not_mem_nil, false_imp_iff, implies_true, and_true]
  exact ⟨⟨by decide, by decide⟩, ⟨by decide, by decide⟩, ⟨by decide, by decide⟩,
    ⟨by decide, by decide⟩⟩

theorem findTool_chooses_mixed :
    OnlyInSdk (shelf mixedStock) shelfEnvironment signerName none shelfRoot
        [nine, release, candidateOne] ∧
      Newest (HasTool (shelf mixedStock) shelfRoot signerName) [nine, release, candidateOne]
        candidateOne ∧
      findTool (shelf mixedStock) shelfEnvironment signerName none =
        .ok (some "/s/build-tools/34.0.0-rc1/apksigner") := by
  have only : OnlyInSdk (shelf mixedStock) shelfEnvironment signerName none shelfRoot
      [nine, release, candidateOne] := by
    apply onlyInSdk_shelf mixedStock
    · change ∀ version ∈ [nine, release, candidateOne], _
      simp only [List.forall_mem_cons]
      exact ⟨rfl, rfl, rfl, by simp⟩
    · intro version member
      exact shelved_short version (List.mem_append_left [candidateTwo] member)
  have lacks : ¬HasTool (shelf mixedStock) shelfRoot signerName release := by
    rw [← hasTool_text (canonical_sdks shelfRoot only.among)]
    decide +kernel
  have best : Newest (HasTool (shelf mixedStock) shelfRoot signerName)
      [nine, release, candidateOne] candidateOne := by
    constructor
    · simp
    · exact ⟨[], 0o755, rfl, by decide⟩
    · simp only [List.forall_mem_cons]
      exact ⟨fun _ => Or.inr (Or.inl (by decide)), fun has => absurd has lacks,
        fun _ => Or.inl trivial, by simp⟩
  obtain ⟨answer, found, _, _, newest⟩ := findTool_chooses only
  have alone : answer = some (toolAt shelfRoot signerName candidateOne).text := by
    apply (newest candidateOne best).2
    simp only [List.forall_mem_cons]
    exact ⟨fun _ same => absurd same (by decide), fun has _ => absurd has lacks,
      fun _ _ => trivial, by simp⟩
  have text : (toolAt shelfRoot signerName candidateOne).text =
      "/s/build-tools/34.0.0-rc1/apksigner" := by
    decide
  rw [alone, text] at found
  exact ⟨only, best, found⟩

structure Answered (versions : List Version) (newest : Version) (answer : String) : Prop where
  only : OnlyInSdk (shelf (versions.map (·, true))) shelfEnvironment signerName none shelfRoot
    versions
  best : Newest (HasTool (shelf (versions.map (·, true))) shelfRoot signerName) versions newest
  found : findTool (shelf (versions.map (·, true))) shelfEnvironment signerName none =
    .ok (some answer)

theorem answered_of (first second newest chosen : Version)
    (shelved : [first, second] ⊆ [nine, release, candidateOne, candidateTwo])
    (found : ∀ version, version = first ∨ version = second →
      (shelf [(first, true), (second, true)]).find (shelfRoot / "build-tools" / version.name) =
        .ok .directory)
    (has : ∀ version, version = first ∨ version = second →
      HasTool (shelf [(first, true), (second, true)]) shelfRoot signerName version)
    (listed : newest = first ∨ newest = second)
    (others : ∀ other, other = first ∨ other = second → other = newest ∨ other.Older newest)
    (chooses : Chosen (fun _ => True) [first, second] chosen) :
    Answered [first, second] newest (toolAt shelfRoot signerName chosen).text := by
  have either : ∀ version, version ∈ [first, second] ↔ version = first ∨ version = second := by
    simp
  have only := onlyInSdk_shelf [(first, true), (second, true)]
    (fun version member => found version ((either version).mp member))
    fun version member => shelved_short version (shelved member)
  have choice : Chosen (HasTool (shelf [(first, true), (second, true)]) shelfRoot signerName)
      [first, second] chosen := by
    have hit := has chosen ((either chosen).mp chooses.listed)
    obtain ⟨front, back, shape, _, ahead, behind⟩ := chooses
    exact ⟨front, back, shape, hit, fun other early _ => ahead other early trivial,
      fun other late _ => behind other late trivial⟩
  constructor
  · exact only
  · constructor
    · exact (either newest).mpr listed
    · exact has newest listed
    · intro other member _
      exact others other ((either other).mp member)
  · have canonical := canonical_sdks shelfRoot only.among
    exact only.findTool.trans (congrArg _ ((foundIn_eq_some canonical _).mpr ⟨chosen, choice, rfl⟩))

theorem candidateOne_older : candidateOne.Older release ∧ candidateOne.Older candidateTwo := by
  constructor
  · refine Or.inr ⟨rfl, _, rfl, ?_⟩
    intro other none
    cases none
  · refine Or.inr ⟨rfl, _, rfl, ?_⟩
    rintro other ⟨⟩
    decide

/-- A candidate is found in place of its release, and of two candidates the one that is listed
first. -/
theorem candidates_misplaced :
    Answered [release, candidateOne] release "/s/build-tools/34.0.0-rc1/apksigner" ∧
      Answered [candidateOne, candidateTwo] candidateTwo "/s/build-tools/34.0.0-rc1/apksigner" ∧
      Answered [candidateTwo, candidateOne] candidateTwo "/s/build-tools/34.0.0-rc2/apksigner" := by
  have one : (toolAt shelfRoot signerName candidateOne).text =
      "/s/build-tools/34.0.0-rc1/apksigner" := by
    decide
  have two : (toolAt shelfRoot signerName candidateTwo).text =
      "/s/build-tools/34.0.0-rc2/apksigner" := by
    decide
  rw [← one, ← two]
  refine ⟨?_, ?_, ?_⟩
  · apply answered_of
    · simp
    · rintro _ (rfl | rfl) <;> rfl
    · rintro _ (rfl | rfl) <;> exact ⟨[], 0o755, rfl, by decide⟩
    · exact Or.inl rfl
    · rintro _ (rfl | rfl)
      · exact Or.inl rfl
      · exact Or.inr candidateOne_older.1
    · exact ⟨[release], [], rfl, trivial, by decide, by simp⟩
  · apply answered_of
    · simp
    · rintro _ (rfl | rfl) <;> rfl
    · rintro _ (rfl | rfl) <;> exact ⟨[], 0o755, rfl, by decide⟩
    · exact Or.inr rfl
    · rintro _ (rfl | rfl)
      · exact Or.inr candidateOne_older.2
      · exact Or.inl rfl
    · exact ⟨[], [candidateTwo], rfl, trivial, by simp, by decide⟩
  · apply answered_of
    · simp
    · rintro _ (rfl | rfl) <;> rfl
    · rintro _ (rfl | rfl) <;> exact ⟨[], 0o755, rfl, by decide⟩
    · exact Or.inl rfl
    · rintro _ (rfl | rfl)
      · exact Or.inl rfl
      · exact Or.inr candidateOne_older.2
    · exact ⟨[], [candidateOne], rfl, trivial, by simp, by decide⟩

end DexGraft.Tool
