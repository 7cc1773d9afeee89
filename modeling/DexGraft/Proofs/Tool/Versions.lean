import DexGraft.Proofs.Text.Cut
import DexGraft.Proofs.Text.Numeral
import DexGraft.Tool.Version
import Mathlib.Data.List.Infix

/-!
Versions of the build tools: three numbers, and one more for a release candidate. By the numbers
that their names are ranked by, a release gives way to its candidates, and candidates of one version
keep the order in which they are listed.
-/
namespace DexGraft.Tool

open Text

section
variable {Item : Type} {before : Item → Item → Bool}
  (passes : ∀ first second third, before first second = true → before second third = true →
    before first third = true)
  (total : ∀ first second, (before first second || before second first) = true)
include passes total

theorem find_mergeSort_cons (holds : Item → Bool) (item : Item) (rest : List Item) :
    ((item :: rest).mergeSort before).find? holds =
      if holds item ∧ ∀ best ∈ (rest.mergeSort before).find? holds, before item best = true then
        some item
      else (rest.mergeSort before).find? holds := by
  obtain ⟨front, back, whole, others, after⟩ := List.mergeSort_cons passes total item rest
  have sorted := List.pairwise_mergeSort passes total (item :: rest)
  rw [whole, List.pairwise_append] at sorted
  have behind := (List.pairwise_cons.mp sorted.2.1).1
  rw [whole, others, List.find?_append, List.find?_append, List.find?_cons]
  cases early : front.find? holds with
  | some best =>
      have later := after best (List.mem_of_find?_eq_some early)
      simp_all
  | none =>
      by_cases hit : holds item = true
      · have all : ∀ best ∈ back.find? holds, before item best = true :=
          fun best found => behind best (List.mem_of_find?_eq_some found)
        simp_all
      · simp [hit]

theorem first_of_mergeSort (holds : Item → Bool) (items : List Item) (best : Item)
    (found : (items.mergeSort before).find? holds = some best) :
    ∀ other ∈ items, holds other = true → before best other = true := by
  intro other member hit
  have sorted := List.pairwise_mergeSort passes total items
  obtain ⟨_, front, back, shape, skipped⟩ := List.find?_eq_some_iff_append.mp found
  have placed : other ∈ items.mergeSort before := List.mem_mergeSort.mpr member
  rw [shape] at placed
  rw [shape, List.pairwise_append] at sorted
  rcases List.mem_append.mp placed with early | late
  · simpa [hit] using skipped other early
  · rcases List.mem_cons.mp late with rfl | behind
    · simpa using total other other
    · exact (List.pairwise_cons.mp sorted.2.1).1 other behind

/-- The first of the sorted items that holds is the first of the best as they were listed. -/
theorem find_mergeSort (holds : Item → Bool) (items : List Item) (item : Item) :
    (items.mergeSort before).find? holds = some item ↔
      ∃ front back, items = front ++ item :: back ∧ holds item = true ∧
        (∀ other ∈ front, holds other = true → before other item = false) ∧
        ∀ other ∈ back, holds other = true → before item other = true := by
  induction items with
  | nil => simp
  | cons first rest ih =>
      rw [find_mergeSort_cons passes total]
      constructor
      · intro found
        split at found
        · rename_i best
          cases found
          refine ⟨[], rest, rfl, best.1, by simp, ?_⟩
          intro other member hit
          -- What is found in the rest is as good as the other one, and this one as good as that.
          have some : ((rest.mergeSort before).find? holds).isSome = true := by
            rw [List.find?_isSome]
            exact ⟨other, List.mem_mergeSort.mpr member, hit⟩
          obtain ⟨second, found⟩ := Option.isSome_iff_exists.mp some
          apply passes item second other (best.2 second found)
          exact first_of_mergeSort passes total holds rest second found other member hit
        · rename_i worse
          obtain ⟨front, back, shape, hit, ahead, behind⟩ := ih.mp found
          refine ⟨first :: front, back, by rw [shape, List.cons_append], hit, ?_, behind⟩
          intro other member late
          rcases List.mem_cons.mp member with rfl | later
          · rw [found] at worse
            simpa [late] using worse
          · exact ahead other later late
      · rintro ⟨front, back, shape, hit, ahead, behind⟩
        cases front with
        | nil =>
            cases shape
            rw [if_pos]
            refine ⟨hit, fun best found => ?_⟩
            have member := List.mem_of_find?_eq_some found
            exact behind best (List.mem_mergeSort.mp member) (List.find?_some found)
        | cons head front =>
            cases shape
            have found := ih.mpr ⟨front, back, rfl, hit,
              fun other member => ahead other (List.mem_cons_of_mem _ member), behind⟩
            rw [found, if_neg]
            rintro ⟨early, best⟩
            have late := ahead first List.mem_cons_self early
            rw [best item rfl] at late
            cases late

end

structure Numeral where
  digits : List Char
  filled : digits ≠ []
  ascii : ∀ c ∈ digits, isAsciiDigit c = true
  deriving DecidableEq

def Numeral.value (numeral : Numeral) : Nat :=
  decimal numeral.digits

/-- Three numbers, and for a release candidate one more. -/
structure Version where
  major : Numeral
  minor : Numeral
  patch : Numeral
  candidate : Option Numeral
  deriving DecidableEq

namespace Version

def suffix (version : Version) : List Char :=
  match version.candidate with
  | none => []
  | some numeral => '-' :: 'r' :: 'c' :: numeral.digits

def name (version : Version) : String :=
  String.ofList (version.major.digits ++ '.' :: (version.minor.digits ++
    '.' :: (version.patch.digits ++ version.suffix)))

def numbers (version : Version) : List Nat :=
  [version.major.value, version.minor.value, version.patch.value]

/-- The order of age: number by number, a candidate before its release, and among candidates the
one with the lower number first. -/
def Older (first second : Version) : Prop :=
  first.numbers < second.numbers ∨ first.numbers = second.numbers ∧
    ∃ numeral, first.candidate = some numeral ∧
      ∀ other, second.candidate = some other → numeral.value < other.value

/-- The order in which versions give way: number by number as well, but a release gives way to its
candidates, and no candidate to another one. -/
def Yields (first second : Version) : Prop :=
  first.numbers < second.numbers ∨ first.numbers = second.numbers ∧
    first.candidate = none ∧ second.candidate ≠ none

instance (first second : Version) : Decidable (first.Yields second) :=
  inferInstanceAs (Decidable (_ ∨ _ ∧ _ ∧ _))

def key (version : Version) : List Nat :=
  version.numbers ++ (version.candidate.map fun _ => 0).toList

end Version

theorem Numeral.plain (numeral : Numeral) (mark : Char) (other : isAsciiDigit mark = false) :
    ∀ c ∈ numeral.digits, c ≠ mark := by
  rintro c member rfl
  rw [numeral.ascii c member] at other
  cases other

theorem Numeral.unhyphened (numeral : Numeral) :
    numeral.digits.map hyphenToDot = numeral.digits := by
  have same : ∀ c ∈ numeral.digits, hyphenToDot c = id c := by
    intro c member
    rw [hyphenToDot, if_neg (by simpa using numeral.plain '-' (by decide) c member), id]
  rw [List.map_congr_left same, List.map_id]

theorem versionPart_numeral (numeral : Numeral) (short : numeral.digits.length ≤ digitLimit) :
    versionPart numeral.digits = .ok numeral.value := by
  have digits : numeral.digits.all isDigit = true := by
    rw [List.all_eq_true]
    intro c member
    rw [isDigit, decimalValue_ascii c (numeral.ascii c member)]
    rfl
  simp [versionPart, List.isEmpty_iff, numeral.filled, digits,
    readNatural_ascii numeral.digits numeral.ascii numeral.filled, short, Numeral.value]

theorem versionPart_mark (rest : List Char) : versionPart ('r' :: rest) = .ok 0 := by
  have letter : isDigit 'r' = false := by decide
  simp [versionPart, letter]

theorem length_le_size (text : List Char) : text.length ≤ (String.ofList text).utf8ByteSize := by
  induction text with
  | nil => exact Nat.zero_le _
  | cons c rest ih =>
      have one := Char.utf8Size_pos c
      rw [String.ofList_cons, String.utf8ByteSize_append, String.utf8ByteSize_singleton,
        List.length_cons]
      omega

namespace Version

theorem cut_name (version : Version) :
    splitAt '.' (version.name.toList.map hyphenToDot) =
      [version.major.digits, version.minor.digits, version.patch.digits] ++
        (version.candidate.map fun numeral => 'r' :: 'c' :: numeral.digits).toList := by
  have dot : hyphenToDot '.' = '.' := rfl
  have dotless : isAsciiDigit '.' = false := rfl
  have ending : splitAt '.' (version.patch.digits ++ version.suffix.map hyphenToDot) =
      version.patch.digits ::
        (version.candidate.map fun numeral => 'r' :: 'c' :: numeral.digits).toList := by
    cases marked : version.candidate with
    | none =>
        simp only [suffix, marked, List.map_nil, List.append_nil, Option.map_none,
          Option.toList_none]
        exact splitAt_whole '.' _ (version.patch.plain '.' dotless)
    | some numeral =>
        have letters : ∀ c ∈ 'r' :: 'c' :: numeral.digits, c ≠ '.' := by
          simp only [List.forall_mem_cons]
          exact ⟨by decide, by decide, numeral.plain '.' dotless⟩
        have hyphen : hyphenToDot '-' = '.' := rfl
        simp only [suffix, marked, List.map_cons, numeral.unhyphened, hyphen, Option.map_some,
          Option.toList_some]
        rw [splitAt_append '.' _ _ (version.patch.plain '.' dotless)]
        exact congrArg _ (splitAt_whole '.' _ letters)
  simp only [name, String.toList_ofList, List.map_append, List.map_cons, Numeral.unhyphened, dot]
  rw [splitAt_append '.' _ _ (version.major.plain '.' dotless),
    splitAt_append '.' _ _ (version.minor.plain '.' dotless), ending]
  rfl

theorem short_numbers (version : Version) (short : version.name.utf8ByteSize ≤ digitLimit) :
    version.major.digits.length ≤ digitLimit ∧ version.minor.digits.length ≤ digitLimit ∧
      version.patch.digits.length ≤ digitLimit := by
  have size := Nat.le_trans (length_le_size _) short
  simp only [List.length_append, List.length_cons] at size
  omega

theorem versionKey_name (version : Version) (short : version.name.utf8ByteSize ≤ digitLimit) :
    versionKey version.name = .ok version.key := by
  obtain ⟨major, minor, patch⟩ := version.short_numbers short
  rw [versionKey, cut_name]
  cases marked : version.candidate <;>
    simp [key, numbers, marked, versionPart_numeral, versionPart_mark, major, minor, patch, bind,
      Except.bind, pure, Except.pure]

end Version

theorem notNewer_trans (first second third : List Nat) (one : notNewer first second = true)
    (two : notNewer second third = true) : notNewer first third = true := by
  induction first generalizing second third with
  | nil => rfl
  | cons a rest ih =>
      cases second with
      | nil => cases one
      | cons b others =>
          cases third with
          | nil => cases two
          | cons c more =>
              simp only [notNewer, Bool.or_eq_true, Bool.and_eq_true, decide_eq_true_eq,
                beq_iff_eq] at one two ⊢
              rcases one with below | ⟨rfl, one⟩
              · rcases two with above | ⟨rfl, _⟩
                · exact Or.inl (Nat.lt_trans below above)
                · exact Or.inl below
              · rcases two with above | ⟨rfl, two⟩
                · exact Or.inl above
                · exact Or.inr ⟨rfl, ih others more one two⟩

theorem notNewer_total (first second : List Nat) :
    (notNewer first second || notNewer second first) = true := by
  induction first generalizing second with
  | nil => rfl
  | cons a rest ih =>
      cases second with
      | nil => rfl
      | cons b others =>
          have either := ih others
          simp only [notNewer, Bool.or_eq_true, Bool.and_eq_true, decide_eq_true_eq,
            beq_iff_eq] at either ⊢
          rcases Nat.lt_trichotomy a b with below | rfl | above
          · exact Or.inl (Or.inl below)
          · rcases either with one | other
            · exact Or.inl (Or.inr ⟨rfl, one⟩)
            · exact Or.inr (Or.inr ⟨rfl, other⟩)
          · exact Or.inr (Or.inl above)

theorem notNewer_key (first second : Version) :
    notNewer first.key second.key = true ↔ ¬second.Yields first := by
  cases one : first.candidate <;> cases two : second.candidate <;>
    simp [Version.Yields, Version.key, Version.numbers, notNewer, one, two,
      List.cons_lt_cons_iff] <;>
    omega

/-- The version that is chosen among those that hold, in the order of a listing: all that are
listed before it give way to it, and it gives way to none behind it. -/
def Chosen (holds : Version → Prop) (versions : List Version) (version : Version) : Prop :=
  ∃ front back, versions = front ++ version :: back ∧ holds version ∧
    (∀ other ∈ front, holds other → other.Yields version) ∧
    ∀ other ∈ back, holds other → ¬version.Yields other

/-- The newest version among those that hold: all others are older. -/
structure Newest (holds : Version → Prop) (versions : List Version) (version : Version) : Prop where
  listed : version ∈ versions
  has : holds version
  others : ∀ other ∈ versions, holds other → other = version ∨ other.Older version

theorem find_newestFirst (runs : Version → Bool) (versions : List Version) (version : Version) :
    (newestFirst Version.key versions).find? runs = some version ↔
      Chosen (fun version => runs version = true) versions version := by
  have passes : ∀ first second third : Version, notNewer second.key first.key = true →
      notNewer third.key second.key = true → notNewer third.key first.key = true :=
    fun first second third one two => notNewer_trans third.key second.key first.key two one
  have total : ∀ first second : Version,
      (notNewer second.key first.key || notNewer first.key second.key) = true :=
    fun first second => notNewer_total second.key first.key
  have behind : ∀ first second : Version, notNewer second.key first.key = true ↔
      ¬first.Yields second :=
    fun first second => notNewer_key second first
  have ahead : ∀ first second : Version, notNewer second.key first.key = false ↔
      first.Yields second := by
    intro first second
    rw [← Bool.not_eq_true, behind, not_not]
  simp only [newestFirst, find_mergeSort passes total, ahead, behind, Chosen]

theorem Chosen.listed {holds : Version → Prop} {versions : List Version} {version : Version}
    (chosen : Chosen holds versions version) : version ∈ versions := by
  obtain ⟨front, back, rfl, _⟩ := chosen
  exact List.mem_append_right front List.mem_cons_self

theorem Chosen.has {holds : Version → Prop} {versions : List Version} {version : Version}
    (chosen : Chosen holds versions version) : holds version := by
  obtain ⟨_, _, _, has, _⟩ := chosen
  exact has

theorem Chosen.newest {holds : Version → Prop} {versions : List Version} {chosen newest : Version}
    (choice : Chosen holds versions chosen) (best : Newest holds versions newest) :
    chosen.numbers = newest.numbers ∧ (chosen = newest ∨ chosen.candidate ≠ none) := by
  obtain ⟨front, back, rfl, has, ahead, behind⟩ := choice
  rcases best.others chosen (by simp) has with rfl | below | ⟨same, numeral, marked, _⟩
  · exact ⟨rfl, Or.inl rfl⟩
  · -- The numbers are not lower, wherever the newest version stands.
    exfalso
    rcases List.mem_append.mp best.listed with early | late
    · rcases ahead newest early best.has with above | ⟨same, _⟩
      · exact List.lt_irrefl _ (List.lt_trans below above)
      · exact List.lt_irrefl _ (same ▸ below)
    · rcases List.mem_cons.mp late with rfl | later
      · exact List.lt_irrefl _ below
      · exact behind newest later best.has (Or.inl below)
  · exact ⟨same, Or.inr (by rw [marked]; exact Option.some_ne_none numeral)⟩

end DexGraft.Tool
