import DexGraft.Proofs.Text.Joined
import DexGraft.Proofs.Text.Trimmed

/-!
How a text ends, and what its end counts for. A text that ends in a break has an empty
last line behind it. The two rules for breaking a text give the same number of lines but
for the boundaries that only one of them knows, and each of these cuts a line in two
unless it is the very last character.
-/
namespace DexGraft.Text

def endsInBreak (text : List Char) : Bool :=
  text.getLast?.any isBreak

theorem endsInBreak_cons (c : Char) (rest : List Char) (more : rest ≠ []) :
    endsInBreak (c :: rest) = endsInBreak rest := by
  rw [endsInBreak, List.getLast?_cons_of_ne_nil more, endsInBreak]

-- The open line is a line of its own unless a break ends the text.
theorem linesFrom_last (current text : List Char) :
    (linesFrom current text).getLast? = some [] ↔
      current = [] ∧ text = [] ∨ endsInBreak text = true := by
  fun_induction linesFrom current text with
  | case1 current => simp [endsInBreak]
  | case2 current rest ih =>
      rw [List.getLast?_cons_of_ne_nil (linesFrom_ne_nil [] rest), ih]
      cases rest with
      | nil => simp [endsInBreak, isBreak]
      | cons d more => simp [endsInBreak_cons]
  | case3 current c rest single hit ih =>
      rw [List.getLast?_cons_of_ne_nil (linesFrom_ne_nil [] rest), ih]
      cases rest with
      | nil => simp [endsInBreak, hit]
      | cons d more => simp [endsInBreak_cons]
  | case4 current c rest single miss ih =>
      rw [ih]
      cases rest with
      | nil => simpa [endsInBreak] using miss
      | cons d more => simp [endsInBreak_cons]

theorem linesFrom_several (current text : List Char) (ended : endsInBreak text = true) :
    1 < (linesFrom current text).length := by
  fun_induction linesFrom current text with
  | case1 current => cases ended
  | case2 current rest ih =>
      have := List.length_pos_of_ne_nil (linesFrom_ne_nil [] rest)
      rw [List.length_cons]
      omega
  | case3 current c rest single hit ih =>
      have := List.length_pos_of_ne_nil (linesFrom_ne_nil [] rest)
      rw [List.length_cons]
      omega
  | case4 current c rest single miss ih =>
      cases rest with
      | nil => simp [endsInBreak, miss] at ended
      | cons d more => exact ih (by rwa [endsInBreak_cons _ _ (by simp)] at ended)

def dropOpen (pieces : List (List Char)) : List (List Char) :=
  if pieces.getLast? = some [] then pieces.dropLast else pieces

def closedLines (text : List Char) : List (List Char) :=
  dropOpen (lines text)

/-- A line boundary other than CR and LF. -/
def isStray (c : Char) : Bool :=
  isBoundary c && !isBreak c

def strays (text : List Char) : List Char :=
  text.dropLast.filter isStray

theorem dropOpen_single (line : List Char) :
    dropOpen [line] = if line = [] then [] else [line] := by
  simp [dropOpen]

theorem dropOpen_cons (line : List Char) (pieces : List (List Char)) (filled : pieces ≠ []) :
    dropOpen (line :: pieces) = line :: dropOpen pieces := by
  simp only [dropOpen, List.getLast?_cons_of_ne_nil filled, List.dropLast_cons_of_ne_nil filled]
  split <;> rfl

theorem strays_cons (c : Char) (rest : List Char) (more : rest ≠ []) :
    strays (c :: rest) = if isStray c then c :: strays rest else strays rest := by
  rw [strays, List.dropLast_cons_of_ne_nil more, List.filter_cons, strays]

theorem linesFrom_break (current rest : List Char) (c : Char)
    (single : ∀ more, c = '\r' → rest = '\n' :: more → False) (hit : isBreak c = true) :
    linesFrom current (c :: rest) = current.reverse :: linesFrom [] rest := by
  rw [linesFrom, if_pos hit]
  exact single

theorem linesFrom_plain (current rest : List Char) (c : Char)
    (single : ∀ more, c = '\r' → rest = '\n' :: more → False) (miss : isBreak c = false) :
    linesFrom current (c :: rest) = linesFrom (c :: current) rest := by
  rw [linesFrom, if_neg (by simp [miss])]
  exact single

-- Which characters are in the open lines does not count, as long as there is more to come.
theorem paragraphsFrom_length (current open_ text : List Char) (more : text ≠ []) :
    (paragraphsFrom current text).length =
      (dropOpen (linesFrom open_ text)).length + (strays text).length := by
  fun_induction paragraphsFrom current text generalizing open_ with
  | case1 => exact absurd rfl more
  | case2 => exact absurd rfl more
  | case3 current rest ih =>
      rw [linesFrom, dropOpen_cons _ _ (linesFrom_ne_nil [] rest)]
      cases rest with
      | nil => rfl
      | cons d rest =>
          have later := ih [] (by simp)
          rw [strays_cons _ _ (by simp), strays_cons _ _ (by simp)]
          simp only [List.length_cons, later, isStray, isBreak]
          simp
          omega
  | case4 current c rest single hit ih =>
      by_cases break_ : isBreak c = true
      · rw [linesFrom_break _ _ _ single break_, dropOpen_cons _ _ (linesFrom_ne_nil [] rest)]
        cases rest with
        | nil => rfl
        | cons d rest =>
            have later := ih [] (by simp)
            rw [strays_cons _ _ (by simp)]
            simp [later, isStray, break_]
            omega
      · rw [linesFrom_plain _ _ _ single (by simpa using break_)]
        cases rest with
        | nil => simp [paragraphsFrom, linesFrom, dropOpen_single, strays]
        | cons d rest =>
            have later := ih (c :: open_) (by simp)
            rw [strays_cons _ _ (by simp)]
            simp [later, isStray, break_, hit]
            omega
  | case5 current c rest single miss ih =>
      have plain : isBreak c = false := not_boundary (by simpa using miss)
      rw [linesFrom_plain _ _ _ single plain]
      cases rest with
      | nil => simp [paragraphsFrom, linesFrom, dropOpen_single, strays]
      | cons d rest =>
          rw [strays_cons _ _ (by simp), ih (c :: open_) (by simp)]
          simp [isStray, miss]

theorem boundary_blank {c : Char} (boundary : isBoundary c = true) : isBlank c = true := by
  simp only [isBoundary, isBlank, Bool.or_eq_true, Bool.and_eq_true, decide_eq_true_eq,
    beq_iff_eq] at boundary ⊢
  omega

theorem trim_blank_end (line : List Char) (c : Char) (blank : isBlank c = true) :
    trim (line ++ [c]) = trim line := by
  by_cases empty : trimStart line = []
  · have all : ∀ d ∈ line, isBlank d = true := List.dropWhile_eq_nil_iff.mp empty
    have bare : trimStart (line ++ [c]) = [] := by
      apply List.dropWhile_eq_nil_iff.mpr
      intro d member
      rcases List.mem_append.mp member with old | new
      · exact all d old
      · rwa [List.mem_singleton.mp new]
    rw [trim, trim, bare, empty]
  · have front : trimStart (line ++ [c]) = trimStart line ++ [c] := by
      rw [trimStart, List.dropWhile_append, if_neg (by rwa [List.isEmpty_iff])]
      rfl
    rw [trim, trim, front]
    exact List.rdropWhile_concat_pos isBlank _ c blank

-- A boundary at the very end is no part of the words.
theorem paragraphsFrom_trimmed (current text : List Char) (none : strays text = []) :
    (paragraphsFrom current text).map trim = (dropOpen (linesFrom current text)).map trim := by
  fun_induction paragraphsFrom current text with
  | case1 current empty => simp_all [linesFrom, dropOpen_single]
  | case2 current filled => simp_all [linesFrom, dropOpen_single]
  | case3 current rest ih =>
      rw [linesFrom, dropOpen_cons _ _ (linesFrom_ne_nil [] rest), List.map_cons, List.map_cons, ih]
      cases rest with
      | nil => rfl
      | cons d rest => simpa [strays_cons, isStray, isBreak] using none
  | case4 current c rest single hit ih =>
      by_cases break_ : isBreak c = true
      · rw [linesFrom_break _ _ _ single break_, dropOpen_cons _ _ (linesFrom_ne_nil [] rest),
          List.map_cons, List.map_cons, ih]
        cases rest with
        | nil => rfl
        | cons d rest => simpa [strays_cons, isStray, break_] using none
      · rw [linesFrom_plain _ _ _ single (by simpa using break_)]
        cases rest with
        | nil =>
            simp [paragraphsFrom, linesFrom, dropOpen_single,
              trim_blank_end _ _ (boundary_blank hit)]
        | cons d rest => simp [strays_cons, isStray, break_, hit] at none
  | case5 current c rest single miss ih =>
      have plain : isBreak c = false := not_boundary (by simpa using miss)
      rw [linesFrom_plain _ _ _ single plain, ih]
      cases rest with
      | nil => rfl
      | cons d rest => simpa [strays_cons, isStray, miss] using none

theorem mem_paragraphsFrom (current text : List Char) (c : Char) (word : isBlank c = false)
    (member : c ∈ current ∨ c ∈ text) : ∃ line ∈ paragraphsFrom current text, c ∈ line := by
  fun_induction paragraphsFrom current text with
  | case1 current empty => simp_all
  | case2 current filled => simpa using member
  | case3 current rest ih =>
      have plain : c ≠ '\r' ∧ c ≠ '\n' := by
        constructor <;> rintro rfl <;> cases word
      simp only [List.mem_cons, plain.1, plain.2, false_or] at member
      rcases member with open_ | later
      · exact ⟨_, List.mem_cons_self, by simpa using open_⟩
      · obtain ⟨line, inside, here⟩ := ih (Or.inr later)
        exact ⟨line, List.mem_cons_of_mem _ inside, here⟩
  | case4 current d rest single hit ih =>
      have plain : c ≠ d := by
        rintro rfl
        rw [boundary_blank hit] at word
        cases word
      simp only [List.mem_cons, plain, false_or] at member
      rcases member with open_ | later
      · exact ⟨_, List.mem_cons_self, by simpa using open_⟩
      · obtain ⟨line, inside, here⟩ := ih (Or.inr later)
        exact ⟨line, List.mem_cons_of_mem _ inside, here⟩
  | case5 current d rest single miss ih =>
      apply ih
      simpa [or_assoc, or_left_comm] using member

theorem mem_paragraphs (text : List Char) (c : Char) (member : c ∈ text)
    (word : isBlank c = false) : ∃ line ∈ paragraphs text, c ∈ line :=
  mem_paragraphsFrom [] text c word (Or.inr member)

theorem paragraphs_length (text : List Char) :
    (paragraphs text).length = (closedLines text).length + (strays text).length := by
  cases text with
  | nil => rfl
  | cons c rest => exact paragraphsFrom_length [] [] (c :: rest) (by simp)

/-- The two rules agree on the words of all lines just where no stray cuts a line in two. -/
theorem paragraphs_agree (text : List Char) :
    (paragraphs text).map trim = (closedLines text).map trim ↔ strays text = [] := by
  constructor
  · intro same
    have counts := congrArg List.length same
    rw [List.length_map, List.length_map, paragraphs_length] at counts
    exact List.eq_nil_of_length_eq_zero (by omega)
  · exact paragraphsFrom_trimmed [] text

end DexGraft.Text
