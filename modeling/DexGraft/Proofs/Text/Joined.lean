import DexGraft.Proofs.Text.Lines

/-!
Lines that are joined and broken again. Lines without breaks come back as they
were, whichever break joins them, and that break is then the first of the text.
-/
namespace DexGraft.Text

def IsNewline (newline : List Char) : Prop :=
  newline = ['\r', '\n'] ∨ newline = ['\r'] ∨ newline = ['\n']

theorem breaks_newline (text : List Char) : ∀ found ∈ breaks text, IsNewline found := by
  fun_induction breaks text with
  | case1 => simp
  | case2 rest ih =>
      intro found member
      rcases List.mem_cons.mp member with rfl | later
      · exact Or.inl rfl
      · exact ih found later
  | case3 c rest single hit ih =>
      intro found member
      rcases List.mem_cons.mp member with rfl | later
      · simp only [isBreak, Bool.or_eq_true, beq_iff_eq] at hit
        rcases hit with rfl | rfl
        · exact Or.inr (Or.inr rfl)
        · exact Or.inr (Or.inl rfl)
      · exact ih found later
  | case4 c rest single miss ih => exact ih

theorem lines_length (text : List Char) : (lines text).length = (breaks text).length + 1 := by
  suffices every : ∀ current, (linesFrom current text).length = (breaks text).length + 1 from every []
  intro current
  fun_induction linesFrom current text with
  | case1 current => rfl
  | case2 current rest ih => simp [breaks, ih]
  | case3 current c rest single hit ih => simp [breaks, hit, ih]
  | case4 current c rest single miss ih => simp [breaks, miss, ih]

/-- What follows the newline does not make a longer break of it. -/
def Apart (newline rest : List Char) : Prop :=
  newline = ['\r'] → rest.head? ≠ some '\n'

theorem not_break {c : Char} (inside : isBreak c = false) : c ≠ '\r' ∧ c ≠ '\n' := by
  constructor
  · rintro rfl
    cases inside
  · rintro rfl
    cases inside

theorem linesFrom_line (current line rest : List Char) (unbroken : hasNoBreak line) :
    linesFrom current (line ++ rest) = linesFrom (line.reverse ++ current) rest := by
  induction line generalizing current with
  | nil => rfl
  | cons c line ih =>
      have plain : isBreak c = false := unbroken c List.mem_cons_self
      have tail : hasNoBreak line := fun d member => unbroken d (List.mem_cons_of_mem _ member)
      rw [List.cons_append, linesFrom, if_neg (by simp [plain]), ih (c :: current) tail]
      · simp
      · intro more first _
        exact (not_break plain).1 first

theorem linesFrom_newline (current newline rest : List Char) (closing : IsNewline newline)
    (apart : Apart newline rest) :
    linesFrom current (newline ++ rest) = current.reverse :: linesFrom [] rest := by
  rcases closing with rfl | rfl | rfl
  · rfl
  · rw [List.singleton_append, linesFrom]
    · rfl
    · rintro more _ rfl
      exact apart rfl rfl
  · rw [List.singleton_append, linesFrom]
    · rfl
    · intro more first _
      cases first

theorem joinWith_apart (newline : List Char) (pieces : List (List Char))
    (unbroken : ∀ piece ∈ pieces, hasNoBreak piece) : Apart newline (joinWith newline pieces) := by
  rintro rfl
  cases pieces with
  | nil => simp [joinWith]
  | cons first others =>
      rw [joinWith_cons]
      cases first with
      | nil => cases others <;> simp
      | cons c line =>
          have plain := unbroken _ List.mem_cons_self c List.mem_cons_self
          simpa using (not_break plain).2

theorem lines_joinWith (newline : List Char) (pieces : List (List Char))
    (closing : IsNewline newline) (unbroken : ∀ piece ∈ pieces, hasNoBreak piece)
    (filled : pieces ≠ []) : lines (joinWith newline pieces) = pieces := by
  induction pieces with
  | nil => exact absurd rfl filled
  | cons first others ih =>
      have here := unbroken first List.mem_cons_self
      have beyond : ∀ piece ∈ others, hasNoBreak piece := fun piece member =>
        unbroken piece (List.mem_cons_of_mem _ member)
      by_cases last : others = []
      · subst last
        have whole := linesFrom_line [] first [] here
        simpa [lines, linesFrom, joinWith] using whole
      · have step := linesFrom_newline first.reverse newline _ closing
          (joinWith_apart newline others beyond)
        rw [joinWith_first _ _ _ last, lines, List.append_assoc, linesFrom_line _ _ _ here,
          List.append_nil, step, List.reverse_reverse]
        exact congrArg (first :: ·) (ih beyond last)

theorem firstBreak_line (line rest : List Char) (unbroken : hasNoBreak line) :
    firstBreak (line ++ rest) = firstBreak rest := by
  induction line with
  | nil => rfl
  | cons c line ih =>
      have plain : isBreak c = false := unbroken c List.mem_cons_self
      rw [List.cons_append, firstBreak, plain]
      · exact ih fun d member => unbroken d (List.mem_cons_of_mem _ member)
      · intro more first _
        exact (not_break plain).1 first

theorem firstBreak_newline (newline rest : List Char) (closing : IsNewline newline)
    (apart : Apart newline rest) : firstBreak (newline ++ rest) = some newline := by
  rcases closing with rfl | rfl | rfl
  · rfl
  · rw [List.singleton_append, firstBreak]
    · rfl
    · rintro more _ rfl
      exact apart rfl rfl
  · rw [List.singleton_append, firstBreak]
    · rfl
    · intro more first _
      cases first

theorem firstBreak_joinWith (newline : List Char) (pieces : List (List Char))
    (closing : IsNewline newline) (unbroken : ∀ piece ∈ pieces, hasNoBreak piece)
    (several : 1 < pieces.length) : firstBreak (joinWith newline pieces) = some newline := by
  cases pieces with
  | nil => cases several
  | cons first others =>
      have rest : others ≠ [] := by
        rintro rfl
        exact absurd several (by simp)
      rw [joinWith_first _ _ _ rest, List.append_assoc,
        firstBreak_line _ _ (unbroken first List.mem_cons_self)]
      apply firstBreak_newline newline _ closing
      apply joinWith_apart
      exact fun piece member => unbroken piece (List.mem_cons_of_mem _ member)

theorem not_boundary {c : Char} (inside : isBoundary c = false) : isBreak c = false := by
  by_contra hit
  simp only [isBreak, Bool.not_eq_false, Bool.or_eq_true, beq_iff_eq] at hit
  rcases hit with rfl | rfl <;> cases inside

theorem paragraphsFrom_hasNoBreak (current text : List Char) (open_ : hasNoBreak current) :
    ∀ line ∈ paragraphsFrom current text, hasNoBreak line := by
  fun_induction paragraphsFrom current text with
  | case1 current none => simp
  | case2 current some => simpa [hasNoBreak] using open_
  | case3 current rest ih =>
      rintro line (_ | ⟨_, later⟩)
      · simpa [hasNoBreak] using open_
      · exact ih (by simp [hasNoBreak]) line later
  | case4 current c rest single hit ih =>
      rintro line (_ | ⟨_, later⟩)
      · simpa [hasNoBreak] using open_
      · exact ih (by simp [hasNoBreak]) line later
  | case5 current c rest single miss ih =>
      apply ih
      intro d member
      rcases List.mem_cons.mp member with rfl | old
      · exact not_boundary (by simpa using miss)
      · exact open_ d old

theorem paragraphs_hasNoBreak (text : List Char) : ∀ line ∈ paragraphs text, hasNoBreak line :=
  paragraphsFrom_hasNoBreak [] text (by simp [hasNoBreak])

end DexGraft.Text
