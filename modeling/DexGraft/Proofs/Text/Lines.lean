import DexGraft.Smali.Method
import Mathlib.Tactic.Common

/-!
What breaking a text into lines keeps of it. `withBreaks` writes one and the same
break for every break of a text, and the lines of a text, joined with that break,
give just this. The lines themselves hold no break.
-/
namespace DexGraft.Text

def breaks : List Char → List (List Char)
  | [] => []
  | '\r' :: '\n' :: rest => ['\r', '\n'] :: breaks rest
  | c :: rest => if isBreak c then [c] :: breaks rest else breaks rest

def withBreaks (newline : List Char) : List Char → List Char
  | [] => []
  | '\r' :: '\n' :: rest => newline ++ withBreaks newline rest
  | c :: rest =>
      if isBreak c then newline ++ withBreaks newline rest else c :: withBreaks newline rest

def ended (separator : List Char) (pieces : List (List Char)) : List Char :=
  pieces.flatMap (· ++ separator)

theorem joinWith_cons (separator first : List Char) (rest : List (List Char)) :
    joinWith separator (first :: rest) = first ++ rest.flatMap (separator ++ ·) := by
  induction rest generalizing first with
  | nil => simp [joinWith]
  | cons second rest ih => simp [joinWith, ih]

-- A join falls apart in front of any piece, and behind any piece.
theorem joinWith_append_left (separator : List Char) (before pieces : List (List Char))
    (filled : pieces ≠ []) :
    joinWith separator (before ++ pieces) =
      ended separator before ++ joinWith separator pieces := by
  induction before with
  | nil => rfl
  | cons first rest ih =>
      obtain ⟨second, others, shape⟩ := List.exists_cons_of_ne_nil
        (show rest ++ pieces ≠ [] by simp [filled])
      rw [List.cons_append, shape, joinWith, ← shape, ih]
      simp [ended]

theorem joinWith_append_right (separator : List Char) (pieces after : List (List Char))
    (filled : pieces ≠ []) :
    joinWith separator (pieces ++ after) =
      joinWith separator pieces ++ after.flatMap (separator ++ ·) := by
  obtain ⟨first, rest, rfl⟩ := List.exists_cons_of_ne_nil filled
  simp [joinWith_cons]

theorem linesFrom_ne_nil (current text : List Char) : linesFrom current text ≠ [] := by
  fun_induction linesFrom current text <;> simp_all

theorem joinWith_first (separator first : List Char) (rest : List (List Char))
    (filled : rest ≠ []) :
    joinWith separator (first :: rest) = first ++ separator ++ joinWith separator rest := by
  have split := joinWith_append_left separator [first] rest filled
  simpa [ended] using split

-- The open line stands in front of everything that is still to be broken.
theorem join_linesFrom (newline current text : List Char) :
    joinWith newline (linesFrom current text) = current.reverse ++ withBreaks newline text := by
  fun_induction linesFrom current text with
  | case1 current => simp [joinWith, withBreaks]
  | case2 current rest ih =>
      rw [joinWith_first _ _ _ (linesFrom_ne_nil _ _), ih]
      simp [withBreaks]
  | case3 current c rest single hit ih =>
      rw [joinWith_first _ _ _ (linesFrom_ne_nil _ _), ih]
      simp [withBreaks, hit]
  | case4 current c rest single miss ih =>
      rw [ih]
      simp [withBreaks, miss]

theorem join_lines (newline text : List Char) :
    joinWith newline (lines text) = withBreaks newline text := by
  simp [lines, join_linesFrom]

def hasNoBreak (line : List Char) : Prop :=
  ∀ c ∈ line, isBreak c = false

theorem linesFrom_hasNoBreak (current text : List Char) (open_ : hasNoBreak current) :
    ∀ line ∈ linesFrom current text, hasNoBreak line := by
  fun_induction linesFrom current text with
  | case1 current => simpa [hasNoBreak] using open_
  | case2 current rest ih =>
      rintro line (_ | ⟨_, later⟩)
      · simpa [hasNoBreak] using open_
      · exact ih (by simp [hasNoBreak]) line later
  | case3 current c rest single hit ih =>
      rintro line (_ | ⟨_, later⟩)
      · simpa [hasNoBreak] using open_
      · exact ih (by simp [hasNoBreak]) line later
  | case4 current c rest single miss ih =>
      apply ih
      intro d member
      rcases List.mem_cons.mp member with rfl | old
      · simpa using miss
      · exact open_ d old

theorem lines_hasNoBreak (text : List Char) : ∀ line ∈ lines text, hasNoBreak line :=
  linesFrom_hasNoBreak [] text (by simp [hasNoBreak])

theorem firstBreak_eq_head (text : List Char) : firstBreak text = (breaks text).head? := by
  fun_induction firstBreak text with
  | case1 => rfl
  | case2 rest => simp [breaks]
  | case3 c rest single hit => simp [breaks, hit]
  | case4 c rest single miss ih => simp [breaks, miss, ih]

-- A text with breaks of one kind only is its own form with that break throughout.
theorem withBreaks_self (newline text : List Char)
    (alike : ∀ found ∈ breaks text, found = newline) :
    withBreaks newline text = text := by
  fun_induction withBreaks newline text with
  | case1 => rfl
  | case2 rest ih =>
      simp only [breaks, List.mem_cons, forall_eq_or_imp] at alike
      rw [ih alike.2, ← alike.1]
      rfl
  | case3 c rest single hit ih =>
      simp only [breaks, hit, if_true, List.mem_cons, forall_eq_or_imp] at alike
      rw [ih alike.2, ← alike.1]
      rfl
  | case4 c rest single miss ih =>
      simp only [breaks, miss] at alike
      rw [ih alike]

end DexGraft.Text
