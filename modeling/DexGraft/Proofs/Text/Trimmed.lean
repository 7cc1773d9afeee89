import DexGraft.Proofs.Text.Lines
import Mathlib.Data.List.DropRight
import Mathlib.Data.List.TakeWhile

/-!
Trimmed lines. Trimming twice is trimming once, blanks put in front of a line do
not count, and in front of trimmed words they are again the line's indentation.
-/
namespace DexGraft.Text

theorem indent_blank (line : List Char) : ∀ c ∈ indent line, isBlank c = true :=
  fun _ member => List.mem_takeWhile_imp member

theorem trim_indented (blanks line : List Char) (blank : ∀ c ∈ blanks, isBlank c = true) :
    trim (blanks ++ line) = trim line := by
  rw [trim, trimStart, List.dropWhile_append_of_pos blank]
  rfl

theorem mem_of_mem_trim (line : List Char) (c : Char) (member : c ∈ trim line) : c ∈ line := by
  have inner : c ∈ trimStart line := (List.rdropWhile_prefix isBlank _).subset member
  exact (List.dropWhile_suffix isBlank).subset inner

-- What is left of a line opens with a character that is not blank.
theorem trim_opens (line : List Char) (c : Char) (rest : List Char)
    (parts : trim line = c :: rest) : isBlank c = false := by
  obtain ⟨cut, whole⟩ : trim line <+: trimStart line := List.rdropWhile_prefix isBlank _
  rw [parts, List.cons_append] at whole
  have kept : trimStart (trimStart line) = trimStart line := List.dropWhile_idempotent isBlank line
  rw [← whole] at kept
  by_contra blank
  rw [trimStart, List.dropWhile_cons_of_pos (by simpa using blank)] at kept
  have shorter := (List.dropWhile_suffix (l := rest ++ cut) isBlank).length_le
  rw [kept, List.length_cons] at shorter
  omega

theorem trimStart_trim (line : List Char) : trimStart (trim line) = trim line := by
  cases parts : trim line with
  | nil => rfl
  | cons c rest => exact List.dropWhile_cons_of_neg (by simp [trim_opens line c rest parts])

theorem trim_trim (line : List Char) : trim (trim line) = trim line := by
  rw [trim, trimStart_trim]
  exact List.rdropWhile_idempotent isBlank (trimStart line)

theorem indent_indented (blanks line : List Char) (blank : ∀ c ∈ blanks, isBlank c = true)
    (filled : trim line ≠ []) : indent (blanks ++ trim line) = blanks := by
  obtain ⟨c, rest, parts⟩ := List.exists_cons_of_ne_nil filled
  rw [indent, List.takeWhile_append_of_pos blank, parts,
    List.takeWhile_cons_of_neg (by simp [trim_opens line c rest parts]), List.append_nil]

-- Words are left of a text that is not all blank.
theorem trim_ne_nil (text : String) (filled : isAllBlank text = false) :
    trim text.toList ≠ [] := by
  intro empty
  have beyond : ∀ c ∈ trimStart text.toList, isBlank c = true := List.rdropWhile_eq_nil_iff.mp empty
  have blank : isAllBlank text = true := by
    rw [isAllBlank, List.all_eq_true, ← indent_append_trimStart text.toList]
    intro c member
    rcases List.mem_append.mp member with opening | later
    · exact indent_blank _ c opening
    · exact beyond c later
  rw [blank] at filled
  cases filled

end DexGraft.Text
