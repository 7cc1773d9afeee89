import DexGraft.Text.Split
import Mathlib.Data.List.Infix

/-!
Text cut off at its ends, and cut at every occurrence of a character. Pieces without that
character that were put together with it come out again.
-/
namespace DexGraft.Text

theorem dropStart_eq_some (start text rest : List Char) :
    dropStart? start text = some rest ↔ text = start ++ rest := by
  unfold dropStart?
  constructor
  · intro found
    split at found
    · rename_i there
      obtain ⟨tail, rfl⟩ := List.isPrefixOf_iff_prefix.mp there
      rw [List.drop_left' rfl] at found
      injection found with same
      rw [same]
    · cases found
  · rintro rfl
    rw [if_pos (List.isPrefixOf_iff_prefix.mpr (List.prefix_append _ _)), List.drop_left' rfl]

theorem dropEnd_eq_some (ending text body : List Char) :
    dropEnd? ending text = some body ↔ text = body ++ ending := by
  unfold dropEnd?
  constructor
  · intro found
    split at found
    · rename_i there
      obtain ⟨front, rfl⟩ := List.isSuffixOf_iff_suffix.mp there
      rw [List.length_append, Nat.add_sub_cancel, List.take_left' rfl] at found
      injection found with same
      rw [same]
    · cases found
  · rintro rfl
    rw [if_pos (List.isSuffixOf_iff_suffix.mpr (List.suffix_append _ _)), List.length_append,
      Nat.add_sub_cancel, List.take_left' rfl]

theorem whole_of_all (mark : Char) (text : List Char) (all : text.all (· != mark) = true) :
    ∀ c ∈ text, c ≠ mark := by
  intro c member
  exact bne_iff_ne.mp (List.all_eq_true.mp all c member)

theorem splitAt_whole (mark : Char) (text : List Char) (whole : ∀ c ∈ text, c ≠ mark) :
    splitAt mark text = [text] := by
  induction text with
  | nil => rfl
  | cons c rest ih =>
      have here : (c == mark) = false := by simpa using whole c List.mem_cons_self
      rw [splitAt, here, ih fun d member => whole d (List.mem_cons_of_mem _ member)]
      rfl

theorem splitAt_pieces (mark : Char) (text : List Char) :
    ∀ piece ∈ splitAt mark text, ∀ c ∈ piece, c ≠ mark := by
  induction text with
  | nil => simp [splitAt]
  | cons c rest ih =>
      rw [splitAt]
      by_cases here : (c == mark) = true
      · rw [if_pos here]
        intro piece member
        rcases List.mem_cons.mp member with rfl | member
        · simp
        · exact ih piece member
      · rw [if_neg here]
        cases cut : splitAt mark rest with
        | nil => exact absurd cut (splitAt_ne_nil mark rest)
        | cons first others =>
            rw [cut] at ih
            intro piece member
            rcases List.mem_cons.mp member with rfl | member
            · intro d inside
              rcases List.mem_cons.mp inside with rfl | inside
              · simpa using here
              · exact ih first List.mem_cons_self d inside
            · exact ih piece (List.mem_cons_of_mem _ member)

theorem splitAt_append (mark : Char) (piece rest : List Char) (whole : ∀ c ∈ piece, c ≠ mark) :
    splitAt mark (piece ++ mark :: rest) = piece :: splitAt mark rest := by
  induction piece with
  | nil => simp [splitAt]
  | cons c piece ih =>
      obtain ⟨here, later⟩ := List.forall_mem_cons.mp whole
      rw [List.cons_append, splitAt, if_neg (by simpa using here), ih later]

theorem splitAt_intercalate (mark : Char) (pieces : List (List Char)) (some : pieces ≠ [])
    (whole : ∀ piece ∈ pieces, ∀ c ∈ piece, c ≠ mark) :
    splitAt mark ([mark].intercalate pieces) = pieces := by
  induction pieces with
  | nil => exact absurd rfl some
  | cons first rest ih =>
      obtain ⟨here, later⟩ := List.forall_mem_cons.mp whole
      cases rest with
      | nil => rw [List.intercalate_singleton, splitAt_whole mark first here]
      | cons second others =>
          rw [List.intercalate_cons_cons, List.append_assoc, List.singleton_append,
            splitAt_append mark first _ here, ih (by simp) later]

theorem splitAt_ending (mark : Char) (front back : List Char) (whole : ∀ c ∈ back, c ≠ mark) :
    ∃ before last, splitAt mark (front ++ back) = before ++ [last ++ back] := by
  induction front with
  | nil => exact ⟨[], [], splitAt_whole mark back whole⟩
  | cons c rest ih =>
      obtain ⟨before, last, cut⟩ := ih
      rw [List.cons_append, splitAt]
      by_cases here : (c == mark) = true
      · exact ⟨[] :: before, last, by rw [if_pos here, cut]; rfl⟩
      · rw [if_neg here, cut]
        cases before with
        | nil => exact ⟨[], c :: last, rfl⟩
        | cons first others => exact ⟨(c :: first) :: others, last, rfl⟩

end DexGraft.Text
