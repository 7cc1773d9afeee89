import Mathlib.Data.List.Forall2

/-!
Lists that go together row by row.
-/
namespace DexGraft.Rows

variable {Left Right : Type} {relation : Left → Right → Prop} {lefts : List Left}
  {rights : List Right}

theorem swapped (rows : List.Forall₂ relation lefts rights) :
    List.Forall₂ (fun right left => relation left right) rights lefts :=
  List.Forall₂.flip (R := fun right left => relation left right) rows

theorem with_members (rows : List.Forall₂ relation lefts rights) :
    List.Forall₂ (fun left right => left ∈ lefts ∧ right ∈ rights ∧ relation left right)
      lefts rights := by
  induction rows with
  | nil => exact List.Forall₂.nil
  | cons first _ ih =>
      refine List.Forall₂.cons ⟨List.mem_cons_self, List.mem_cons_self, first⟩ ?_
      refine ih.imp ?_
      rintro left right ⟨onLeft, onRight, holds⟩
      exact ⟨List.mem_cons_of_mem _ onLeft, List.mem_cons_of_mem _ onRight, holds⟩

theorem some_left (rows : List.Forall₂ relation lefts rights) (right : Right)
    (member : right ∈ rights) : ∃ left ∈ lefts, relation left right := by
  induction rows with
  | nil => cases member
  | cons first _ ih =>
      rcases List.mem_cons.mp member with rfl | later
      · exact ⟨_, List.mem_cons_self, first⟩
      · obtain ⟨left, onLeft, holds⟩ := ih later
        exact ⟨left, List.mem_cons_of_mem _ onLeft, holds⟩

theorem zipped {Third : Type} (other : Third → Left → Right → Prop) (view : Left → Third)
    (rows : List.Forall₂ relation lefts rights)
    (all : ∀ left ∈ lefts, ∀ right, relation left right → other (view left) left right) :
    List.Forall₂ (fun third (row : Left × Right) => other third row.1 row.2) (lefts.map view)
      (lefts.zip rights) := by
  induction rows with
  | nil => exact List.Forall₂.nil
  | cons first _ ih =>
      refine List.Forall₂.cons (all _ List.mem_cons_self _ first) (ih ?_)
      exact fun left member => all left (List.mem_cons_of_mem _ member)

theorem numbered (rows : List.Forall₂ relation lefts rights) (start : Nat) :
    List.Forall₂ (fun (left : Left × Nat) right => relation left.1 right) (lefts.zipIdx start)
      rights := by
  induction rows generalizing start with
  | nil => exact List.Forall₂.nil
  | cons first _ ih => exact List.Forall₂.cons first (ih (start + 1))

theorem around (left : Left) (index : Nat) (member : (left, index) ∈ lefts.zipIdx) :
    ∃ front back, lefts = front ++ left :: back ∧ front.length = index := by
  obtain ⟨inside, rfl⟩ := List.getElem?_eq_some_iff.mp (List.mk_mem_zipIdx_iff_getElem?.mp member)
  refine ⟨lefts.take index, lefts.drop (index + 1), ?_, List.length_take_of_le (Nat.le_of_lt inside)⟩
  rw [← List.drop_eq_getElem_cons inside, List.take_append_drop]

theorem partners {Third : Type} {other : Left → Third → Prop} {thirds : List Third}
    (rows : List.Forall₂ relation lefts rights) (others : List.Forall₂ other lefts thirds) :
    List.Forall₂ (fun right third => ∃ left ∈ lefts, relation left right ∧ other left third)
      rights thirds := by
  induction rows generalizing thirds with
  | nil =>
      cases others
      exact List.Forall₂.nil
  | cons first _ ih =>
      cases others with
      | cons second others =>
          refine List.Forall₂.cons ⟨_, List.mem_cons_self, first, second⟩ ((ih others).imp ?_)
          rintro right third ⟨left, onLeft, both⟩
          exact ⟨left, List.mem_cons_of_mem _ onLeft, both⟩

theorem split {mores : List Left} (rows : List.Forall₂ relation (lefts ++ mores) rights) :
    ∃ front back, rights = front ++ back ∧ List.Forall₂ relation lefts front ∧
      List.Forall₂ relation mores back := by
  induction lefts generalizing rights with
  | nil => exact ⟨[], rights, rfl, List.Forall₂.nil, rows⟩
  | cons left lefts ih =>
      cases rows with
      | cons first others =>
          obtain ⟨front, back, rfl, one, two⟩ := ih others
          exact ⟨_ :: front, back, rfl, List.Forall₂.cons first one, two⟩

theorem found {onLeft : Left → Bool} (onRight : Right → Bool)
    (rows : List.Forall₂ relation lefts rights)
    (same : ∀ left right, relation left right → onLeft left = onRight right) (left : Left)
    (first : lefts.find? onLeft = some left) :
    ∃ right, rights.find? onRight = some right ∧ relation left right := by
  induction rows with
  | nil => cases first
  | @cons head partner _ _ holds _ ih =>
      rw [List.find?_cons] at first ⊢
      rw [← same _ _ holds]
      cases hit : onLeft head with
      | true =>
          rw [hit] at first
          cases first
          exact ⟨partner, rfl, holds⟩
      | false =>
          rw [hit] at first
          exact ih first

theorem lined_up (all : ∀ left ∈ lefts, ∃ right, relation left right) :
    ∃ rights, List.Forall₂ relation lefts rights := by
  induction lefts with
  | nil => exact ⟨[], List.Forall₂.nil⟩
  | cons left lefts ih =>
      obtain ⟨right, holds⟩ := all left List.mem_cons_self
      obtain ⟨rights, rows⟩ := ih fun other member => all other (List.mem_cons_of_mem _ member)
      exact ⟨right :: rights, List.Forall₂.cons holds rows⟩

theorem picked {other : Left → Right → Prop} (pick : Left → Bool) (more : List Right)
    (rows : List.Forall₂ relation lefts rights)
    (same : ∀ left right, pick left = true → relation left right → other left right) :
    List.SublistForall₂ other (lefts.filter pick) (rights ++ more) := by
  induction rows with
  | nil => exact List.SublistForall₂.nil
  | @cons left right _ _ first _ ih =>
      by_cases hit : pick left = true
      · rw [List.filter_cons_of_pos hit]
        exact List.SublistForall₂.cons (same left right hit first) ih
      · rw [List.filter_cons_of_neg hit]
        exact List.SublistForall₂.cons_right ih

end DexGraft.Rows
