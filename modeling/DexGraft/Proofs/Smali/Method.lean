import DexGraft.Proofs.Text.Lines

/-!
What a patch does to a text. A text by its lines, written out again, is the text
with its first break throughout; the block that is found is the first one there
is; and the patched text differs from the old one in that block alone.
-/
namespace DexGraft.Smali

open Text

namespace Broken

theorem ofText_newline (text : List Char) :
    (ofText text).newline = (breaks text).head?.getD ['\n'] := by
  simp only [ofText]
  split <;> simp [firstBreak_eq_head]

-- A final break is kept as a flag, so writing the lines out restores it.
theorem toText_ofText (text : List Char) :
    (ofText text).toText = withBreaks (ofText text).newline text := by
  rw [← join_lines]
  simp only [ofText]
  split
  case isFalse => simp [toText]
  case isTrue final =>
      simp only [Bool.and_eq_true, decide_eq_true_eq, beq_iff_eq] at final
      obtain ⟨several, last⟩ := final
      have filled : Text.lines text ≠ [] := List.ne_nil_of_length_pos (by omega)
      have others : (Text.lines text).dropLast ≠ [] := by
        apply List.ne_nil_of_length_pos
        rw [List.length_dropLast]
        omega
      have parts : (Text.lines text).dropLast ++ [[]] = Text.lines text := by
        rw [List.getLastD_eq_getLast?, List.getLast?_eq_some_getLast filled] at last
        rw [show ([] : Line) = (Text.lines text).getLast filled from last.symm]
        exact List.dropLast_concat_getLast filled
      generalize (firstBreak text).getD ['\n'] = newline
      calc joinWith newline (Text.lines text).dropLast ++ newline
          = joinWith newline ((Text.lines text).dropLast ++ [[]]) := by
            simp [joinWith_append_right newline _ _ others]
        _ = joinWith newline (Text.lines text) := by rw [parts]

theorem ofText_hasNoBreak (text : List Char) : ∀ line ∈ (ofText text).lines, hasNoBreak line := by
  have whole := lines_hasNoBreak text
  simp only [ofText]
  split
  · exact fun line member => whole line (List.dropLast_subset _ member)
  · exact whole

end Broken

/-- `broken` is the text by its lines: they hold no break, and written out with the text's first
break they give the text with that break throughout. -/
structure Broken.Of (broken : Broken) (text : List Char) : Prop where
  newline : broken.newline = (breaks text).head?.getD ['\n']
  unbroken : ∀ line ∈ broken.lines, hasNoBreak line
  whole : broken.toText = withBreaks broken.newline text

theorem Broken.of_ofText (text : List Char) : (ofText text).Of text :=
  ⟨ofText_newline text, ofText_hasNoBreak text, toText_ofText text⟩

/-- Somewhere a line spells the signature and a later one the marker, blanks around them aside. -/
def HasBlock (lines : List Line) (signature marker : Line) : Prop :=
  ∃ i j : Nat, i < j ∧ lines[i]?.map trim = some (trim signature) ∧ lines[j]?.map trim = some marker

/-- From the first line that spells the signature to the next one that spells the marker. -/
structure FirstBlock (lines : List Line) (signature marker : Line) (i j : Nat) : Prop where
  ordered : i < j
  opens : lines[i]?.map trim = some (trim signature)
  closes : lines[j]?.map trim = some marker
  first : ∀ k < i, lines[k]?.map trim ≠ some (trim signature)
  next : ∀ k, i < k → k < j → lines[k]?.map trim ≠ some marker

theorem findIdx_spells (lines : List Line) (words : Line) (i : Nat) :
    lines.findIdx? (spellsTrimmed words) = some i ↔
      lines[i]?.map trim = some words ∧ ∀ k < i, lines[k]?.map trim ≠ some words := by
  rw [List.findIdx?_eq_some_iff_getElem]
  constructor
  · rintro ⟨inside, hit, before⟩
    refine ⟨by simpa [inside, spellsTrimmed] using hit, fun k earlier => ?_⟩
    simpa [spellsTrimmed, show k < lines.length by omega] using before k earlier
  · rintro ⟨hit, before⟩
    have inside : i < lines.length := by
      by_contra outside
      simp [List.getElem?_eq_none (Nat.le_of_not_lt outside)] at hit
    refine ⟨inside, by simpa [inside, spellsTrimmed] using hit, fun k earlier => ?_⟩
    simpa [spellsTrimmed, show k < lines.length by omega] using before k earlier

theorem findIdx_spells_none (lines : List Line) (words : Line) :
    lines.findIdx? (spellsTrimmed words) = none ↔ ∀ k : Nat, lines[k]?.map trim ≠ some words := by
  rw [List.findIdx?_eq_none_iff]
  constructor
  · intro nowhere k hit
    obtain ⟨line, found, spelled⟩ := Option.map_eq_some_iff.mp hit
    simpa [spellsTrimmed, spelled] using nowhere line (List.mem_of_getElem? found)
  · intro nowhere line member
    obtain ⟨k, found⟩ := List.getElem?_of_mem member
    simpa [spellsTrimmed, found] using nowhere k

theorem findBlock_firstBlock (lines : List Line) (signature marker : Line) (i j : Nat)
    (found : findBlock lines signature marker = some (i, j)) :
    FirstBlock lines signature marker i j := by
  simp only [findBlock, Option.bind_eq_bind, Option.bind_eq_some_iff, Option.pure_def,
    Option.some.injEq, Prod.mk.injEq] at found
  obtain ⟨start, opened, size, closed, rfl, rfl⟩ := found
  obtain ⟨opens, first⟩ := (findIdx_spells lines _ start).mp opened
  obtain ⟨closes, next⟩ := (findIdx_spells _ marker size).mp closed
  refine ⟨by omega, opens, by simpa [List.getElem?_drop] using closes, first, ?_⟩
  intro k after before
  have inside := next (k - (start + 1)) (by omega)
  rwa [List.getElem?_drop, show start + 1 + (k - (start + 1)) = k by omega] at inside

-- A block anywhere means that the first signature line has a marker behind it.
theorem findBlock_eq_none_iff (lines : List Line) (signature marker : Line) :
    findBlock lines signature marker = none ↔ ¬HasBlock lines signature marker := by
  constructor
  · rintro missing ⟨i, j, ordered, opens, closes⟩
    simp only [findBlock, Option.bind_eq_bind, Option.bind_eq_none_iff] at missing
    cases opened : lines.findIdx? (spellsTrimmed (trim signature)) with
    | none => exact (findIdx_spells_none lines _).mp opened i opens
    | some start =>
        have early : start ≤ i := by
          by_contra late
          exact ((findIdx_spells lines _ start).mp opened).2 i (by omega) opens
        cases closed : (lines.drop (start + 1)).findIdx? (spellsTrimmed marker) with
        | none =>
            apply (findIdx_spells_none _ marker).mp closed (j - (start + 1))
            rwa [List.getElem?_drop, show start + 1 + (j - (start + 1)) = j by omega]
        | some size => cases missing start opened size closed
  · intro nowhere
    cases found : findBlock lines signature marker with
    | none => rfl
    | some block =>
        have block := findBlock_firstBlock lines signature marker block.1 block.2 found
        exact absurd ⟨_, _, block.ordered, block.opens, block.closes⟩ nowhere

theorem patch_eq_none_iff (text signature replacement marker : List Char) :
    patch text signature replacement marker = none ↔
      ¬HasBlock (Broken.ofText text).lines signature marker := by
  rw [← findBlock_eq_none_iff]
  cases found : findBlock (Broken.ofText text).lines signature marker with
  | none => simp [patch, found]
  | some block =>
      obtain ⟨start, stop⟩ := block
      have opens := (findBlock_firstBlock _ signature marker start stop found).opens
      obtain ⟨opening, atStart, _⟩ := Option.map_eq_some_iff.mp opens
      simp [patch, found, atStart]

-- Lines cut in three write out as three texts, as long as the middle has a line.
theorem toText_parts (broken : Broken) (before block after : List Line) (filled : block ≠ [])
    (parts : broken.lines = before ++ block ++ after) :
    broken.toText = ended broken.newline before ++ joinWith broken.newline block ++
      (after.flatMap (broken.newline ++ ·) ++ if broken.trailing then broken.newline else []) := by
  rw [Broken.toText, parts, joinWith_append_right _ _ _ (by simp [filled]),
    joinWith_append_left _ _ _ filled]
  simp only [List.append_assoc]

theorem cut_block (lines : List Line) (i j : Nat) (ordered : i ≤ j) :
    lines = lines.take i ++ (lines.take (j + 1)).drop i ++ lines.drop (j + 1) := by
  have front : lines.take i ++ (lines.take (j + 1)).drop i = lines.take (j + 1) := by
    conv_rhs => rw [← List.take_append_drop i (lines.take (j + 1)), List.take_take,
      Nat.min_eq_left (by omega)]
  rw [front, List.take_append_drop]

def insertedLines (opening : Line) (replacement : List Char) : List Line :=
  (paragraphs replacement).map fun line =>
    if trim line = [] then [] else indent opening ++ trim line

theorem replacementLines_eq (opening : Line) (replacement : List Char) :
    replacementLines opening replacement = insertedLines opening replacement := by
  apply List.map_congr_left
  intro line _
  simp only [reindent, List.isEmpty_iff]

structure Cut (broken : Broken) (i j : Nat) (text before block after : List Char) : Prop where
  above : before = ended broken.newline (broken.lines.take i)
  lines : block = joinWith broken.newline ((broken.lines.take (j + 1)).drop i)
  whole : text = before ++ block ++ after

theorem patch_cut (text signature replacement marker : List Char) (patched : Patched)
    (filled : paragraphs replacement ≠ [])
    (done : patch text signature replacement marker = some patched) :
    FirstBlock (Broken.ofText text).lines signature marker patched.first patched.last ∧
      ∃ opening before block after, (Broken.ofText text).lines[patched.first]? = some opening ∧
        Cut (Broken.ofText text) patched.first patched.last
          (withBreaks (Broken.ofText text).newline text) before block after ∧
        patched.text = before ++
          joinWith (Broken.ofText text).newline (insertedLines opening replacement) ++ after := by
  rw [← Broken.toText_ofText]
  simp only [patch, Option.bind_eq_bind, Option.bind_eq_some_iff, Option.pure_def,
    Option.some.injEq] at done
  obtain ⟨⟨start, stop⟩, found, opening, atStart, rfl⟩ := done
  have block := findBlock_firstBlock _ signature marker start stop found
  have ordered := Nat.le_of_lt block.ordered
  have inside := (List.getElem?_eq_some_iff.mp atStart).1
  refine ⟨block, opening, _, _, _, atStart,
    ⟨rfl, rfl, toText_parts _ _ _ _ ?old (cut_block _ start stop ordered)⟩,
    toText_parts _ _ _ _ ?new ?spliced⟩
  case old =>
    apply List.ne_nil_of_length_pos
    simp only [List.length_drop, List.length_take]
    omega
  case new => simpa [insertedLines] using filled
  case spliced => rw [← replacementLines_eq]; rfl

end DexGraft.Smali
