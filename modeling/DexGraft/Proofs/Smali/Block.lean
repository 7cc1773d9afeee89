import DexGraft.Proofs.Smali.Method
import DexGraft.Proofs.Text.Joined
import DexGraft.Proofs.Text.Trimmed

/-!
A patched text under a further patch. Lines that are written out come back line by
line. A block that was put in is found where it was put, and putting it in again
changes nothing; a block of another method is found where it stood before.
-/
namespace DexGraft.Smali

open Text

namespace Broken

-- An empty last line of several is a final break.
theorem ofText_closed (text : List Char) (several : 1 < (Text.lines text).length)
    (last : (Text.lines text).getLast? = some []) :
    ofText text = ⟨(Text.lines text).dropLast, (firstBreak text).getD ['\n'], true⟩ := by
  simp [ofText, several, List.getLastD_eq_getLast?, last]

theorem ofText_open (text : List Char)
    (last : 1 < (Text.lines text).length → (Text.lines text).getLast? ≠ some []) :
    ofText text = ⟨Text.lines text, (firstBreak text).getD ['\n'], false⟩ := by
  have filled : Text.lines text ≠ [] := linesFrom_ne_nil [] text
  have ending := List.getLast?_eq_some_getLast filled
  rw [ending] at last
  simp only [ofText, List.getLastD_eq_getLast?, ending]
  rw [if_neg]
  simpa using last

/-- Lines that are told apart again once they are written out: the last of several is not empty
unless a break follows it, and a single line without a break takes line feeds. -/
structure Whole (broken : Broken) : Prop where
  newline : IsNewline broken.newline
  unbroken : ∀ line ∈ broken.lines, hasNoBreak line
  filled : broken.lines ≠ []
  last : broken.trailing = false → 1 < broken.lines.length → broken.lines.getLast? ≠ some []
  shown : 1 < broken.lines.length ∨ broken.trailing = true ∨ broken.newline = ['\n']

theorem whole_ofText (text : List Char) : (ofText text).Whole := by
  have newline : IsNewline (ofText text).newline := by
    rw [ofText_newline]
    cases found : breaks text with
    | nil => exact Or.inr (Or.inr rfl)
    | cons first rest => exact breaks_newline text first (by simp [found])
  have unbroken := ofText_hasNoBreak text
  have count := lines_length text
  by_cases several : 1 < (Text.lines text).length
  · by_cases last : (Text.lines text).getLast? = some []
    · rw [ofText_closed text several last] at newline unbroken ⊢
      have filled : (Text.lines text).dropLast ≠ [] := by
        apply List.ne_nil_of_length_pos
        rw [List.length_dropLast]
        omega
      exact ⟨newline, unbroken, filled, by simp, Or.inr (Or.inl rfl)⟩
    · rw [ofText_open text fun _ => last] at newline unbroken ⊢
      exact ⟨newline, unbroken, linesFrom_ne_nil [] text, fun _ _ => last, Or.inl several⟩
  · rw [ofText_open text fun more => absurd more several] at newline unbroken ⊢
    have none : breaks text = [] := List.eq_nil_of_length_eq_zero (by omega)
    have feed : (firstBreak text).getD ['\n'] = ['\n'] := by simp [firstBreak_eq_head, none]
    exact ⟨newline, unbroken, linesFrom_ne_nil [] text, fun _ more => absurd more several,
      Or.inr (Or.inr feed)⟩

theorem ofText_toText (broken : Broken) (whole : broken.Whole) : ofText broken.toText = broken := by
  obtain ⟨pieces, newline, trailing⟩ := broken
  obtain ⟨closing, unbroken, filled, last, shown⟩ := whole
  simp only at closing unbroken filled last shown
  cases trailing with
  | true =>
      -- The final break is one more join, with an empty line behind it.
      have text : toText ⟨pieces, newline, true⟩ = joinWith newline (pieces ++ [[]]) := by
        simp [toText, joinWith_append_right newline _ _ filled]
      have open_ : ∀ piece ∈ pieces ++ [[]], hasNoBreak piece := by
        intro piece member
        rcases List.mem_append.mp member with old | new
        · exact unbroken piece old
        · simp [List.mem_singleton.mp new, hasNoBreak]
      have several : 1 < (pieces ++ [[]]).length := by
        have := List.length_pos_of_ne_nil filled
        rw [List.length_append, List.length_singleton]
        omega
      have cut := lines_joinWith newline _ closing open_ (by simp)
      rw [text, ofText_closed _ (by rwa [cut]) (by simp [cut]), cut,
        firstBreak_joinWith _ _ closing open_ several]
      simp
  | false =>
      have text : toText ⟨pieces, newline, false⟩ = joinWith newline pieces := by simp [toText]
      have cut := lines_joinWith newline _ closing unbroken filled
      rw [text, ofText_open _ (by rw [cut]; exact last rfl), cut]
      by_cases several : 1 < pieces.length
      · rw [firstBreak_joinWith _ _ closing unbroken several]
        rfl
      · obtain ⟨line, rfl⟩ : ∃ line, pieces = [line] := by
          apply List.length_eq_one_iff.mp
          have := List.length_pos_of_ne_nil filled
          omega
        have none := firstBreak_line line [] (unbroken line List.mem_cons_self)
        rw [List.append_nil] at none
        have feed : newline = ['\n'] := by simpa using shown
        simp [joinWith, none, firstBreak, feed]

end Broken

theorem findIdx_first (before after : List Line) (line words : Line) (hit : trim line = words)
    (miss : ∀ other ∈ before, trim other ≠ words) :
    (before ++ line :: after).findIdx? (spellsTrimmed words) = some before.length := by
  rw [findIdx_spells]
  constructor
  · simp [hit]
  · intro k earlier
    rw [List.getElem?_append_left earlier, List.getElem?_eq_getElem earlier]
    simpa using miss _ (List.getElem_mem earlier)

/-- Lines in parts around the first block of a method: a line that spells the signature, the next
one that spells the marker, and what is before, between and after them. -/
structure Block (signature marker : Line) where
  before : List Line
  opening : Line
  inner : List Line
  closing : Line
  after : List Line
  opens : trim opening = trim signature
  closes : trim closing = marker
  first : ∀ line ∈ before, trim line ≠ trim signature
  next : ∀ line ∈ inner, trim line ≠ marker

namespace Block
variable {signature marker : Line}

def own (block : Block signature marker) : List Line :=
  block.opening :: block.inner ++ [block.closing]

def lines (block : Block signature marker) : List Line :=
  block.before ++ block.own ++ block.after

def start (block : Block signature marker) : Nat :=
  block.before.length

def stop (block : Block signature marker) : Nat :=
  block.start + 1 + block.inner.length

def replaced (block : Block signature marker) (replacement : List Char) : List Line :=
  block.before ++ replacementLines block.opening replacement ++ block.after

theorem lines_eq (block : Block signature marker) :
    block.lines =
      block.before ++ block.opening :: (block.inner ++ block.closing :: block.after) := by
  simp [lines, own]

theorem front_length (block : Block signature marker) :
    (block.before ++ block.own).length = block.stop + 1 := by
  simp only [own, stop, start, List.length_append, List.length_cons, List.length_nil]
  omega

theorem find (block : Block signature marker) :
    findBlock block.lines signature marker = some (block.start, block.stop) := by
  have opened : block.lines.findIdx? (spellsTrimmed (trim signature)) = some block.start := by
    rw [lines_eq]
    exact findIdx_first _ _ _ _ block.opens block.first
  have rest : block.lines.drop (block.start + 1) =
      block.inner ++ block.closing :: block.after := by
    simp [lines_eq, start]
  have closed : (block.lines.drop (block.start + 1)).findIdx? (spellsTrimmed marker) =
      some block.inner.length := by
    rw [rest]
    exact findIdx_first _ _ _ _ block.closes block.next
  simp [findBlock, opened, closed, stop]

theorem splice (block : Block signature marker) (replacement : List Char) :
    spliceBlock block.lines block.opening block.start block.stop replacement =
      block.replaced replacement := by
  have front : block.lines.take block.start = block.before := by
    rw [lines, List.append_assoc, start, List.take_left]
  have back : block.lines.drop (block.stop + 1) = block.after := by
    rw [lines, ← front_length, List.drop_left]
  rw [spliceBlock, front, back, replaced]

theorem patch_text (text replacement : List Char) (block : Block signature marker)
    (whole : block.lines = (Broken.ofText text).lines) :
    (patch text signature replacement marker).map Patched.text =
      some ({ Broken.ofText text with lines := block.replaced replacement } : Broken).toText := by
  have opening : block.lines[block.start]? = some block.opening := by
    simp [lines_eq, start]
  simp only [patch, ← whole, block.find, Option.bind_eq_bind, Option.bind_some, opening,
    block.splice]
  rfl

theorem of_firstBlock (lines : List Line) (i j : Nat)
    (found : FirstBlock lines signature marker i j) :
    ∃ block : Block signature marker, block.lines = lines ∧ block.start = i ∧ block.stop = j := by
  obtain ⟨opening, atStart, opens⟩ := Option.map_eq_some_iff.mp found.opens
  obtain ⟨closing, atStop, closes⟩ := Option.map_eq_some_iff.mp found.closes
  obtain ⟨startInside, opened⟩ := List.getElem?_eq_some_iff.mp atStart
  obtain ⟨stopInside, closed⟩ := List.getElem?_eq_some_iff.mp atStop
  have ordered := found.ordered
  have tail : lines.drop j = closing :: lines.drop (j + 1) := by
    rw [← closed]
    exact (List.getElem_cons_drop stopInside).symm
  have inner : lines.drop (i + 1) =
      (lines.drop (i + 1)).take (j - (i + 1)) ++ closing :: lines.drop (j + 1) := by
    conv_lhs => rw [← List.take_append_drop (j - (i + 1)) (lines.drop (i + 1)), List.drop_drop,
      show i + 1 + (j - (i + 1)) = j by omega, tail]
  have whole : lines = lines.take i ++ opening ::
      ((lines.drop (i + 1)).take (j - (i + 1)) ++ closing :: lines.drop (j + 1)) := by
    rw [← inner, ← opened, List.getElem_cons_drop startInside, List.take_append_drop]
  let block : Block signature marker := {
    before := lines.take i
    opening, closing
    inner := (lines.drop (i + 1)).take (j - (i + 1))
    after := lines.drop (j + 1)
    opens, closes
    first := by
      intro line member
      obtain ⟨k, inside, rfl⟩ := List.mem_take_iff_getElem.mp member
      have miss := found.first k (by omega)
      rw [List.getElem?_eq_getElem (by omega)] at miss
      simpa using miss
    next := by
      intro line member
      obtain ⟨k, inside, rfl⟩ := List.mem_take_iff_getElem.mp member
      have miss := found.next (i + 1 + k) (by omega) (by omega)
      rw [List.getElem?_eq_getElem (by simp at inside; omega)] at miss
      simpa using miss }
  refine ⟨block, ?_, ?_, ?_⟩
  · rw [lines_eq]
    exact whole.symm
  · simp only [start, block, List.length_take]
    omega
  · simp only [stop, start, block, List.length_take, List.length_drop]
    omega

theorem of_hasBlock (lines : List Line) (present : HasBlock lines signature marker) :
    ∃ block : Block signature marker, block.lines = lines := by
  cases found : findBlock lines signature marker with
  | none => exact absurd present ((findBlock_eq_none_iff lines signature marker).mp found)
  | some places =>
      obtain ⟨block, whole, _⟩ :=
        of_firstBlock lines _ _ (findBlock_firstBlock lines signature marker _ _ found)
      exact ⟨block, whole⟩

end Block

theorem trim_reindent (indentation line : Line) (blank : ∀ c ∈ indentation, isBlank c = true) :
    trim (reindent indentation line) = trim line := by
  rw [reindent]
  by_cases empty : trim line = []
  · rw [if_pos (by simpa using empty), empty]
    rfl
  · rw [if_neg (by simpa using empty), trim_indented _ _ blank, trim_trim]

theorem indent_reindent (indentation line : Line) (blank : ∀ c ∈ indentation, isBlank c = true)
    (filled : trim line ≠ []) : indent (reindent indentation line) = indentation := by
  rw [reindent, if_neg (by simpa using filled)]
  exact indent_indented indentation line blank filled

theorem reindent_hasNoBreak (opening line : Line) (above : hasNoBreak opening)
    (own : hasNoBreak line) : hasNoBreak (reindent (indent opening) line) := by
  intro c member
  rw [reindent] at member
  split at member
  · cases member
  · rcases List.mem_append.mp member with blank | word
    · exact above c ((List.takeWhile_prefix isBlank).subset blank)
    · exact own c (mem_of_mem_trim line c word)

/-- A replacement that opens with the signature's line and closes with its only marker line. -/
structure Framed (signature marker : Line) (replacement : List Char) : Prop where
  opens : (paragraphs replacement).head?.map trim = some (trim signature)
  closes : (paragraphs replacement).getLast?.map trim = some marker
  next : ∀ line ∈ (paragraphs replacement).dropLast, trim line ≠ marker

theorem Framed.parts {signature marker : Line} {replacement : List Char}
    (framed : Framed signature marker replacement) (distinct : trim signature ≠ marker) :
    ∃ first inner last, paragraphs replacement = first :: inner ++ [last] ∧
      trim first = trim signature ∧ trim last = marker ∧ ∀ line ∈ inner, trim line ≠ marker := by
  obtain ⟨opens, closes, next⟩ := framed
  cases pieces : paragraphs replacement with
  | nil => simp [pieces] at opens
  | cons first rest =>
      simp only [pieces, List.head?_cons, Option.map_some, Option.some.injEq] at opens closes next
      rcases List.eq_nil_or_concat' rest with rfl | ⟨inner, last, rfl⟩
      · -- A single line would spell both.
        exact absurd (opens.symm.trans (by simpa using closes)) distinct
      · rw [← List.cons_append, List.getLast?_concat, Option.map_some, Option.some.injEq] at closes
        rw [← List.cons_append, List.dropLast_concat] at next
        exact ⟨first, inner, last, rfl, opens, closes, fun line member =>
          next line (List.mem_cons_of_mem _ member)⟩

namespace Block
variable {signature marker : Line}

theorem several (block : Block signature marker) : 1 < block.lines.length := by
  simp only [lines, own, List.length_append, List.length_cons, List.length_nil]
  omega

theorem own_member (block : Block signature marker) : block.opening ∈ block.lines := by
  simp [lines_eq]

/-- A replacement that is in place is found in place, and put in again it changes nothing. -/
theorem renewed (block : Block signature marker) (replacement : List Char)
    (filled : trim signature ≠ []) (distinct : trim signature ≠ marker)
    (framed : Framed signature marker replacement) :
    ∃ again : Block signature marker, again.lines = block.replaced replacement ∧
      again.replaced replacement = block.replaced replacement := by
  obtain ⟨first, inner, last, parts, opens, closes, next⟩ := framed.parts distinct
  have blank := indent_blank block.opening
  let again : Block signature marker := {
    before := block.before
    opening := reindent (indent block.opening) first
    inner := inner.map (reindent (indent block.opening))
    closing := reindent (indent block.opening) last
    after := block.after
    opens := by rw [trim_reindent _ _ blank, opens]
    closes := by rw [trim_reindent _ _ blank, closes]
    first := block.first
    next := by
      intro line member
      obtain ⟨source, old, rfl⟩ := List.mem_map.mp member
      rw [trim_reindent _ _ blank]
      exact next source old }
  refine ⟨again, ?_, ?_⟩
  · simp [again, lines, own, replaced, replacementLines, parts]
  · have same : indent again.opening = indent block.opening :=
      indent_reindent _ first blank (by rwa [opens])
    simp only [replaced, replacementLines, same]
    rfl

def put (block : Block signature marker) (broken : Broken) (replacement : List Char) : Broken :=
  { broken with lines := block.replaced replacement }

theorem replaced_unbroken (block : Block signature marker) (broken : Broken)
    (replacement : List Char) (whole : broken.Whole) (same : block.lines = broken.lines) :
    ∀ line ∈ block.replaced replacement, hasNoBreak line := by
  have old : ∀ line ∈ block.lines, hasNoBreak line := same ▸ whole.unbroken
  intro line member
  simp only [replaced, List.mem_append, or_assoc] at member
  rcases member with front | new | back
  · exact old line (by simp [lines, front])
  · obtain ⟨source, inside, rfl⟩ := List.mem_map.mp new
    exact reindent_hasNoBreak _ _ (old _ block.own_member) (paragraphs_hasNoBreak _ _ inside)
  · exact old line (by simp [lines, back])

-- The last line is an old one or closes the replacement, so it does not get lost.
theorem whole_put {other : Line} (broken : Broken) (whole : broken.Whole)
    (block : Block signature marker) (replacement : List Char)
    (same : block.lines = broken.lines) (marked : marker ≠ [])
    (framed : Framed signature marker replacement) (later : Block other marker)
    (found : later.lines = block.replaced replacement) : (block.put broken replacement).Whole := by
  have several : 1 < (block.replaced replacement).length := found ▸ later.several
  constructor
  case newline => exact whole.newline
  case filled => exact List.ne_nil_of_length_pos (by show 0 < _; simp only [put]; omega)
  case shown => exact Or.inl several
  case unbroken => exact block.replaced_unbroken broken replacement whole same
  case last =>
    intro open_ _ last
    rcases List.eq_nil_or_concat' block.after with none | ⟨rest, final, shape⟩
    · obtain ⟨source, closing, spelled⟩ := Option.map_eq_some_iff.mp framed.closes
      have new : (block.replaced replacement).getLast? =
          some (reindent (indent block.opening) source) := by
        simp [replaced, replacementLines, none, closing]
      have empty : reindent (indent block.opening) source = [] :=
        Option.some.inj (new.symm.trans last)
      have words := trim_reindent _ source (indent_blank block.opening)
      rw [empty, spelled] at words
      exact marked words.symm
    · apply whole.last open_ (by rw [← same]; exact block.several)
      rw [← same]
      simpa [put, replaced, lines, shape] using last

/-- Of two blocks in the same lines the later one is found behind the earlier one's replacement,
the earlier one in front of the later one's, and both replaced are the same lines. -/
theorem both_replaced {other : Line} (earlier : Block signature marker) (later : Block other marker)
    (same : earlier.lines = later.lines) (apart : earlier.stop < later.start)
    (first second : List Char)
    (silent : ∀ line ∈ paragraphs first, trim line ≠ trim other) :
    ∃ (behind : Block other marker) (ahead : Block signature marker),
      behind.lines = earlier.replaced first ∧ ahead.lines = later.replaced second ∧
        behind.replaced second = ahead.replaced first := by
  -- What is between the two blocks is before the later and after the earlier one.
  obtain ⟨gap, front, back⟩ : ∃ gap, later.before = earlier.before ++ earlier.own ++ gap ∧
      earlier.after = gap ++ (later.own ++ later.after) := by
    have whole : earlier.before ++ earlier.own ++ earlier.after =
        later.before ++ (later.own ++ later.after) := by
      rw [← List.append_assoc]
      exact same
    have size := earlier.front_length
    rcases List.append_eq_append_iff.mp whole with ⟨gap, front, back⟩ | ⟨past, front, back⟩
    · exact ⟨gap, front, back⟩
    · obtain rfl : past = [] := by
        apply List.eq_nil_of_length_eq_zero
        rw [front, List.length_append] at size
        simp only [start] at apart
        omega
      exact ⟨[], by rw [front]; simp, by rw [back]; rfl⟩
  let behind : Block other marker := {
    later with
    before := earlier.before ++ replacementLines earlier.opening first ++ gap
    first := by
      intro line member
      simp only [List.mem_append, or_assoc] at member
      rcases member with above | new | between
      · exact later.first line (by simp [front, above])
      · obtain ⟨source, inside, rfl⟩ := List.mem_map.mp new
        rw [trim_reindent _ _ (indent_blank _)]
        exact silent source inside
      · exact later.first line (by simp [front, between]) }
  let ahead : Block signature marker := {
    earlier with after := gap ++ replacementLines later.opening second ++ later.after }
  refine ⟨behind, ahead, ?_, ?_, ?_⟩
  · simp [behind, lines, own, replaced, back]
  · simp [ahead, lines, own, replaced, front]
  · simp [behind, ahead, replaced]

end Block

end DexGraft.Smali
