import DexGraft.Proofs.Smali.Again
import DexGraft.Proofs.Text.Endings

/-!
The lines of a file that was rewritten: how many they are, whether a break ends the file,
and which lines the replacement gave. A blank line that closes the replacement is lost
where the block was the end of a file without a final break: the file then ends in one.
-/
namespace DexGraft.Smali

open Text Files

namespace Broken

theorem ofText_trailing (text : List Char) : (ofText text).trailing = endsInBreak text := by
  have last := linesFrom_last [] text
  by_cases ended : endsInBreak text = true
  · rw [ofText_closed text (linesFrom_several [] text ended) (last.mpr (Or.inr ended)), ended]
  · rw [ofText_open text]
    · simp [ended]
    · intro several closed
      rcases last.mp closed with ⟨_, rfl⟩ | now
      · simp [Text.lines, linesFrom] at several
      · exact ended now

theorem ofText_lines (broken : Broken) (newline : IsNewline broken.newline)
    (unbroken : ∀ line ∈ broken.lines, hasNoBreak line) (filled : broken.lines ≠ [])
    (last : broken.trailing = false → 1 < broken.lines.length → broken.lines.getLast? ≠ some []) :
    (ofText broken.toText).lines = broken.lines ∧
      (ofText broken.toText).trailing = broken.trailing := by
  by_cases shown : 1 < broken.lines.length ∨ broken.trailing = true ∨ broken.newline = ['\n']
  · rw [ofText_toText broken ⟨newline, unbroken, filled, last, shown⟩]
    exact ⟨rfl, rfl⟩
  · obtain ⟨pieces, given, trailing⟩ := broken
    simp only [not_or, Bool.not_eq_true] at shown filled
    obtain ⟨single, rfl, _⟩ := shown
    obtain ⟨line, rfl⟩ : ∃ line, pieces = [line] := by
      apply List.length_eq_one_iff.mp
      have := List.length_pos_of_ne_nil filled
      omega
    have again := ofText_toText ⟨[line], ['\n'], false⟩
      ⟨Or.inr (Or.inr rfl), unbroken, filled, fun _ more => absurd more single,
        Or.inr (Or.inr rfl)⟩
    rw [show toText ⟨[line], given, false⟩ = toText ⟨[line], ['\n'], false⟩ from rfl, again]
    exact ⟨rfl, rfl⟩

/-- An empty last line that no break follows comes back as a final break. -/
theorem ofText_overhang (init : List Line) (newline : Line) (closing : IsNewline newline)
    (unbroken : ∀ line ∈ init, hasNoBreak line) (filled : init ≠ []) :
    (ofText (toText ⟨init ++ [[]], newline, false⟩)).lines = init ∧
      (ofText (toText ⟨init ++ [[]], newline, false⟩)).trailing = true := by
  have same : toText ⟨init ++ [[]], newline, false⟩ = toText ⟨init, newline, true⟩ := by
    simp [toText, joinWith_append_right newline _ _ filled]
  rw [same]
  exact ofText_lines ⟨init, newline, true⟩ closing unbroken filled (by simp)

end Broken

-- A character that is not blank is in one of the lines, and is left when the line is trimmed.
theorem paragraphs_filled (replacement : String) (filled : isAllBlank replacement = false) :
    ∃ line ∈ paragraphs replacement.toList, trim line ≠ [] := by
  obtain ⟨c, member, word⟩ : ∃ c ∈ replacement.toList, isBlank c = false := by
    simpa [isAllBlank] using filled
  obtain ⟨line, inside, here⟩ := mem_paragraphs _ c member word
  refine ⟨line, inside, ?_⟩
  have kept := trim_ne_nil (String.ofList line)
  rw [String.toList_ofList] at kept
  apply kept
  simp only [isAllBlank, String.toList_ofList, List.all_eq_false]
  exact ⟨c, here, by simp [word]⟩

namespace Block
variable {signature marker : Line}

/-- Nothing comes after the block, no break either, and the replacement closes with a blank line. -/
def Overhangs (block : Block signature marker) (broken : Broken) (replacement : List Char) : Prop :=
  broken.trailing = false ∧ block.after = [] ∧
    (paragraphs replacement).getLast?.map trim = some []

theorem replaced_length (block : Block signature marker) (replacement : List Char) :
    (block.replaced replacement).length + (block.stop - block.start + 1) =
      block.lines.length + (paragraphs replacement).length := by
  simp only [replaced, replacementLines, lines, own, stop, start, List.length_append,
    List.length_map, List.length_cons, List.length_nil]
  omega

theorem after_none (block : Block signature marker) :
    block.after = [] ↔ block.stop + 1 = block.lines.length := by
  have front := block.front_length
  rw [← List.length_eq_zero_iff, lines, List.length_append]
  omega

-- Unless a blank line hangs over the end, every line comes back.
theorem put_lines (block : Block signature marker) (broken : Broken) (replacement : List Char)
    (whole : broken.Whole) (same : block.lines = broken.lines)
    (filled : ∃ line ∈ paragraphs replacement, trim line ≠ [])
    (settled : ¬block.Overhangs broken replacement) :
    (Broken.ofText (block.put broken replacement).toText).lines = block.replaced replacement ∧
      (Broken.ofText (block.put broken replacement).toText).trailing = broken.trailing := by
  obtain ⟨word, inside, spelled⟩ := filled
  refine Broken.ofText_lines (block.put broken replacement) whole.newline
    (block.replaced_unbroken broken replacement whole same) ?nonempty ?last
  case nonempty =>
    apply List.ne_nil_of_mem (a := reindent (indent block.opening) word)
    simp only [put, replaced, List.mem_append]
    exact Or.inl (Or.inr (List.mem_map_of_mem inside))
  case last =>
    intro open_ _ last
    rcases List.eq_nil_or_concat' block.after with none | ⟨rest, final, shape⟩
    · obtain ⟨init, closing, pieces⟩ : ∃ init closing, paragraphs replacement = init ++ [closing] :=
        (List.eq_nil_or_concat' _).resolve_left (List.ne_nil_of_mem inside)
      have empty : reindent (indent block.opening) closing = [] := by
        simpa [put, replaced, replacementLines, none, pieces] using last
      have words := trim_reindent _ closing (indent_blank block.opening)
      rw [empty] at words
      exact settled ⟨open_, none, by simp [pieces, ← words]; rfl⟩
    · apply whole.last open_ (by rw [← same]; exact block.several)
      rw [← same]
      simpa [put, replaced, lines, shape] using last

-- The blank line that hangs over becomes the final break.
theorem put_overhanging (block : Block signature marker) (broken : Broken)
    (replacement : List Char) (whole : broken.Whole) (same : block.lines = broken.lines)
    (filled : ∃ line ∈ paragraphs replacement, trim line ≠ [])
    (hangs : block.Overhangs broken replacement) :
    (Broken.ofText (block.put broken replacement).toText).lines.length + 1 =
        (block.replaced replacement).length ∧
      (Broken.ofText (block.put broken replacement).toText).trailing = true := by
  obtain ⟨open_, none, blank⟩ := hangs
  obtain ⟨word, inside, spelled⟩ := filled
  obtain ⟨init, closing, pieces⟩ : ∃ init closing, paragraphs replacement = init ++ [closing] :=
    (List.eq_nil_or_concat' _).resolve_left (List.ne_nil_of_mem inside)
  have bare : trim closing = [] := by simpa [pieces] using blank
  have among : word ∈ init := by
    rw [pieces, List.mem_append, List.mem_singleton] at inside
    refine inside.resolve_right ?_
    rintro rfl
    exact spelled bare
  have shape : block.replaced replacement =
      (block.before ++ init.map (reindent (indent block.opening))) ++ [[]] := by
    simp [replaced, replacementLines, none, pieces, reindent, bare]
  have unbroken := block.replaced_unbroken broken replacement whole same
  rw [shape] at unbroken
  have text : block.put broken replacement = ⟨(block.before ++
      init.map (reindent (indent block.opening))) ++ [[]], broken.newline, false⟩ := by
    rw [put, shape, open_]
  obtain ⟨back, ended⟩ := Broken.ofText_overhang _ broken.newline whole.newline
    (fun line member => unbroken line (List.mem_append_left _ member))
    (List.ne_nil_of_mem (List.mem_append_right _ (List.mem_map_of_mem among)))
  rw [text, back, ended, shape]
  exact ⟨by simp [Nat.add_assoc], rfl⟩

end Block

theorem replace_put (path : Path) (signature replacement marker : String) (session after : Session)
    (done : (replace Disk.plain path signature replacement marker).perform session =
      (.ok true, after)) :
    ∃ (text : String) (block : Block signature.toList marker.toList),
      session.files.read path = .ok (Bytes.ofText text) ∧
      block.lines = (Broken.ofText text.toList).lines ∧
      FirstBlock (Broken.ofText text.toList).lines signature.toList marker.toList block.start
        block.stop ∧
      after.files.read path = .ok (Bytes.encoded
        (block.put (Broken.ofText text.toList) replacement.toList).toText) := by
  obtain ⟨text, readable, ⟨no, _⟩ | ⟨_, present, room, _⟩⟩ :=
    replace_ok path signature replacement marker true session after done
  · cases no
  obtain ⟨block, same⟩ := Block.of_hasBlock _ present
  obtain ⟨first, ran, _, written, _⟩ := replace_block path signature replacement marker session _
    ⟨text, readable, rfl⟩ room block same
  obtain rfl : first = after := (Prod.mk.inj (ran.symm.trans done)).2
  exact ⟨text, block, readable, same, findBlock_firstBlock _ _ _ _ _ (same ▸ block.find), written⟩

/-- The block reaches the end of a text without a final break, and the replacement closes with a
blank line. -/
def ClosesBlank (text : List Char) (stop : Nat) (replacement : List Char) : Prop :=
  endsInBreak text = false ∧ stop + 1 = (Broken.ofText text).lines.length ∧
    (paragraphs replacement).getLast?.map trim = some []

/-- A rewritten file ends in a break as the old one did, and has as many lines as the replacement
puts in the place of the block. Only a blank line at the very end of a file without a final
break becomes a final break and is no line of its own. -/
theorem replace_tallies (path : Path) (signature replacement marker : String)
    (session after : Session) (filled : isAllBlank replacement = false)
    (done : (replace Disk.plain path signature replacement marker).perform session =
      (.ok true, after)) :
    ∃ (old new : String) (i j : Nat),
      session.files.read path = .ok (Bytes.ofText old) ∧
      after.files.read path = .ok (Bytes.ofText new) ∧
      FirstBlock (Broken.ofText old.toList).lines signature.toList marker.toList i j ∧
      let expected := (Broken.ofText old.toList).lines.length - (j - i + 1) +
        (paragraphs replacement.toList).length
      let count := (Broken.ofText new.toList).lines.length
      (¬ClosesBlank old.toList j replacement.toList →
        endsInBreak new.toList = endsInBreak old.toList ∧ count = expected) ∧
      (ClosesBlank old.toList j replacement.toList →
        endsInBreak new.toList = true ∧ count + 1 = expected) := by
  obtain ⟨text, block, readable, same, found, written⟩ :=
    replace_put path signature replacement marker session after done
  have whole := Broken.whole_ofText text.toList
  have words := paragraphs_filled replacement filled
  have size := block.replaced_length replacement.toList
  have inside := block.front_length
  have hangs : block.Overhangs (Broken.ofText text.toList) replacement.toList ↔
      ClosesBlank text.toList block.stop replacement.toList := by
    rw [Block.Overhangs, ClosesBlank, Broken.ofText_trailing, block.after_none, same]
  have room : block.stop - block.start + 1 ≤ block.lines.length := by
    simp only [Block.lines, List.length_append] at inside ⊢
    omega
  rw [same] at size room
  refine ⟨text, String.ofList (block.put (Broken.ofText text.toList) replacement.toList).toText,
    block.start, block.stop, readable, written, found, ?_⟩
  rw [← hangs, String.toList_ofList, ← Broken.ofText_trailing, ← Broken.ofText_trailing]
  refine ⟨fun settled => ?_, fun overhanging => ?_⟩
  · obtain ⟨back, ended⟩ := block.put_lines _ replacement.toList whole same words settled
    rw [back]
    exact ⟨ended, by omega⟩
  · obtain ⟨back, ended⟩ := block.put_overhanging _ replacement.toList whole same words overhanging
    exact ⟨ended, by omega⟩

theorem FirstBlock.find {lines : List Line} {signature marker : Line} {i j : Nat}
    (block : FirstBlock lines signature marker i j) :
    findBlock lines signature marker = some (i, j) := by
  obtain ⟨parts, rfl, rfl, rfl⟩ := Block.of_firstBlock lines i j block
  exact parts.find

theorem mixed_room : HasRoom mixedSession.files ⟨0, ["a.smali"]⟩ :=
  ⟨⟨0, [".a.smali.tmp"]⟩, [".a.smali.tmp"], by decide, rfl, by decide⟩

theorem mixed_block : FirstBlock (Broken.ofText mixedText.toList).lines " .method a".toList
    endMarker.toList 1 3 :=
  findBlock_firstBlock _ _ _ 1 3 (by decide)

theorem mixed_done (replacement : String) :
    ∃ patched files, patch mixedText.toList " .method a".toList replacement.toList
        endMarker.toList = some patched ∧
      (replace Disk.plain ⟨0, ["a.smali"]⟩ " .method a" replacement endMarker).perform
        mixedSession = (.ok true, { mixedSession with
          files, journal := [.logged .info (replacedMessage "a.smali" patched)] }) ∧
      Stored mixedSession.files files ⟨0, ["a.smali"]⟩ (Bytes.encoded patched.text) :=
  replace_done ⟨0, ["a.smali"]⟩ mixedText " .method a" replacement endMarker mixedSession rfl
    ⟨1, 3, mixed_block.ordered, mixed_block.opens, mixed_block.closes⟩ mixed_room

theorem replace_tallies_mixed :
    isAllBlank ".method a\n\n.end method" = false ∧
      ∃ after new,
        (replace Disk.plain ⟨0, ["a.smali"]⟩ " .method a" ".method a\n\n.end method"
          endMarker).perform mixedSession = (.ok true, after) ∧
        after.files.read ⟨0, ["a.smali"]⟩ = .ok (Bytes.ofText new) ∧
        endsInBreak new.toList = false ∧ (Broken.ofText new.toList).lines.length = 4 := by
  have filled : isAllBlank ".method a\n\n.end method" = false := by decide
  obtain ⟨_, _, _, ran, _⟩ := mixed_done ".method a\n\n.end method"
  obtain ⟨old, new, i, j, readable, written, block, settled, _⟩ :=
    replace_tallies ⟨0, ["a.smali"]⟩ " .method a" ".method a\n\n.end method" endMarker
      mixedSession _ filled ran
  obtain rfl : mixedText = old := Bytes.ofText_inj (Except.ok.inj readable)
  obtain ⟨rfl, rfl⟩ := Prod.mk.inj (Option.some.inj (mixed_block.find.symm.trans block.find))
  obtain ⟨ended, count⟩ := settled (by unfold ClosesBlank; decide)
  exact ⟨filled, _, new, ran, written, ended, count⟩

-- A method at the end of a file without a final break.
def unclosedText : String := " .method a\n .end method"

def unclosedSession : Session :=
  { mixedSession with
    files := ⟨[(["a.smali"], .file (Bytes.ofText unclosedText) newFileMode)], []⟩ }

/-- The blank line that closes the replacement becomes a final break and is missing in the count. -/
theorem blank_line_lost :
    isAllBlank ".method a\n.end method\n " = false ∧
      unclosedSession.files.read ⟨0, ["a.smali"]⟩ = .ok (Bytes.ofText unclosedText) ∧
      FirstBlock (Broken.ofText unclosedText.toList).lines ".method a".toList endMarker.toList 0 1 ∧
      ∃ after new,
        (replace Disk.plain ⟨0, ["a.smali"]⟩ ".method a" ".method a\n.end method\n "
          endMarker).perform unclosedSession = (.ok true, after) ∧
        after.files.read ⟨0, ["a.smali"]⟩ = .ok (Bytes.ofText new) ∧
        endsInBreak unclosedText.toList = false ∧ endsInBreak new.toList = true ∧
        (Broken.ofText new.toList).lines.length ≠
          (Broken.ofText unclosedText.toList).lines.length - (1 - 0 + 1) +
            (paragraphs ".method a\n.end method\n ".toList).length := by
  have block : FirstBlock (Broken.ofText unclosedText.toList).lines ".method a".toList
      endMarker.toList 0 1 := findBlock_firstBlock _ _ _ 0 1 (by decide)
  have room : HasRoom unclosedSession.files ⟨0, ["a.smali"]⟩ :=
    ⟨⟨0, [".a.smali.tmp"]⟩, [".a.smali.tmp"], by decide, rfl, by decide⟩
  obtain ⟨patched, files, found, ran, stored⟩ := replace_done ⟨0, ["a.smali"]⟩ unclosedText
    ".method a" ".method a\n.end method\n " endMarker unclosedSession rfl
    ⟨0, 1, block.ordered, block.opens, block.closes⟩ room
  have text : (patch unclosedText.toList ".method a".toList ".method a\n.end method\n ".toList
      endMarker.toList).map Patched.text = some " .method a\n .end method\n".toList := by decide
  rw [found] at text
  have written := stored_read unclosedSession.files files _ _ _ rfl stored
  rw [Option.some.inj text, Bytes.encoded_toList] at written
  exact ⟨by decide, rfl, block, _, _, ran, written, by decide, by decide, by decide⟩

theorem replacementLines_agree (opening : Line) (replacement : List Char) :
    replacementLines opening replacement =
        (closedLines replacement).map (reindent (indent opening)) ↔
      strays replacement = [] := by
  constructor
  · intro same
    have counts := congrArg List.length same
    rw [replacementLines, List.length_map, List.length_map, paragraphs_length] at counts
    exact List.eq_nil_of_length_eq_zero (by omega)
  · intro none
    -- Nothing of a line but its words goes into the new one.
    have words : reindent (indent opening) =
        (fun words => if words.isEmpty then [] else indent opening ++ words) ∘ trim := rfl
    rw [replacementLines, words, ← List.map_map, ← List.map_map, (paragraphs_agree _).mpr none]

/-- In the place of the old block stand the lines of the replacement, broken at every line boundary.
They are one more for each boundary other than CR and LF that the text goes on behind, and the
lines that CR LF, CR and LF give only where there is no such boundary. -/
theorem replace_inserts (path : Path) (signature replacement marker : String)
    (session after : Session)
    (done : (replace Disk.plain path signature replacement marker).perform session =
      (.ok true, after)) :
    ∃ (text : String) (i j : Nat) (opening : Line),
      session.files.read path = .ok (Bytes.ofText text) ∧
      FirstBlock (Broken.ofText text.toList).lines signature.toList marker.toList i j ∧
      (Broken.ofText text.toList).lines[i]? = some opening ∧
      let broken := Broken.ofText text.toList
      let inserted := replacementLines opening replacement.toList
      let intended := (closedLines replacement.toList).map (reindent (indent opening))
      after.files.read path = .ok (Bytes.encoded ({ broken with
        lines := broken.lines.take i ++ inserted ++ broken.lines.drop (j + 1) } : Broken).toText) ∧
      inserted.length = intended.length + (strays replacement.toList).length ∧
      (inserted = intended ↔ strays replacement.toList = []) := by
  obtain ⟨text, block, readable, same, found, written⟩ :=
    replace_put path signature replacement marker session after done
  refine ⟨text, block.start, block.stop, block.opening, readable, found, ?_, ?_, ?_,
    replacementLines_agree _ _⟩
  · rw [← same, Block.lines_eq]
    simp [Block.start]
  · rw [written, Block.put, ← block.splice, same]
    rfl
  · rw [replacementLines, List.length_map, List.length_map, paragraphs_length]

theorem replace_inserts_mixed :
    ∃ after,
      (replace Disk.plain ⟨0, ["a.smali"]⟩ " .method a" ".method a\r\n\rx\n.end method\u2028"
        endMarker).perform mixedSession = (.ok true, after) ∧
      after.files.read ⟨0, ["a.smali"]⟩ =
        .ok (Bytes.ofText "# é\r\n\t.method a\r\n\r\n\tx\r\n\t.end method") := by
  obtain ⟨_, _, _, ran, _⟩ := mixed_done ".method a\r\n\rx\n.end method\u2028"
  obtain ⟨text, i, j, opening, readable, block, atStart, written, _, agree⟩ :=
    replace_inserts ⟨0, ["a.smali"]⟩ " .method a" ".method a\r\n\rx\n.end method\u2028" endMarker
      mixedSession _ ran
  obtain rfl : mixedText = text := Bytes.ofText_inj (Except.ok.inj readable)
  obtain ⟨rfl, rfl⟩ := Prod.mk.inj (Option.some.inj (mixed_block.find.symm.trans block.find))
  obtain rfl : "\t.method a".toList = opening := Option.some.inj atStart
  rw [agree.mpr (by decide)] at written
  exact ⟨_, ran, written⟩

/-- A literal that holds a line separator is cut in two, though CR LF, CR and LF leave it whole. -/
theorem literal_cut :
    mixedSession.files.read ⟨0, ["a.smali"]⟩ = .ok (Bytes.ofText mixedText) ∧
      FirstBlock (Broken.ofText mixedText.toList).lines " .method a".toList endMarker.toList 1 3 ∧
      (closedLines ".method a\n\"b\u2028c\"\n.end method".toList).map (reindent ['\t']) =
        ["\t.method a".toList, "\t\"b\u2028c\"".toList, "\t.end method".toList] ∧
      ∃ after new,
        (replace Disk.plain ⟨0, ["a.smali"]⟩ " .method a" ".method a\n\"b\u2028c\"\n.end method"
          endMarker).perform mixedSession = (.ok true, after) ∧
        after.files.read ⟨0, ["a.smali"]⟩ = .ok (Bytes.ofText new) ∧
        (Broken.ofText new.toList).lines = ["# é".toList, "\t.method a".toList, "\t\"b".toList,
          "\tc\"".toList, "\t.end method".toList] := by
  obtain ⟨patched, files, found, ran, stored⟩ := mixed_done ".method a\n\"b\u2028c\"\n.end method"
  have text : (patch mixedText.toList " .method a".toList
      ".method a\n\"b\u2028c\"\n.end method".toList endMarker.toList).map Patched.text =
        some "# é\r\n\t.method a\r\n\t\"b\r\n\tc\"\r\n\t.end method".toList := by decide
  rw [found] at text
  have written := stored_read mixedSession.files files _ _ _ rfl stored
  rw [Option.some.inj text, Bytes.encoded_toList] at written
  exact ⟨rfl, mixed_block, by decide, _, _, ran, written, by decide⟩

end DexGraft.Smali
