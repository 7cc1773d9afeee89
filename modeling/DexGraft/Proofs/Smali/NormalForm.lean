import DexGraft.Proofs.Smali.Block

/-!
The normal form of a text: its lines with the first break of the text between them. No break
is lost, made or moved on the way: a text has one parting into lines and breaks, and the normal
form is the text with the first of these breaks for each of them.
-/
namespace DexGraft.Text

/-- A text by its lines and by the breaks between them. A break is as long as can be: no line feed
follows where the break is a lone carriage return. -/
inductive Parted : List Char → List (List Char) → List (List Char) → Prop
  | last {line : List Char} (unbroken : hasNoBreak line) : Parted line [line] []
  | next {line newline rest : List Char} {pieces found : List (List Char)}
      (unbroken : hasNoBreak line) (closing : IsNewline newline) (apart : Apart newline rest)
      (more : Parted rest pieces found) :
      Parted (line ++ newline ++ rest) (line :: pieces) (newline :: found)

theorem breaks_line (line rest : List Char) (unbroken : hasNoBreak line) :
    breaks (line ++ rest) = breaks rest := by
  induction line with
  | nil => rfl
  | cons c line ih =>
      have plain : isBreak c = false := unbroken c List.mem_cons_self
      rw [List.cons_append, breaks, if_neg (by simp [plain])]
      · apply ih
        intro d member
        exact unbroken d (List.mem_cons_of_mem _ member)
      · intro more first _
        exact (not_break plain).1 first

theorem breaks_newline_append (newline rest : List Char) (closing : IsNewline newline)
    (apart : Apart newline rest) : breaks (newline ++ rest) = newline :: breaks rest := by
  rcases closing with rfl | rfl | rfl
  · rfl
  · rw [List.singleton_append, breaks]
    · rfl
    · rintro more _ rfl
      exact apart rfl rfl
  · rw [List.singleton_append, breaks]
    · rfl
    · intro more first _
      cases first

-- The open line is the first piece of what is still to be parted.
theorem parted_linesFrom (current text : List Char) (open_ : hasNoBreak current) :
    Parted (current.reverse ++ text) (linesFrom current text) (breaks text) := by
  have closed : hasNoBreak current.reverse := by
    intro c member
    exact open_ c (List.mem_reverse.mp member)
  fun_induction linesFrom current text with
  | case1 current =>
      rw [List.append_nil]
      exact Parted.last closed
  | case2 current rest ih =>
      have later := ih (by simp [hasNoBreak]) (by simp [hasNoBreak])
      have parted := Parted.next closed (Or.inl rfl) (by simp [Apart]) later
      simpa [breaks] using parted
  | case3 current c rest single hit ih =>
      have later := ih (by simp [hasNoBreak]) (by simp [hasNoBreak])
      have closing : IsNewline [c] := breaks_newline [c] [c] (by simp [breaks, hit])
      have apart : Apart [c] rest := by
        intro lone feed
        obtain ⟨more, rfl⟩ := List.head?_eq_some_iff.mp feed
        exact single more (List.cons.inj lone).1 rfl
      have parted := Parted.next closed closing apart later
      simpa [breaks, hit] using parted
  | case4 current c rest single miss ih =>
      have plain : isBreak c = false := by simpa using miss
      have opened : hasNoBreak (c :: current) := by
        intro d member
        rcases List.mem_cons.mp member with rfl | old
        · exact plain
        · exact open_ d old
      have parted := ih opened fun d member => opened d (List.mem_reverse.mp member)
      simpa [breaks, plain] using parted

theorem parted_lines (text : List Char) : Parted text (lines text) (breaks text) := by
  simpa [lines] using parted_linesFrom [] text (by simp [hasNoBreak])

theorem Parted.unique {text : List Char} {pieces found : List (List Char)}
    (parted : Parted text pieces found) : pieces = lines text ∧ found = breaks text := by
  induction parted with
  | @last line unbroken =>
      have pieces := linesFrom_line [] line [] unbroken
      have found := breaks_line line [] unbroken
      rw [List.append_nil] at pieces found
      constructor
      · simp [lines, pieces, linesFrom]
      · rw [found, breaks]
  | @next line newline rest pieces found unbroken closing apart more ih =>
      obtain ⟨samePieces, sameFound⟩ := ih
      constructor
      · rw [samePieces, lines, lines, List.append_assoc, linesFrom_line _ _ _ unbroken,
          linesFrom_newline _ _ _ closing apart]
        simp
      · rw [sameFound, List.append_assoc, breaks_line _ _ unbroken,
          breaks_newline_append _ _ closing apart]

end DexGraft.Text

namespace DexGraft.Smali

open Text

theorem Broken.ofText_pieces (text : List Char) :
    (ofText text).lines ++ (if (ofText text).trailing then [[]] else []) = Text.lines text := by
  by_cases closed : 1 < (Text.lines text).length ∧ (Text.lines text).getLast? = some []
  · obtain ⟨several, last⟩ := closed
    rw [ofText_closed text several last]
    exact List.dropLast_append_getLast? [] last
  · rw [not_and] at closed
    rw [ofText_open text closed]
    exact List.append_nil _

/-- Breaking a text gives lines without breaks, and nothing of the text is lost but which break
stood where. Joined again, the lines are the text with its first break for every one of its breaks;
they are broken just as before, and where the breaks of the text are all alike, they give back the
text itself. -/
theorem Broken.ofText_faithful (text : List Char) :
    let broken := Broken.ofText text
    (∀ line ∈ broken.lines, '\r' ∉ line ∧ '\n' ∉ line) ∧
      (∃ pieces found, Parted text pieces found) ∧
      (∀ pieces found, Parted text pieces found →
        broken.newline = found.head?.getD ['\n'] ∧
        broken.lines ++ (if broken.trailing then [[]] else []) = pieces ∧
        broken.toText = joinWith broken.newline pieces ∧
        ((∀ one ∈ found, ∀ other ∈ found, one = other) → broken.toText = text)) ∧
      Broken.ofText broken.toText = broken := by
  intro broken
  refine ⟨?unbroken, ⟨_, _, parted_lines text⟩, ?whole, ofText_toText _ (whole_ofText text)⟩
  case unbroken =>
    intro line member
    have none := ofText_hasNoBreak text line member
    constructor
    · intro inside
      exact absurd (none _ inside) (by decide)
    · intro inside
      exact absurd (none _ inside) (by decide)
  case whole =>
    intro pieces found parted
    obtain ⟨rfl, rfl⟩ := parted.unique
    have whole : broken.toText = withBreaks broken.newline text := toText_ofText text
    have newline : broken.newline = (breaks text).head?.getD ['\n'] := ofText_newline text
    refine ⟨newline, ofText_pieces text, ?_, ?_⟩
    · rw [whole, join_lines]
    · intro alike
      rw [whole]
      apply withBreaks_self
      intro one member
      -- Some break is the first, and this one is like it.
      obtain ⟨first, rest, shape⟩ := List.exists_cons_of_ne_nil (List.ne_nil_of_mem member)
      rw [newline, shape]
      exact alike one member first (shape ▸ List.mem_cons_self)

theorem Broken.ofText_faithful_mixed :
    (∃ pieces, Parted "a\r\r\n\nb\r".toList pieces [['\r'], ['\r', '\n'], ['\n'], ['\r']] ∧
      (ofText "a\r\r\n\nb\r".toList).toText = "a\r\r\rb\r".toList) ∧
      Parted "a\r\rb\r".toList ["a".toList, [], "b".toList, []] [['\r'], ['\r'], ['\r']] ∧
      (ofText "a\r\rb\r".toList).toText = "a\r\rb\r".toList := by
  have mixed := parted_lines "a\r\r\n\nb\r".toList
  have alike := parted_lines "a\r\rb\r".toList
  obtain ⟨_, _, first, _⟩ := ofText_faithful "a\r\r\n\nb\r".toList
  obtain ⟨_, _, second, _⟩ := ofText_faithful "a\r\rb\r".toList
  refine ⟨⟨_, mixed, (first _ _ mixed).2.2.1⟩, alike, (second _ _ alike).2.2.2 ?_⟩
  decide

end DexGraft.Smali
