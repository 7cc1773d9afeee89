import DexGraft.Proofs.Smali.Block
import DexGraft.Proofs.Smali.Rewrite

/-!
A file that is rewritten more than once. After a rewrite there is room for the next
one, and the next one reads the lines that the last one wrote: the same rewrite
again changes nothing, and rewrites of two methods may come in either order.
-/
namespace DexGraft.Smali

open Text Files

-- Neither the file nor what was under its temporary place is a directory of the way there.
theorem stored_room (before after : Files) (path : Path) (old content : Bytes)
    (readable : before.read path = .ok old) (room : HasRoom before path)
    (stored : Stored before after path content) : HasRoom after path := by
  obtain ⟨place, mode, reached, present⟩ := (read_eq_ok ..).mp readable
  obtain ⟨temporary, beside, made, found, open_⟩ := room
  obtain ⟨same, spot, made', found', swapped⟩ := stored.swapped place reached
  obtain rfl : temporary = same := Option.some.inj (made.symm.trans made')
  obtain rfl : beside = spot := Except.ok.inj (found.symm.trans found')
  have kept : ∀ other, before.node? other = some .directory → ¬beside <+: other →
      after.node? other = some .directory := by
    intro other there free
    have elsewhere : other ≠ place := by
      rintro rfl
      simp [present] at there
    rw [swapped.rest other elsewhere free, there]
  obtain ⟨_, leads⟩ := both_reached before after path temporary place beside made reached found
    open_ swapped.here kept
  exact ⟨temporary, beside, made, leads, by simp [swapped.gone beside (List.prefix_refl _)]⟩

def Holds (files : Files) (path : Path) (broken : Broken) : Prop :=
  ∃ text : String, files.read path = .ok (Bytes.ofText text) ∧ Broken.ofText text.toList = broken

theorem holds_written (files : Files) (path : Path) (broken : Broken) (whole : broken.Whole)
    (written : files.read path = .ok (Bytes.encoded broken.toText)) : Holds files path broken := by
  refine ⟨String.ofList broken.toText, written, ?_⟩
  rw [String.toList_ofList]
  exact Broken.ofText_toText broken whole

theorem holds_whole (files : Files) (path : Path) (broken : Broken)
    (holds : Holds files path broken) : broken.Whole := by
  obtain ⟨text, _, rfl⟩ := holds
  exact Broken.whole_ofText text.toList

theorem replace_block (path : Path) (signature replacement marker : String) (session : Session)
    (broken : Broken) (holds : Holds session.files path broken) (room : HasRoom session.files path)
    (block : Block signature.toList marker.toList) (same : block.lines = broken.lines) :
    ∃ after, (replace Disk.plain path signature replacement marker).perform session =
        (.ok true, after) ∧
      Stored session.files after.files path
        (Bytes.encoded (block.put broken replacement.toList).toText) ∧
      after.files.read path =
        .ok (Bytes.encoded (block.put broken replacement.toList).toText) ∧
      HasRoom after.files path := by
  obtain ⟨text, readable, rfl⟩ := holds
  have present : HasBlock (Broken.ofText text.toList).lines signature.toList marker.toList := by
    have block := findBlock_firstBlock _ _ _ _ _ (same ▸ block.find)
    exact ⟨_, _, block.ordered, block.opens, block.closes⟩
  obtain ⟨patched, files, found, ran, stored⟩ :=
    replace_done path text signature replacement marker session readable present room
  have rewritten :
      patched.text = (block.put (Broken.ofText text.toList) replacement.toList).toText := by
    have texts := block.patch_text text.toList replacement.toList same
    rw [found] at texts
    exact Option.some.inj texts
  rw [← rewritten]
  exact ⟨_, ran, stored, stored_read session.files files path _ _ readable stored,
    stored_room _ _ path _ _ readable room stored⟩

/-- A content in which the rewrite finds what it would put there. -/
def Done (signature replacement marker : String) (content : Bytes) : Prop :=
  ∃ (broken : Broken) (block : Block signature.toList marker.toList), broken.Whole ∧
    content = Bytes.encoded broken.toText ∧ block.lines = broken.lines ∧
    block.put broken replacement.toList = broken

theorem replace_leaves_done (path : Path) (signature replacement marker : String)
    (session after : Session) (filled : isAllBlank signature = false)
    (distinct : trim signature.toList ≠ marker.toList) (marked : marker ≠ "")
    (framed : Framed signature.toList marker.toList replacement.toList)
    (done : (replace Disk.plain path signature replacement marker).perform session =
      (.ok true, after)) :
    ∃ content, after.files.read path = .ok content ∧ HasRoom after.files path ∧
      Done signature replacement marker content := by
  obtain ⟨text, readable, ⟨no, _⟩ | ⟨_, present, room, _⟩⟩ :=
    replace_ok path signature replacement marker true session after done
  · cases no
  have holds : Holds session.files path (Broken.ofText text.toList) := ⟨text, readable, rfl⟩
  have whole := Broken.whole_ofText text.toList
  obtain ⟨block, same⟩ := Block.of_hasBlock _ present
  obtain ⟨first, ran, _, written, room⟩ :=
    replace_block path signature replacement marker session _ holds room block same
  obtain rfl : first = after := (Prod.mk.inj (ran.symm.trans done)).2
  have spelled : marker.toList ≠ [] := by simpa using marked
  obtain ⟨later, found, renewed⟩ :=
    block.renewed replacement.toList (trim_ne_nil signature filled) distinct framed
  refine ⟨_, written, room, _, later,
    block.whole_put _ whole replacement.toList same spelled framed later found, rfl, found, ?_⟩
  rw [Block.put, renewed]
  rfl

theorem Done.replaced {signature replacement marker : String} {content : Bytes}
    (done : Done signature replacement marker content) (path : Path) (session : Session)
    (readable : session.files.read path = .ok content) (room : HasRoom session.files path) :
    ∃ again, (replace Disk.plain path signature replacement marker).perform session =
        (.ok true, again) ∧ Stored session.files again.files path content := by
  obtain ⟨broken, block, whole, rfl, found, same⟩ := done
  obtain ⟨again, ran, stored, _, _⟩ := replace_block path signature replacement marker session broken
    (holds_written session.files path broken whole readable) room block found
  rw [same] at stored
  exact ⟨again, ran, stored⟩

/-- A rewrite that was done, done once more, finds its own replacement and leaves every byte. -/
theorem replace_again (path : Path) (signature replacement marker : String)
    (session after : Session) (filled : isAllBlank signature = false)
    (distinct : trim signature.toList ≠ marker.toList) (marked : marker ≠ "")
    (framed : Framed signature.toList marker.toList replacement.toList)
    (done : (replace Disk.plain path signature replacement marker).perform session =
      (.ok true, after)) :
    ∃ content again, after.files.read path = .ok content ∧
      (replace Disk.plain path signature replacement marker).perform after = (.ok true, again) ∧
      again.files.read path = .ok content := by
  obtain ⟨content, written, room, settled⟩ := replace_leaves_done path signature replacement marker
    session after filled distinct marked framed done
  obtain ⟨again, ran, stored⟩ := settled.replaced path after written room
  exact ⟨content, again, written, ran,
    stored_read after.files again.files path content content written stored⟩

-- A file like the mixed one, with a second method and the same signature once more.
def repeatedText : String :=
  "# é\r\n\t.method a\r  nop\n .end method \n.method b\n.end method\n.method a\r\n"

def repeatedSession : Session where
  files := ⟨[(["a.smali"], .file (Bytes.ofText repeatedText) newFileMode)], []⟩
  journal := []
  clock := Zip.Stamp.earliest
  environment := []
  temporary := ⟨1, ["tmp"]⟩

theorem repeated_room : HasRoom repeatedSession.files ⟨0, ["a.smali"]⟩ :=
  ⟨⟨0, [".a.smali.tmp"]⟩, [".a.smali.tmp"], by decide, rfl, by decide⟩

theorem replace_again_repeated :
    ∃ after content again,
      (replace Disk.plain ⟨0, ["a.smali"]⟩ " .method a" ".method a\n\n  return\n.end method"
        endMarker).perform repeatedSession = (.ok true, after) ∧
      after.files.read ⟨0, ["a.smali"]⟩ = .ok content ∧
      (replace Disk.plain ⟨0, ["a.smali"]⟩ " .method a" ".method a\n\n  return\n.end method"
        endMarker).perform after = (.ok true, again) ∧
      again.files.read ⟨0, ["a.smali"]⟩ = .ok content := by
  have framed : Framed " .method a".toList endMarker.toList
      ".method a\n\n  return\n.end method".toList := ⟨by decide, by decide, by decide⟩
  have present : HasBlock (Broken.ofText repeatedText.toList).lines " .method a".toList
      endMarker.toList := ⟨1, 3, by decide, by decide, by decide⟩
  obtain ⟨_, _, _, ran, _⟩ := replace_done ⟨0, ["a.smali"]⟩ repeatedText " .method a"
    ".method a\n\n  return\n.end method" endMarker repeatedSession rfl present repeated_room
  obtain ⟨content, again, rest⟩ := replace_again ⟨0, ["a.smali"]⟩ " .method a"
    ".method a\n\n  return\n.end method" endMarker repeatedSession _ (by decide) (by decide)
    (by decide) framed ran
  exact ⟨_, content, again, ran, rest⟩

/-- Rewrites of two blocks of which one is above the other, the upper one first and last. -/
theorem replace_both (path : Path) (signature other first second marker : String)
    (session : Session) (broken : Broken) (holds : Holds session.files path broken)
    (room : HasRoom session.files path) (upper : Block signature.toList marker.toList)
    (lower : Block other.toList marker.toList) (above : upper.lines = broken.lines)
    (below : lower.lines = broken.lines) (apart : upper.stop < lower.start) (marked : marker ≠ "")
    (framed : Framed signature.toList marker.toList first.toList)
    (framedOther : Framed other.toList marker.toList second.toList)
    (silent : ∀ line ∈ paragraphs first.toList, trim line ≠ trim other.toList) :
    ∃ upperFirst lowerFirst upperLast lowerLast content,
      (replace Disk.plain path signature first marker).perform session = (.ok true, upperFirst) ∧
      (replace Disk.plain path other second marker).perform upperFirst = (.ok true, lowerLast) ∧
      (replace Disk.plain path other second marker).perform session = (.ok true, lowerFirst) ∧
      (replace Disk.plain path signature first marker).perform lowerFirst = (.ok true, upperLast) ∧
      lowerLast.files.read path = .ok content ∧ upperLast.files.read path = .ok content := by
  have whole := holds_whole session.files path broken holds
  have spelled : marker.toList ≠ [] := by simpa using marked
  obtain ⟨behind, ahead, lowered, raised, both⟩ :=
    upper.both_replaced lower (above.trans below.symm) apart first.toList second.toList silent
  obtain ⟨upperFirst, ran, _, written, room₁⟩ :=
    replace_block path signature first marker session broken holds room upper above
  obtain ⟨lowerFirst, ran', _, written', room₂⟩ :=
    replace_block path other second marker session broken holds room lower below
  obtain ⟨lowerLast, then_, _, left, _⟩ :=
    replace_block path other second marker upperFirst _ (holds_written _ path _
      (upper.whole_put broken whole first.toList above spelled framed behind lowered) written)
      room₁ behind lowered
  obtain ⟨upperLast, then', _, left', _⟩ :=
    replace_block path signature first marker lowerFirst _ (holds_written _ path _
      (lower.whole_put broken whole second.toList below spelled framedOther ahead raised) written')
      room₂ ahead raised
  refine ⟨upperFirst, lowerFirst, upperLast, lowerLast, _, ran, then_, ran', then', left, ?_⟩
  rw [left', Block.put, ← both]
  rfl

/-- Rewrites of two methods whose blocks are apart may come in either order. -/
theorem replaces_commute (path : Path) (text signature other first second marker : String)
    (session : Session) (i j k l : Nat)
    (readable : session.files.read path = .ok (Bytes.ofText text))
    (room : HasRoom session.files path)
    (found : findBlock (Broken.ofText text.toList).lines signature.toList marker.toList =
      some (i, j))
    (foundOther : findBlock (Broken.ofText text.toList).lines other.toList marker.toList =
      some (k, l))
    (disjoint : j < k ∨ l < i) (marked : marker ≠ "")
    (framed : Framed signature.toList marker.toList first.toList)
    (framedOther : Framed other.toList marker.toList second.toList)
    (silent : ∀ line ∈ paragraphs first.toList, trim line ≠ trim other.toList)
    (silentOther : ∀ line ∈ paragraphs second.toList, trim line ≠ trim signature.toList) :
    ∃ one two three four content,
      (replace Disk.plain path signature first marker).perform session = (.ok true, one) ∧
      (replace Disk.plain path other second marker).perform one = (.ok true, two) ∧
      (replace Disk.plain path other second marker).perform session = (.ok true, three) ∧
      (replace Disk.plain path signature first marker).perform three = (.ok true, four) ∧
      two.files.read path = .ok content ∧ four.files.read path = .ok content := by
  have holds : Holds session.files path (Broken.ofText text.toList) := ⟨text, readable, rfl⟩
  obtain ⟨block, same, start, stop⟩ :=
    Block.of_firstBlock _ i j (findBlock_firstBlock _ _ _ i j found)
  obtain ⟨blockOther, sameOther, startOther, stopOther⟩ :=
    Block.of_firstBlock _ k l (findBlock_firstBlock _ _ _ k l foundOther)
  rcases disjoint with early | late
  · obtain ⟨one, three, four, two, content, ran⟩ := replace_both path signature other first second
      marker session _ holds room block blockOther same sameOther (by omega) marked framed
      framedOther silent
    exact ⟨one, two, three, four, content, ran⟩
  · obtain ⟨three, one, two, four, content, ran, then_, ran', then', left, left'⟩ :=
      replace_both path other signature second first marker session _ holds room blockOther block
        sameOther same (by omega) marked framedOther framed silentOther
    exact ⟨one, two, three, four, content, ran', then', ran, then_, left', left⟩

theorem replaces_commute_repeated :
    ∃ one two three four content,
      (replace Disk.plain ⟨0, ["a.smali"]⟩ ".method b" ".method b\n.end method"
        endMarker).perform repeatedSession = (.ok true, one) ∧
      (replace Disk.plain ⟨0, ["a.smali"]⟩ ".method a" ".method a\n  return\n.end method"
        endMarker).perform one = (.ok true, two) ∧
      (replace Disk.plain ⟨0, ["a.smali"]⟩ ".method a" ".method a\n  return\n.end method"
        endMarker).perform repeatedSession = (.ok true, three) ∧
      (replace Disk.plain ⟨0, ["a.smali"]⟩ ".method b" ".method b\n.end method"
        endMarker).perform three = (.ok true, four) ∧
      two.files.read ⟨0, ["a.smali"]⟩ = .ok content ∧
      four.files.read ⟨0, ["a.smali"]⟩ = .ok content :=
  replaces_commute ⟨0, ["a.smali"]⟩ repeatedText ".method b" ".method a" ".method b\n.end method"
    ".method a\n  return\n.end method" endMarker repeatedSession 4 5 1 3 rfl repeated_room
    (by decide) (by decide) (by decide) (by decide) ⟨by decide, by decide, by decide⟩
    ⟨by decide, by decide, by decide⟩ (by decide) (by decide)

/-- Where no temporary file can be named, neither of two methods is replaced. -/
theorem replaces_barred_full :
    let text := ".method a\n.end method\n.method b\n.end method\n"
    let first := ".method a\n  return\n.end method"
    let second := ".method b\n.end method"
    (fullSession text).files.read ⟨0, [fullName]⟩ = .ok (Bytes.ofText text) ∧
      findBlock (Broken.ofText text.toList).lines ".method a".toList endMarker.toList =
        some (0, 1) ∧
      findBlock (Broken.ofText text.toList).lines ".method b".toList endMarker.toList =
        some (2, 3) ∧
      Framed ".method a".toList endMarker.toList first.toList ∧
      Framed ".method b".toList endMarker.toList second.toList ∧
      (∀ line ∈ paragraphs first.toList, trim line ≠ trim ".method b".toList) ∧
      (∀ line ∈ paragraphs second.toList, trim line ≠ trim ".method a".toList) ∧
      ((replace Disk.plain ⟨0, [fullName]⟩ ".method a" first endMarker).perform
        (fullSession text)).1 ≠ .ok true ∧
      ((replace Disk.plain ⟨0, [fullName]⟩ ".method b" second endMarker).perform
        (fullSession text)).1 ≠ .ok true := by
  intro text first second
  have readable := fullSession_read text
  have present : HasBlock (Broken.ofText text.toList).lines ".method a".toList endMarker.toList :=
    ⟨0, 1, by decide, by decide, by decide⟩
  have presentOther : HasBlock (Broken.ofText text.toList).lines ".method b".toList
      endMarker.toList := ⟨2, 3, by decide, by decide, by decide⟩
  obtain ⟨_, ran⟩ := replace_refused _ text ".method a" first endMarker (fullSession text) readable
    present (fullSession_roomless text)
  obtain ⟨_, ranOther⟩ := replace_refused _ text ".method b" second endMarker (fullSession text)
    readable presentOther (fullSession_roomless text)
  exact ⟨readable, by decide, by decide, ⟨by decide, by decide, by decide⟩,
    ⟨by decide, by decide, by decide⟩, by decide, by decide, by simp [ran], by simp [ranOther]⟩

end DexGraft.Smali
