import DexGraft.Proofs.Files.Places
import DexGraft.Proofs.Session.Run
import DexGraft.Proofs.Smali.Method
import DexGraft.Proofs.Text.Encoding
import DexGraft.Smali.Rewrite

/-!
What a rewrite does to the files. A store either leaves the file with its new
content and nothing in the place of the temporary file, or, where the temporary
file cannot be written, leaves all files as they were. A rewrite of a method is a
patch of the file's text, byte for byte.
-/
namespace DexGraft.Smali

open Text Files

/-- The new text of a file can be written beside it. -/
def HasRoom (files : Files) (path : Path) : Prop :=
  ∃ temporary place, temporaryOf? path = some temporary ∧
    files.resolve temporary = .ok place ∧ files.node? place ≠ some .directory

structure Swapped (before after : Files) (place temporary : Place) (content : Bytes) : Prop where
  here : after.here = before.here
  filled : ∃ mode, after.node? place = some (.file content mode)
  gone : ∀ other, temporary <+: other → after.node? other = none
  rest : ∀ other, other ≠ place → ¬temporary <+: other → after.node? other = before.node? other

theorem temporary_name (name : String) : s!".{name}.tmp" ≠ ".." ∧ s!".{name}.tmp" ≠ name := by
  have size : (s!".{name}.tmp").toList.length = name.toList.length + 5 := by
    change ("." ++ name ++ ".tmp").toList.length = _
    simp
  constructor
  · intro same
    rw [same] at size
    simp at size
  · intro same
    rw [same] at size
    omega

theorem temporary_parts (path temporary : Path) (made : temporaryOf? path = some temporary) :
    ∃ above, path.parts = above ++ [path.name] ∧
      temporary.parts = above ++ [s!".{path.name}.tmp"] ∧ temporary.slashes = path.slashes := by
  unfold temporaryOf? Path.withName? at made
  split at made
  · cases made
  · rename_i filled
    injection made with same
    subst same
    have named : path.parts ≠ [] := by simpa using filled
    refine ⟨path.parts.dropLast, ?_, rfl, rfl⟩
    rw [Path.name, List.getLastD_eq_getLast?, List.getLast?_eq_some_getLast named]
    exact (List.dropLast_concat_getLast named).symm

theorem temporary_beside (files : Files) (path temporary : Path) (place beside : Place)
    (made : temporaryOf? path = some temporary) (reached : files.resolve path = .ok place)
    (found : files.resolve temporary = .ok beside) :
    ∃ parent above, path.parts = above ++ [path.name] ∧
      temporary.parts = above ++ [s!".{path.name}.tmp"] ∧
      files.walk (files.start path) above = .ok parent ∧
      beside = parent ++ [s!".{path.name}.tmp"] ∧ ¬beside <+: place := by
  obtain ⟨above, parts, temporaryParts, slashes⟩ := temporary_parts path temporary made
  have same : files.start temporary = files.start path := by
    simp [start, Path.isAbsolute, slashes]
  obtain ⟨parent, front, there, spot⟩ :=
    resolve_named files temporary beside above _ temporaryParts (temporary_name _).1 found
  rw [same] at front
  refine ⟨parent, above, parts, temporaryParts, front, spot, ?_⟩
  obtain ⟨_, walked⟩ := (resolve_eq_ok files path place).mp reached
  rw [parts, walk_append] at walked
  obtain ⟨middle, first, step⟩ := walked
  obtain rfl : middle = parent := by simpa [first] using front
  obtain ⟨_, ⟨_, arrived⟩ | ⟨_, _, arrived⟩⟩ := (walk_cons ..).mp step
  · cases arrived
    intro under
    have longer := under.length_le
    simp [spot] at longer
    omega
  · cases arrived
    intro under
    have equal := under.eq_of_length (by simp [spot])
    rw [spot] at equal
    simp only [List.append_cancel_left_eq, List.cons.injEq, and_true] at equal
    exact (temporary_name _).2 equal

-- The way to both ends beside the temporary file, so nothing in its place can bar it.
theorem both_reached (before after : Files) (path temporary : Path) (place beside : Place)
    (made : temporaryOf? path = some temporary) (reached : before.resolve path = .ok place)
    (found : before.resolve temporary = .ok beside)
    (closed : before.node? beside ≠ some .directory) (here : after.here = before.here)
    (kept : ∀ other, before.node? other = some .directory → ¬beside <+: other →
      after.node? other = some .directory) :
    after.resolve path = .ok place ∧ after.resolve temporary = .ok beside := by
  obtain ⟨parent, above, parts, temporaryParts, front, spot, _⟩ :=
    temporary_beside before path temporary place beside made reached found
  have outside : ¬beside <+: parent := by
    rw [spot]
    exact not_prefix_above parent _ []
  have start : before.start temporary = before.start path := by
    obtain ⟨_, _, _, slashes⟩ := temporary_parts path temporary made
    simp [Files.start, Path.isAbsolute, slashes]
  exact ⟨resolve_kept before after path place parent above _ beside parts here closed kept front
      outside reached,
    resolve_kept before after temporary beside parent above _ beside temporaryParts here closed
      kept (start ▸ front) outside found⟩

theorem discard_refused (path : Path) (session : Session)
    (refused : ∀ after, session.files.remove path ≠ .ok after) :
    ((discard path).perform session).2 = session := by
  rw [discard, Action.perform_bind, Action.perform_ask]
  cases present : session.files.exists? path with
  | error cause => rfl
  | ok there =>
      cases there with
      | false => rfl
      | true =>
          simp only [Except.mapError, if_true, Action.perform_change]
          cases removed : session.files.remove path with
          | error cause => rfl
          | ok after => exact absurd removed (refused after)

theorem store_files (files written : Files) (path temporary : Path) (place beside : Place)
    (old content : Bytes) (mode : Nat) (made : temporaryOf? path = some temporary)
    (reached : files.resolve path = .ok place) (present : files.node? place = some (.file old mode))
    (found : files.resolve temporary = .ok beside)
    (done : files.write temporary content = .ok written) :
    ∃ after, written.rename temporary path = .ok after ∧
      after.exists? temporary = .ok false ∧ after.resolve path = .ok place ∧
      Swapped files after place beside content := by
  obtain ⟨_, _, _, _, _, _, apart⟩ :=
    temporary_beside files path temporary place beside made reached found
  obtain ⟨spot, newMode, found', closed, rfl⟩ := write_ok files written temporary content done
  obtain rfl : spot = beside := by simpa [found] using found'.symm
  have named : spot ≠ [] := named_of_open files spot closed
  have filled : place ≠ [] := by
    rintro rfl
    simp [node?] at present
  have differ : spot ≠ place := fun same => apart (same ▸ List.prefix_refl _)
  let after := ((files.put spot (.file content newMode)).dropUnder spot).put place
    (.file content newMode)
  have nodes := fun other => node_moved files spot place other (.file content newMode)
    (.file content newMode) named filled
  -- The move touches no directory that is not under the temporary file.
  have kept : ∀ other, files.node? other = some .directory → ¬spot <+: other →
      after.node? other = some .directory := by
    intro other there free
    have elsewhere : other ≠ place := by
      rintro rfl
      simp [present] at there
    rw [nodes, if_neg elsewhere, if_neg free, there]
  have toPlace := resolve_put files path spot place (.file content newMode) closed reached
  have toSpot := resolve_put files temporary spot spot (.file content newMode) closed found
  obtain ⟨leads, besides⟩ := both_reached files after path temporary place spot made reached found
    closed (by simp [after, here_put, here_dropUnder]) kept
  refine ⟨_, rename_file _ temporary path spot place content newMode toSpot toPlace ?there ?open_
    differ, ?gone, leads, ?swapped⟩
  case there => simp [node_put _ _ _ _ named]
  case open_ => simp [node_put _ _ _ _ named, Ne.symm differ, present]
  case gone =>
    apply missing_of_resolve _ _ spot besides
    rw [nodes, if_neg differ, if_pos (List.prefix_refl _)]
  case swapped =>
    refine ⟨by simp [here_put, here_dropUnder], ⟨newMode, by simp [nodes]⟩, ?_, ?_⟩
    · intro other under
      have elsewhere : other ≠ place := fun same => apart (same ▸ under)
      rw [nodes, if_neg elsewhere, if_pos under]
    · intro other elsewhere free
      rw [nodes, if_neg elsewhere, if_neg free]

/-- What a store leaves behind: the new content, and otherwise the files as they were. -/
structure Stored (before after : Files) (path : Path) (content : Bytes) : Prop where
  leads : ∀ place, before.resolve path = .ok place → after.resolve path = .ok place
  swapped : ∀ place, before.resolve path = .ok place →
    ∃ temporary beside, temporaryOf? path = some temporary ∧
      before.resolve temporary = .ok beside ∧ Swapped before after place beside content

theorem store_done (path : Path) (old content : Bytes) (session : Session)
    (readable : session.files.read path = .ok old) (room : HasRoom session.files path) :
    ∃ files, (store Disk.plain path content).perform session = (.ok (), { session with files }) ∧
      Stored session.files files path content := by
  obtain ⟨place, mode, reached, present⟩ := (read_eq_ok ..).mp readable
  obtain ⟨temporary, beside, made, found, open_⟩ := room
  obtain ⟨_, written⟩ := write_of_place session.files temporary content beside found open_
  obtain ⟨after, moved, gone, leads, swapped⟩ := store_files session.files _ path temporary place
    beside old content mode made reached present found written
  refine ⟨after, ?_, ?_, ?_⟩
  · simp only [store, made, Disk.plain, discard, Action.perform_ensuring, Action.perform_bind,
      Action.perform_change, Action.perform_ask, written, moved, gone, Except.mapError]
    rfl
  · intro other same
    obtain rfl : other = place := by simpa [reached] using same.symm
    exact leads
  · intro other same
    obtain rfl : other = place := by simpa [reached] using same.symm
    exact ⟨temporary, beside, made, found, swapped⟩

-- Without room the temporary file is not written, and the clean-up finds nothing of its own.
theorem store_refused (path : Path) (content : Bytes) (session : Session)
    (full : ¬HasRoom session.files path) :
    ∃ fault, (store Disk.plain path content).perform session = (.error fault, session) := by
  unfold store
  cases made : temporaryOf? path with
  | none => exact ⟨_, rfl⟩
  | some temporary =>
      have closed : ∀ after, session.files.write temporary content ≠ .ok after := by
        intro after done
        obtain ⟨place, _, found, open_, _⟩ := write_ok _ _ _ _ done
        exact full ⟨temporary, place, made, found, open_⟩
      have kept : ∀ after, session.files.remove temporary ≠ .ok after := by
        intro after done
        obtain ⟨place, _, _, found, there, _⟩ := remove_ok _ _ _ done
        exact full ⟨temporary, place, made, found, by simp [there]⟩
      have tidied := discard_refused temporary session kept
      simp only [Disk.plain, Action.perform_ensuring, Action.perform_bind, Action.perform_change]
      cases written : session.files.write temporary content with
      | ok after => exact absurd written (closed after)
      | error cause =>
          rcases ended : (discard temporary).perform session with ⟨fault | _, after⟩ <;>
            simp only [ended] at tidied ⊢ <;> subst tidied <;> exact ⟨_, rfl⟩

theorem replace_missing (path : Path) (text signature replacement marker : String)
    (session : Session) (readable : session.files.read path = .ok (Bytes.ofText text))
    (nowhere : ¬HasBlock (Broken.ofText text.toList).lines signature.toList marker.toList) :
    ∃ journal, (replace Disk.plain path signature replacement marker).perform session =
      (.ok false, { session with journal }) := by
  have absent := (patch_eq_none_iff _ _ replacement.toList _).mpr nowhere
  simp only [replace, Disk.plain, Action.perform_bind, Action.perform_ask, readable,
    Except.mapError, Bytes.toText_ofText, absent]
  exact ⟨_, rfl⟩

theorem replace_refused (path : Path) (text signature replacement marker : String)
    (session : Session) (readable : session.files.read path = .ok (Bytes.ofText text))
    (present : HasBlock (Broken.ofText text.toList).lines signature.toList marker.toList)
    (full : ¬HasRoom session.files path) :
    ∃ fault, (replace Disk.plain path signature replacement marker).perform session =
      (.error fault, session) := by
  cases patched : patch text.toList signature.toList replacement.toList marker.toList with
  | none => exact absurd present ((patch_eq_none_iff _ _ _ _).mp patched)
  | some done =>
      obtain ⟨fault, failed⟩ :=
        store_refused path (Bytes.encoded done.text) session full
      refine ⟨fault, ?_⟩
      simp only [replace, Action.perform_bind, Disk.plain, Action.perform_ask, readable,
        Except.mapError, Bytes.toText_ofText, patched]
      rw [← Disk.plain, show Bytes.ofText (String.ofList done.text) = Bytes.encoded done.text from rfl,
        failed]

theorem replace_done (path : Path) (text signature replacement marker : String)
    (session : Session) (readable : session.files.read path = .ok (Bytes.ofText text))
    (present : HasBlock (Broken.ofText text.toList).lines signature.toList marker.toList)
    (room : HasRoom session.files path) :
    ∃ patched files,
      patch text.toList signature.toList replacement.toList marker.toList = some patched ∧
      (replace Disk.plain path signature replacement marker).perform session =
        (.ok true, { session with
          files, journal := session.journal ++ [.logged .info (replacedMessage path.name patched)] }) ∧
      Stored session.files files path (Bytes.encoded patched.text) := by
  cases patched : patch text.toList signature.toList replacement.toList marker.toList with
  | none => exact absurd present ((patch_eq_none_iff _ _ _ _).mp patched)
  | some done =>
      obtain ⟨files, stored, left⟩ := store_done path (Bytes.ofText text)
        (Bytes.encoded done.text) session readable room
      refine ⟨done, files, rfl, ?_, left⟩
      simp only [replace, Action.perform_bind, Disk.plain, Action.perform_ask, readable,
        Except.mapError, Bytes.toText_ofText, patched]
      rw [← Disk.plain, show Bytes.ofText (String.ofList done.text) = Bytes.encoded done.text from rfl,
        stored]
      rfl

theorem stored_read (before after : Files) (path : Path) (old content : Bytes)
    (readable : before.read path = .ok old) (stored : Stored before after path content) :
    after.read path = .ok content := by
  obtain ⟨place, _, reached, _⟩ := (read_eq_ok ..).mp readable
  obtain ⟨_, _, _, _, swapped⟩ := stored.swapped place reached
  obtain ⟨mode, filled⟩ := swapped.filled
  exact (read_eq_ok ..).mpr ⟨place, mode, stored.leads place reached, filled⟩

def Vacant (files : Files) (path : Path) : Prop :=
  ∀ temporary beside, temporaryOf? path = some temporary →
    files.resolve temporary = .ok beside →
      ∀ other, beside <+: other → files.node? other = none

theorem stored_only (before after : Files) (path : Path) (place : Place) (content : Bytes)
    (stored : Stored before after path content) (vacant : Vacant before path)
    (reached : before.resolve path = .ok place) (other : Place) (apart : other ≠ place) :
    after.node? other = before.node? other := by
  obtain ⟨temporary, beside, made, found, swapped⟩ := stored.swapped place reached
  by_cases under : beside <+: other
  · rw [swapped.gone other under, vacant temporary beside made found other under]
  · exact swapped.rest other apart under

theorem replace_read (path : Path) (signature replacement marker : String) (replaced : Bool)
    (session after : Session)
    (done : (replace Disk.plain path signature replacement marker).perform session =
      (.ok replaced, after)) :
    ∃ text, session.files.read path = .ok (Bytes.ofText text) := by
  rw [replace, Action.bind_eq_ok] at done
  obtain ⟨content, middle, found, done⟩ := done
  obtain ⟨readable, _⟩ : session.files.read path = .ok content ∧ session = middle :=
    (Action.ask_eq_ok (fun files => files.read path) session middle content).mp found
  cases decoded : content.toText? with
  | none =>
      simp only [decoded, Action.perform_raise] at done
      cases done
  | some text => exact ⟨text, Bytes.eq_ofText_of_toText content text decoded ▸ readable⟩

/-- What a rewrite that came to its end found, and what it did to the files. -/
theorem replace_ok (path : Path) (signature replacement marker : String) (replaced : Bool)
    (session after : Session)
    (done : (replace Disk.plain path signature replacement marker).perform session =
      (.ok replaced, after)) :
    ∃ text, session.files.read path = .ok (Bytes.ofText text) ∧
      ((replaced = false ∧
          ¬HasBlock (Broken.ofText text.toList).lines signature.toList marker.toList ∧
          after.files = session.files) ∨
        replaced = true ∧
          HasBlock (Broken.ofText text.toList).lines signature.toList marker.toList ∧
          HasRoom session.files path ∧ ∃ patched,
            patch text.toList signature.toList replacement.toList marker.toList = some patched ∧
            Stored session.files after.files path (Bytes.encoded patched.text)) := by
  obtain ⟨text, readable⟩ :=
    replace_read path signature replacement marker replaced session after done
  refine ⟨text, readable, ?_⟩
  by_cases present : HasBlock (Broken.ofText text.toList).lines signature.toList marker.toList
  · by_cases room : HasRoom session.files path
    · obtain ⟨patched, files, found, ran, stored⟩ :=
        replace_done path text signature replacement marker session readable present room
      rw [ran] at done
      cases done
      exact Or.inr ⟨rfl, present, room, patched, found, stored⟩
    · obtain ⟨fault, ran⟩ :=
        replace_refused path text signature replacement marker session readable present room
      rw [ran] at done
      cases done
  · obtain ⟨journal, ran⟩ :=
      replace_missing path text signature replacement marker session readable present
    rw [ran] at done
    cases done
    exact Or.inl ⟨rfl, present, rfl⟩

/-- However a rewrite ends, the files are as they were, or the file alone has a new content. -/
theorem replace_files (path : Path) (signature replacement marker : String)
    (result : Except Fault Bool) (session after : Session)
    (done : (replace Disk.plain path signature replacement marker).perform session =
      (result, after)) :
    after.files = session.files ∨
      ∃ old content, session.files.read path = .ok old ∧ HasRoom session.files path ∧
        Stored session.files after.files path content := by
  cases result with
  | ok replaced =>
      obtain ⟨text, readable, ⟨_, _, same⟩ | ⟨_, _, room, patched, _, stored⟩⟩ :=
        replace_ok path signature replacement marker replaced session after done
      · exact Or.inl same
      · exact Or.inr ⟨_, _, readable, room, stored⟩
  | error fault =>
      refine Or.inl ?_
      cases readable : session.files.read path with
      | error cause =>
          simp only [replace, Disk.plain, Action.perform_bind, Action.perform_ask, readable] at done
          cases done
          rfl
      | ok content =>
          cases decoded : content.toText? with
          | none =>
              simp only [replace, Disk.plain, Action.perform_bind, Action.perform_ask, readable,
                Except.mapError, decoded] at done
              cases done
              rfl
          | some text =>
              obtain rfl := Bytes.eq_ofText_of_toText content text decoded
              -- Text that can be read is rewritten unless there is no block or no room.
              by_cases present :
                  HasBlock (Broken.ofText text.toList).lines signature.toList marker.toList
              · by_cases room : HasRoom session.files path
                · obtain ⟨_, _, _, ran, _⟩ :=
                    replace_done path text signature replacement marker session readable present room
                  rw [ran] at done
                  cases done
                · obtain ⟨_, ran⟩ := replace_refused path text signature replacement marker session
                    readable present room
                  rw [ran] at done
                  cases done
                  rfl
              · obtain ⟨_, ran⟩ :=
                  replace_missing path text signature replacement marker session readable present
                rw [ran] at done
                cases done

/-- A rewrite finds a method exactly where its lines are in the file, and changes that block alone:
what stands before and after it stays, with every break written like the first one. Where no such
block is found, or the new text cannot be written, all files stay as they were. -/
theorem replace_changes_block_only (path : Path) (content : Bytes)
    (text signature replacement marker : String) (session : Session)
    (readable : session.files.read path = .ok content) (decoded : content.toText? = some text)
    (filled : Text.paragraphs replacement.toList ≠ []) :
    let broken := Broken.ofText text.toList
    let whole := Text.withBreaks broken.newline text.toList
    let (result, after) :=
      (replace Disk.plain path signature replacement marker).perform session
    broken.Of text.toList ∧
      (result = .ok true ↔
        HasBlock broken.lines signature.toList marker.toList ∧ HasRoom session.files path) ∧
      (result = .ok false ↔ ¬HasBlock broken.lines signature.toList marker.toList) ∧
      (result ≠ .ok true → after.files = session.files) ∧
      (result = .ok true →
        ∃ i j opening before block rest,
          FirstBlock broken.lines signature.toList marker.toList i j ∧
          broken.lines[i]? = some opening ∧ Cut broken i j whole before block rest ∧
          after.files.read path = .ok (Bytes.encoded before ++
            Bytes.encoded (Text.joinWith broken.newline
              (insertedLines opening replacement.toList)) ++ Bytes.encoded rest) ∧
          ((∀ found ∈ Text.breaks text.toList, ∀ other ∈ Text.breaks text.toList,
              found = other) →
            content = Bytes.encoded before ++ Bytes.encoded block ++ Bytes.encoded rest)) := by
  intro broken whole
  obtain rfl := Bytes.eq_ofText_of_toText content text decoded
  by_cases present : HasBlock broken.lines signature.toList marker.toList
  · by_cases room : HasRoom session.files path
    · obtain ⟨patched, files, found, ran, stored⟩ :=
        replace_done path text signature replacement marker session readable present room
      obtain ⟨block, opening, before, old, rest, atStart, cut, spliced⟩ :=
        patch_cut _ _ _ _ patched filled found
      rw [ran]
      refine ⟨Broken.of_ofText _, by simp [present, room], by simp [present], by simp, fun _ => ?_⟩
      refine ⟨_, _, opening, before, old, rest, block, atStart, cut, ?_, fun alike => ?_⟩
      · rw [stored_read session.files files path _ _ readable stored, spliced,
          Bytes.encoded_append, Bytes.encoded_append]
      · have same : whole = text.toList := by
          apply Text.withBreaks_self
          intro found member
          rw [show broken.newline = _ from Broken.ofText_newline text.toList]
          obtain ⟨first, others, shape⟩ := List.exists_cons_of_ne_nil (List.ne_nil_of_mem member)
          rw [shape] at alike member ⊢
          exact alike found member first List.mem_cons_self
        calc Bytes.ofText text = Bytes.encoded whole := by rw [same, Bytes.encoded_toList]
          _ = Bytes.encoded (before ++ old ++ rest) := congrArg Bytes.encoded cut.whole
          _ = _ := by rw [Bytes.encoded_append, Bytes.encoded_append]
    · obtain ⟨fault, ran⟩ :=
        replace_refused path text signature replacement marker session readable present room
      rw [ran]
      exact ⟨Broken.of_ofText _, by simp [room], by simp [present], by simp, by simp⟩
  · obtain ⟨journal, ran⟩ :=
      replace_missing path text signature replacement marker session readable present
    rw [ran]
    exact ⟨Broken.of_ofText _, by simp [present], by simp [present], by simp, by simp⟩

/-- A file with breaks of all three kinds and none at its end, its method indented. -/
def mixedText : String := "# é\r\n\t.method a\r  nop\n .end method "

def mixedSession : Session where
  files := ⟨[(["a.smali"], .file (Bytes.ofText mixedText) newFileMode)], []⟩
  journal := []
  clock := Zip.Stamp.earliest
  environment := []
  temporary := ⟨1, ["tmp"]⟩

theorem replace_changes_mixed :
    mixedSession.files.read ⟨0, ["a.smali"]⟩ = .ok (Bytes.ofText mixedText) ∧
      (Bytes.ofText mixedText).toText? = some mixedText ∧
      Text.paragraphs ".method a\n  return\n.end method".toList ≠ [] ∧
      ((replace Disk.plain ⟨0, ["a.smali"]⟩ " .method a" ".method a\n  return\n.end method"
        endMarker).perform mixedSession).1 = .ok true := by
  have readable : mixedSession.files.read ⟨0, ["a.smali"]⟩ = .ok (Bytes.ofText mixedText) := rfl
  have decoded : (Bytes.ofText mixedText).toText? = some mixedText := Bytes.toText_ofText _
  have filled : Text.paragraphs ".method a\n  return\n.end method".toList ≠ [] := by decide
  have present : HasBlock (Broken.ofText mixedText.toList).lines " .method a".toList
      endMarker.toList := ⟨1, 3, by decide, by decide, by decide⟩
  have room : HasRoom mixedSession.files ⟨0, ["a.smali"]⟩ :=
    ⟨⟨0, [".a.smali.tmp"]⟩, [".a.smali.tmp"], by decide, rfl, by decide⟩
  have changed := replace_changes_block_only _ _ _ " .method a" ".method a\n  return\n.end method"
    endMarker mixedSession readable decoded filled
  exact ⟨readable, decoded, filled, changed.2.1.mpr ⟨present, room⟩⟩

/-- A name as long as a name may be, so that none longer can be made of it. -/
def fullName : String := String.ofList (List.replicate 255 'a')

def fullSession (text : String) : Session :=
  { mixedSession with files := ⟨[([fullName], .file (Bytes.ofText text) newFileMode)], []⟩ }

theorem fullSession_read (text : String) :
    (fullSession text).files.read ⟨0, [fullName]⟩ = .ok (Bytes.ofText text) := by
  refine (read_eq_ok ..).mpr ⟨[fullName], newFileMode, (resolve_eq_ok ..).mpr ⟨⟨?_, ?_⟩, ?_⟩, ?_⟩
  · decide +kernel
  · decide +kernel
  · exact (walk_cons ..).mpr ⟨rfl, Or.inr ⟨by decide +kernel, by decide +kernel, rfl⟩⟩
  · simp [node?, fullSession]

theorem fullSession_roomless (text : String) :
    ¬HasRoom (fullSession text).files ⟨0, [fullName]⟩ := by
  rintro ⟨temporary, place, made, reached, _⟩
  have named : temporaryOf? ⟨0, [fullName]⟩ = some ⟨0, ["." ++ fullName ++ ".tmp"]⟩ := by
    decide +kernel
  cases named.symm.trans made
  obtain ⟨_, walked⟩ := (resolve_eq_ok ..).mp reached
  obtain ⟨_, ⟨up, _⟩ | ⟨_, short, _⟩⟩ := (walk_cons ..).mp walked
  · exact absurd up (by decide +kernel)
  · exact absurd short (by decide +kernel)

/-- A method in such a file is found, but not replaced. -/
theorem replace_barred_full :
    let text := ".method a\n.end method\n"
    let replacement := ".method a\n  return\n.end method"
    (fullSession text).files.read ⟨0, [fullName]⟩ = .ok (Bytes.ofText text) ∧
      Text.paragraphs replacement.toList ≠ [] ∧
      HasBlock (Broken.ofText text.toList).lines ".method a".toList endMarker.toList ∧
      ((replace Disk.plain ⟨0, [fullName]⟩ ".method a" replacement endMarker).perform
        (fullSession text)).1 ≠ .ok true := by
  intro text replacement
  have readable := fullSession_read text
  have present : HasBlock (Broken.ofText text.toList).lines ".method a".toList endMarker.toList :=
    ⟨0, 1, by decide, by decide, by decide⟩
  obtain ⟨fault, ran⟩ := replace_refused _ text ".method a" replacement endMarker (fullSession text)
    readable present (fullSession_roomless text)
  exact ⟨readable, by decide, present, by simp [ran]⟩

end DexGraft.Smali
