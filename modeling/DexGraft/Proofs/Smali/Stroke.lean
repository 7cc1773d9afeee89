import DexGraft.Proofs.Checked
import DexGraft.Proofs.Files.Beyond
import DexGraft.Proofs.Session.Watched
import DexGraft.Proofs.Smali.Rewrite

/-!
A rewrite at every moment. Its operations may fail at any point, and the temporary file
may hold any portion of the new text; the file itself holds its old content until the
move has taken place, and the new one from then on. Nothing is left beside it.
-/
namespace DexGraft.Smali

open Text Files

structure WatchedDisk where
  read : Path → Watched Bytes
  write : Path → Bytes → Watched Unit
  move : Path → Path → Watched Unit

def WatchedDisk.disk (watched : WatchedDisk) : Disk where
  read path := (watched.read path).action
  write path content := (watched.write path content).action
  move source target := (watched.move source target).action

def watchedDiscard (path : Path) : Watched Unit := do
  if ← Watched.step (Action.ask fun files => files.exists? path) then
    Watched.step (Action.change fun files => files.remove path)

def watchedStore (disk : WatchedDisk) (path : Path) (content : Bytes) : Watched Unit :=
  match temporaryOf? path with
  | none => Watched.step (Action.raise .noFileName)
  | some temporary =>
      Watched.ensuring (do disk.write temporary content; disk.move temporary path)
        (watchedDiscard temporary)

def watchedPatch (disk : WatchedDisk) (path : Path) (signature replacement marker : String)
    (content : Bytes) : Watched Bool :=
  match content.toText? with
  | none => Watched.step (Action.raise .notUtf8)
  | some text =>
      match patch text.toList signature.toList replacement.toList marker.toList with
      | none => do
          let wanted := Text.quote (Text.trimmed signature)
          Watched.step (Action.info s!"    method block not found in {path.name}: {wanted}")
          return false
      | some patched => do
          watchedStore disk path (Bytes.encoded patched.text)
          Watched.step (Action.info (replacedMessage path.name patched))
          return true

def watchedReplace (disk : WatchedDisk) (path : Path) (signature replacement marker : String) :
    Watched Bool := do
  watchedPatch disk path signature replacement marker (← disk.read path)

theorem watchedDiscard_action (path : Path) : (watchedDiscard path).action = discard path := by
  rw [watchedDiscard, Watched.action_bind, discard]
  congr 1
  funext there
  cases there <;> rfl

theorem watchedStore_action (disk : WatchedDisk) (path : Path) (content : Bytes) :
    (watchedStore disk path content).action = store disk.disk path content := by
  rw [watchedStore, store]
  cases temporaryOf? path with
  | none => rfl
  | some temporary =>
      simp only [Watched.action_ensuring, Watched.action_bind, watchedDiscard_action]
      rfl

theorem watchedReplace_action (disk : WatchedDisk) (path : Path)
    (signature replacement marker : String) :
    (watchedReplace disk path signature replacement marker).action =
      replace disk.disk path signature replacement marker := by
  rw [watchedReplace, Watched.action_bind, replace]
  congr 1
  funext content
  rw [watchedPatch]
  cases content.toText? with
  | none => rfl
  | some text =>
      simp only
      cases patch text.toList signature.toList replacement.toList marker.toList with
      | none => simp only [Watched.action_bind]; rfl
      | some patched =>
          simp only [Watched.action_bind, watchedStore_action]
          rfl

/-- Some portion of a text may be in the temporary file, and nothing else is changed. -/
def Begun (files : Files) (temporary : Path) (now : Files) : Prop :=
  now = files ∨ ∃ portion, files.write temporary portion = .ok now

/-- Operations that may fail at any point. What is read is the content of the file. A file that is
being written holds some portion on the way, and the whole when the writing comes to its end. A
file is moved at one stroke or not at all. -/
structure WatchedDisk.Fallible (disk : WatchedDisk) : Prop where
  read : ∀ path session, let ran := (disk.read path).watch session
    (∀ moment ∈ ran.moments, moment = session.files) ∧ ran.after.files = session.files ∧
      ∀ content, ran.result = .ok content → session.files.read path = .ok content
  write : ∀ path content session, let ran := (disk.write path content).watch session
    (∀ moment ∈ ran.moments, Begun session.files path moment) ∧
      ran.after.files = ran.moments.getLastD session.files ∧
      (ran.result = .ok () → session.files.write path content = .ok ran.after.files)
  move : ∀ source target session, let ran := (disk.move source target).watch session
    ran.moments = [ran.after.files] ∧
      (ran.result = .ok () ∧ session.files.rename source target = .ok ran.after.files ∨
        (∃ fault, ran.result = .error fault) ∧ ran.after.files = session.files)

/-- No change came about: the file holds its content at every moment and after the last. What is
there in the end was there before. -/
structure Unmoved (start : Files) (path : Path) (old : Bytes) (moments : List Files)
    (after : Files) : Prop where
  passing : ∀ moment ∈ moments, moment.read path = .ok old
  ending : after.read path = .ok old
  clean : ∀ other, after.node? other = none ∨ after.node? other = start.node? other

/-- The file changes at one stroke, when what is beside it is moved over it: it holds the old
content until then, and the new one from this moment to the end. Of the rest, what is there in the
end was there before. -/
structure Moved (start : Files) (path : Path) (old new : Bytes) (moments : List Files)
    (after : Files) : Prop where
  stroke : ∃ front moved back temporary, moments = front ++ moved :: back ∧
    temporaryOf? path = some temporary ∧
    (front.getLastD start).rename temporary path = .ok moved ∧
    (∀ moment ∈ front, moment.read path = .ok old) ∧
    ∀ moment ∈ moved :: back, moment.read path = .ok new
  ending : after.read path = .ok new
  clean : ∀ other, start.resolve path ≠ .ok other →
    after.node? other = none ∨ after.node? other = start.node? other

-- What is under the temporary place does not matter to the file.
theorem read_aside (files now : Files) (path temporary : Path) (beside : Place) (old : Bytes)
    (made : temporaryOf? path = some temporary) (readable : files.read path = .ok old)
    (found : files.resolve temporary = .ok beside)
    (closed : files.node? beside ≠ some .directory) (same : SameOutside beside files now) :
    now.read path = .ok old ∧ now.resolve temporary = .ok beside := by
  obtain ⟨place, mode, reached, present⟩ := (read_eq_ok ..).mp readable
  obtain ⟨_, _, _, _, _, _, apart⟩ :=
    temporary_beside files path temporary place beside made reached found
  obtain ⟨leads, besides⟩ := both_reached files now path temporary place beside made reached found
    closed same.here fun other there free => by rw [same.rest other free, there]
  exact ⟨(read_eq_ok ..).mpr ⟨place, mode, leads, (same.rest place apart).trans present⟩, besides⟩

section

variable {start now : Files} {path temporary : Path} {old : Bytes}

theorem Begun.read (begun : Begun start temporary now) (made : temporaryOf? path = some temporary)
    (readable : start.read path = .ok old) : now.read path = .ok old := by
  rcases begun with rfl | ⟨portion, written⟩
  · exact readable
  · obtain ⟨beside, _, found, closed, _⟩ := write_ok _ _ _ _ written
    exact (read_aside start now path temporary beside old made readable found closed
      (write_outside _ _ _ _ _ found written)).1

-- Whatever is removed is under the temporary place.
theorem Begun.removed (begun : Begun start temporary now)
    (made : temporaryOf? path = some temporary) (readable : start.read path = .ok old)
    (after : Files) (removed : now.remove temporary = .ok after) :
    after.read path = .ok old ∧
      ∀ other, after.node? other = none ∨ after.node? other = start.node? other := by
  obtain ⟨beside, content, mode, reached, there, rfl⟩ := remove_ok _ _ _ removed
  obtain ⟨found, closed, same⟩ : start.resolve temporary = .ok beside ∧
      start.node? beside ≠ some .directory ∧ SameOutside beside start now := by
    rcases begun with rfl | ⟨portion, written⟩
    · exact ⟨reached, by simp [there], SameOutside.refl _ _⟩
    · obtain ⟨spot, _, found, closed, _⟩ := write_ok _ _ _ _ written
      have same := write_outside _ _ _ _ _ found written
      have again := (read_aside start now path temporary spot old made readable found closed same).2
      obtain rfl : spot = beside := Except.ok.inj (again.symm.trans reached)
      exact ⟨found, closed, same⟩
  have named : beside ≠ [] := named_of_open start beside closed
  have dropped := same.trans (sameOutside_dropUnder now beside named)
  refine ⟨(read_aside start _ path temporary beside old made readable found closed dropped).1,
    fun other => ?_⟩
  by_cases under : beside <+: other
  · exact Or.inl (by rw [node_dropUnder _ _ _ named, if_pos under])
  · exact Or.inr (dropped.rest other under)

-- Where nothing can be removed, nothing has been written.
theorem Begun.unwritten (begun : Begun start temporary now)
    (kept : now.exists? temporary = .ok true → ∀ after, now.remove temporary ≠ .ok after) :
    now = start := by
  rcases begun with rfl | ⟨portion, written⟩
  · rfl
  · obtain ⟨beside, mode, found, closed, rfl⟩ := write_ok _ _ _ _ written
    have again := resolve_put start temporary beside beside (.file portion mode) closed found
    have there : (start.put beside (.file portion mode)).node? beside =
        some (.file portion mode) := by
      rw [node_put _ _ _ _ (named_of_open start beside closed), if_pos rfl]
    have shown : (start.put beside (.file portion mode)).exists? temporary = .ok true := by
      rw [exists_of_resolve _ _ _ again, there]
      rfl
    have removing : (start.put beside (.file portion mode)).remove temporary =
        .ok ((start.put beside (.file portion mode)).dropUnder beside) := by
      simp [Files.remove, again, there, bind, Except.bind]
    exact absurd removing (kept shown _)

theorem Begun.discarded (session : Session) (begun : Begun start temporary session.files)
    (made : temporaryOf? path = some temporary) (readable : start.read path = .ok old) :
    let ran := (watchedDiscard temporary).watch session
    Unmoved start path old ran.moments ran.after.files := by
  have here := begun.read made readable
  have still : ∀ kept : session.files.exists? temporary = .ok true →
      ∀ after, session.files.remove temporary ≠ .ok after,
      ∀ other, session.files.node? other = none ∨
        session.files.node? other = start.node? other := by
    intro kept other
    rw [begun.unwritten kept]
    exact Or.inr rfl
  simp only [watchedDiscard, Watched.watch_bind, Watched.watch_step, Action.perform_ask]
  cases looked : session.files.exists? temporary with
  | error cause =>
      exact ⟨by simpa [Except.mapError] using here, here, still (by simp [looked])⟩
  | ok there =>
      cases there with
      | false =>
          exact ⟨by simpa [Except.mapError, Watched.watch_pure] using here, here,
            still (by simp [looked])⟩
      | true =>
          simp only [Except.mapError, if_true, Watched.watch_step, Action.perform_change]
          cases removing : session.files.remove temporary with
          | error cause => exact ⟨by simpa using here, here, still (by simp [removing])⟩
          | ok after =>
              obtain ⟨kept, clean⟩ := begun.removed made readable after removing
              exact ⟨by simp [here, kept], kept, clean⟩

theorem Begun.last {moments : List Files}
    (each : ∀ moment ∈ moments, Begun start temporary moment) :
    Begun start temporary (moments.getLastD start) := by
  rcases List.eq_nil_or_concat' moments with rfl | ⟨front, final, rfl⟩
  · exact Or.inl rfl
  · rw [List.getLastD_concat]
    exact each final (by simp)

theorem Unmoved.after {after : Files} {front back : List Files}
    (before : ∀ moment ∈ front, moment.read path = .ok old)
    (unmoved : Unmoved start path old back after) :
    Unmoved start path old (front ++ back) after := by
  refine ⟨fun moment member => ?_, unmoved.ending, unmoved.clean⟩
  rcases List.mem_append.mp member with early | late
  · exact before moment early
  · exact unmoved.passing moment late

theorem discard_absent (session : Session)
    (gone : session.files.exists? temporary = .ok false) :
    (watchedDiscard temporary).watch session = ⟨[session.files], .ok (), session⟩ := by
  simp only [watchedDiscard, Watched.watch_bind, Watched.watch_step, Action.perform_ask, gone]
  rfl

theorem moved_whole (written moved : Files) (content : Bytes)
    (made : temporaryOf? path = some temporary) (readable : start.read path = .ok old)
    (wrote : start.write temporary content = .ok written)
    (renamed : written.rename temporary path = .ok moved) :
    moved.exists? temporary = .ok false ∧ moved.read path = .ok content ∧
      ∀ other, start.resolve path ≠ .ok other →
        moved.node? other = none ∨ moved.node? other = start.node? other := by
  obtain ⟨place, mode, reached, present⟩ := (read_eq_ok ..).mp readable
  obtain ⟨beside, _, found, _, _⟩ := write_ok _ _ _ _ wrote
  obtain ⟨after, done, gone, leads, swapped⟩ := store_files start written path temporary place
    beside old content mode made reached present found wrote
  obtain rfl : after = moved := Except.ok.inj (done.symm.trans renamed)
  obtain ⟨_, filled⟩ := swapped.filled
  refine ⟨gone, (read_eq_ok ..).mpr ⟨place, _, leads, filled⟩, fun other apart => ?_⟩
  have elsewhere : other ≠ place := fun same => apart (same ▸ reached)
  by_cases under : beside <+: other
  · exact Or.inl (swapped.gone other under)
  · exact Or.inr (swapped.rest other elsewhere under)

theorem written_moved (disk : WatchedDisk) (fallible : disk.Fallible) (new : Bytes)
    (session : Session) (made : temporaryOf? path = some temporary)
    (readable : session.files.read path = .ok old) :
    let ran := (do disk.write temporary new; disk.move temporary path : Watched Unit).watch session
    ((∃ fault, ran.result = .error fault) ∧
        (∀ moment ∈ ran.moments, moment.read path = .ok old) ∧
        Begun session.files temporary ran.after.files) ∨
      ran.result = .ok () ∧ ∃ front, ran.moments = front ++ [ran.after.files] ∧
        (∀ moment ∈ front, moment.read path = .ok old) ∧
        session.files.write temporary new = .ok (front.getLastD session.files) ∧
        (front.getLastD session.files).rename temporary path = .ok ran.after.files := by
  simp only [Watched.watch_bind]
  obtain ⟨passing, last, whole⟩ := fallible.write temporary new session
  rcases wrote : (disk.write temporary new).watch session with ⟨front, fault | _, middle⟩ <;>
    simp only [wrote] at passing last whole ⊢
  · exact Or.inl ⟨⟨fault, rfl⟩, fun moment member => (passing moment member).read made readable,
      last ▸ Begun.last passing⟩
  · have early := fun moment member => (passing moment member).read made readable
    obtain ⟨single, outcome⟩ := fallible.move temporary path middle
    rcases moved : (disk.move temporary path).watch middle with ⟨moments, result, final⟩
    simp only [moved] at single outcome ⊢
    subst single
    rcases outcome with ⟨rfl, renamed⟩ | ⟨broken, still⟩
    · exact Or.inr ⟨rfl, front, rfl, early, last ▸ whole trivial, last ▸ renamed⟩
    · have begun : Begun session.files temporary final.files := Or.inr ⟨new, still ▸ whole trivial⟩
      refine Or.inl ⟨broken, fun moment member => ?_, begun⟩
      rcases List.mem_append.mp member with before | late
      · exact early moment before
      · rw [List.mem_singleton.mp late]
        exact begun.read made readable

/-- A store that may fail at any point either leaves the file alone or changes it at one stroke. -/
theorem watchedStore_stroke (disk : WatchedDisk) (fallible : disk.Fallible) (new : Bytes)
    (session : Session) (readable : session.files.read path = .ok old) :
    let ran := (watchedStore disk path new).watch session
    ((∃ fault, ran.result = .error fault) ∧
        Unmoved session.files path old ran.moments ran.after.files) ∨
      ran.result = .ok () ∧ Moved session.files path old new ran.moments ran.after.files := by
  unfold watchedStore
  cases made : temporaryOf? path with
  | none =>
      exact Or.inl ⟨⟨_, rfl⟩, by simpa [Watched.watch_step, Action.perform_raise] using readable,
        readable, fun _ => Or.inr rfl⟩
  | some temporary =>
      simp only [Watched.watch_ensuring]
      rcases written_moved disk fallible new session made readable with
        ⟨⟨fault, broken⟩, early, begun⟩ | ⟨done, front, moments, early, wrote, renamed⟩
      · refine Or.inl ⟨?_, (begun.discarded _ made readable).after early⟩
        rw [broken]
        split <;> exact ⟨_, rfl⟩
      · obtain ⟨gone, read, clean⟩ := moved_whole _ _ new made readable wrote renamed
        refine Or.inr ?_
        rw [discard_absent _ gone, done, moments]
        exact ⟨rfl, ⟨front, _, _, temporary, List.append_assoc .., made, renamed, early,
          by simp [read]⟩, read, clean⟩

-- Moments at which nothing is changed yet come before the stroke.
theorem Moved.after {new : Bytes} {after : Files} {front moments : List Files}
    (readable : start.read path = .ok old) (still : ∀ moment ∈ front, moment = start)
    (moved : Moved start path old new moments after) :
    Moved start path old new (front ++ moments) after := by
  obtain ⟨⟨early, first, back, temporary, rfl, made, renamed, before, behind⟩, ending, clean⟩ :=
    moved
  refine ⟨⟨front ++ early, first, back, temporary, (List.append_assoc ..).symm, made, ?_, ?_,
    behind⟩, ending, clean⟩
  · rcases List.eq_nil_or_concat' early with rfl | ⟨init, last, rfl⟩
    · rcases List.eq_nil_or_concat' front with rfl | ⟨init, last, rfl⟩
      · exact renamed
      · rw [List.append_nil, List.getLastD_concat, still last (by simp)]
        exact renamed
    · rw [List.getLastD_concat] at renamed
      rwa [← List.append_assoc, List.getLastD_concat]
  · intro moment member
    rcases List.mem_append.mp member with begun | onward
    · rw [still moment begun]
      exact readable
    · exact before moment onward

theorem Moved.onward {new : Bytes} {after : Files} {moments : List Files}
    (moved : Moved start path old new moments after) :
    Moved start path old new (moments ++ [after]) after := by
  obtain ⟨⟨early, first, back, temporary, rfl, made, renamed, before, behind⟩, ending, clean⟩ :=
    moved
  refine ⟨⟨early, first, back ++ [after], temporary, by simp, made, renamed, before, ?_⟩, ending,
    clean⟩
  intro moment member
  rw [← List.cons_append] at member
  rcases List.mem_append.mp member with now | last
  · exact behind moment now
  · rw [List.mem_singleton.mp last]
    exact ending

theorem watchedPatch_stroke (disk : WatchedDisk) (fallible : disk.Fallible)
    (signature replacement marker : String) (session : Session)
    (readable : session.files.read path = .ok old) :
    let ran := (watchedPatch disk path signature replacement marker old).watch session
    (old.toText? = none → ∃ fault, ran.result = .error fault) ∧
      (ran.result ≠ .ok true ∧ Unmoved session.files path old ran.moments ran.after.files ∨
        ran.result = .ok true ∧ ∃ text patched, old.toText? = some text ∧
          patch text.toList signature.toList replacement.toList marker.toList = some patched ∧
          Moved session.files path old (Bytes.encoded patched.text) ran.moments
            ran.after.files) := by
  have kept : Unmoved session.files path old [session.files] session.files :=
    ⟨by simpa using readable, readable, fun _ => Or.inr rfl⟩
  unfold watchedPatch
  cases decoded : old.toText? with
  | none => exact ⟨fun _ => ⟨_, rfl⟩, Or.inl ⟨nofun, kept⟩⟩
  | some text =>
      refine ⟨nofun, ?_⟩
      simp only
      cases found : patch text.toList signature.toList replacement.toList marker.toList with
      | none => exact Or.inl ⟨nofun, kept⟩
      | some patched =>
          simp only [Watched.watch_bind]
          have storing :=
            watchedStore_stroke disk fallible (Bytes.encoded patched.text) session readable
          rcases stored : (watchedStore disk path (Bytes.encoded patched.text)).watch session with
            ⟨moments, fault | _, after⟩ <;> simp only [stored] at storing ⊢
          · obtain ⟨_, unmoved⟩ := storing.resolve_right (by simp)
            exact Or.inl ⟨nofun, unmoved⟩
          · obtain ⟨_, moved⟩ := storing.resolve_left (by simp)
            exact Or.inr ⟨rfl, text, patched, rfl, found, moved.onward⟩

end

/-- A rewrite is atomic, whatever fails and wherever it does. Either the file holds its old content
at every moment and to the end, or it holds this until the new one is moved over it and the whole
of the new one from that moment on; and nothing is left in the end that was not there before. -/
theorem replace_stroke (disk : WatchedDisk) (fallible : disk.Fallible) (path : Path) (old : Bytes)
    (signature replacement marker : String) (session : Session)
    (readable : session.files.read path = .ok old) :
    let ran := (watchedReplace disk path signature replacement marker).watch session
    (replace disk.disk path signature replacement marker).perform session =
        (ran.result, ran.after) ∧
      (old.toText? = none → ∃ fault, ran.result = .error fault) ∧
      (ran.result ≠ .ok true ∧ Unmoved session.files path old ran.moments ran.after.files ∨
        ran.result = .ok true ∧ ∃ text patched, old.toText? = some text ∧
          patch text.toList signature.toList replacement.toList marker.toList = some patched ∧
          Moved session.files path old (Bytes.encoded patched.text) ran.moments
            ran.after.files) := by
  refine ⟨?_, ?_⟩
  · rw [← watchedReplace_action]
    rfl
  rw [watchedReplace, Watched.watch_bind]
  obtain ⟨still, same, whole⟩ := fallible.read path session
  have early : ∀ moment ∈ ((disk.read path).watch session).moments,
      moment.read path = .ok old := fun moment member => still moment member ▸ readable
  rcases reading : (disk.read path).watch session with ⟨front, fault | content, middle⟩ <;>
    simp only [reading] at still same whole early ⊢
  · exact ⟨fun _ => ⟨fault, rfl⟩, Or.inl ⟨nofun, early, same ▸ readable, fun other =>
      Or.inr (by rw [same])⟩⟩
  · obtain rfl : old = content := Except.ok.inj (readable.symm.trans (whole content rfl))
    obtain ⟨garbled, outcome⟩ := watchedPatch_stroke disk fallible signature replacement marker
      middle (same ▸ readable)
    refine ⟨garbled, ?_⟩
    rcases outcome with ⟨failed, unmoved⟩ | ⟨done, text, patched, decoded, found, moved⟩
    · exact Or.inl ⟨failed, (same ▸ unmoved).after early⟩
    · exact Or.inr ⟨done, text, patched, decoded, found, (same ▸ moved).after readable still⟩

/-- A disk with room for so many bytes of a file: what is more is not written, and refused. -/
def narrowDisk (room : Nat) : WatchedDisk where
  read path := Watched.step (Action.ask fun files => files.read path)
  write path content := do
    Watched.step (Action.change fun files => files.write path (content.take room))
    if room < content.length then
      Watched.step (Action.raise (.file ⟨.notPermitted, path.text⟩))
  move source target := Watched.step (Action.change fun files => files.rename source target)

theorem narrowDisk_fallible (room : Nat) : (narrowDisk room).Fallible := by
  constructor
  case read =>
    intro path session
    simp only [narrowDisk, Watched.watch_step, Action.perform_ask]
    refine ⟨by simp, trivial, fun content done => ?_⟩
    cases found : session.files.read path with
    | error cause => simp [found, Except.mapError] at done
    | ok given => simpa [found, Except.mapError] using done
  case write =>
    intro path content session
    simp only [narrowDisk, Watched.watch_bind, Watched.watch_step, Action.perform_change]
    cases wrote : session.files.write path (content.take room) with
    | error cause => exact ⟨by simp [Begun], rfl, nofun⟩
    | ok written =>
        have begun : Begun session.files path written := Or.inr ⟨_, wrote⟩
        by_cases long : room < content.length
        · simp only [if_pos long]
          exact ⟨by simpa [Watched.watch_step, Action.perform_raise] using begun, rfl, nofun⟩
        · simp only [if_neg long]
          rw [List.take_of_length_le (Nat.le_of_not_lt long)] at wrote
          exact ⟨by simpa [Watched.watch_pure] using begun, rfl, fun _ => wrote⟩
  case move =>
    intro source target session
    simp only [narrowDisk, Watched.watch_step, Action.perform_change]
    cases renamed : session.files.rename source target with
    | error cause => exact ⟨trivial, Or.inr ⟨⟨_, rfl⟩, rfl⟩⟩
    | ok moved => exact ⟨trivial, Or.inl ⟨rfl, rfl⟩⟩

def narrowRun (room : Nat) : Watched.Run Bool :=
  (watchedReplace (narrowDisk room) ⟨0, ["a.smali"]⟩ " .method a" ".method a\n.end method"
    endMarker).watch mixedSession

theorem replace_stroke_narrow :
    (∀ room, (narrowDisk room).Fallible) ∧
      mixedSession.files.read ⟨0, ["a.smali"]⟩ = .ok (Bytes.ofText mixedText) ∧
      Unmoved mixedSession.files ⟨0, ["a.smali"]⟩ (Bytes.ofText mixedText) (narrowRun 5).moments
        (narrowRun 5).after.files ∧
      ∃ new, Moved mixedSession.files ⟨0, ["a.smali"]⟩ (Bytes.ofText mixedText) new
        (narrowRun 99).moments (narrowRun 99).after.files := by
  have readable : mixedSession.files.read ⟨0, ["a.smali"]⟩ = .ok (Bytes.ofText mixedText) := rfl
  have outcome := fun room => (replace_stroke (narrowDisk room) (narrowDisk_fallible room)
    ⟨0, ["a.smali"]⟩ _ " .method a" ".method a\n.end method" endMarker mixedSession readable).2.2
  have torn : (narrowRun 5).result.toOption = none := by decide +kernel
  have done : (narrowRun 99).result.toOption = some true := by decide +kernel
  refine ⟨narrowDisk_fallible, readable, ?_, ?_⟩
  · rcases outcome 5 with ⟨_, unmoved⟩ | ⟨whole, _⟩
    · exact unmoved
    · change (narrowRun 5).result = .ok true at whole
      rw [whole] at torn
      cases torn
  · rcases outcome 99 with ⟨failed, _⟩ | ⟨_, _, patched, _, _, moved⟩
    · exact absurd (Checked.ok_of_toOption done) failed
    · exact ⟨_, moved⟩

end DexGraft.Smali
