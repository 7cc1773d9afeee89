import DexGraft.Proofs.Apk.Reread
import Mathlib.Data.List.Dedup

/-!
Rebuilds one after the other. What is kept goes through any number of them
unchanged, while an entry that is replaced moves to the end each time.
-/
namespace DexGraft.Apk

open Zip DexGraft.Action

structure Remains (archive : Archive) (row : Entry × Nat) (item : Item) : Prop where
  name : item.name = row.1.name
  content : archive.contentAt wholeWindow row.2 row.1 = .ok item.content
  stamp : item.stamp = row.1.stamp
  attributes : item.attributes = row.1.attributes

theorem KeptAs.remains {archive : Archive} {row : Entry × Nat} {item : Item}
    (kept : KeptAs archive row item) (plain : row.1.Plain) : Remains archive row item := by
  obtain ⟨content, same⟩ := kept
  refine ⟨?_, content, ?_, ?_⟩
  · rw [same]
    rfl
  · rw [same]
    exact toStamp_ofStamp row.1.stamp plain.date
  · rw [same]
    rfl

theorem Remains.again {archive : Archive} {row : Entry × Nat} {item later : Item}
    (remains : Remains archive row item) (renewed : Renewed item later) (plain : row.1.Plain) :
    Remains archive row later := by
  have small : row.1.attributes < 0x100000000 := plain.attributes
  refine ⟨renewed.name.trans remains.name, ?_, ?_, ?_⟩
  · rw [renewed.content]
    exact remains.content
  · rw [renewed.stamp (by rw [remains.stamp]; exact plain.time)
      (by rw [remains.stamp]; exact plain.date), remains.stamp]
  · rw [renewed.attributes, remains.attributes, Nat.mod_eq_of_lt small]

theorem remains_names {archive : Archive} {rows : List (Entry × Nat)} {items : List Item}
    (all : List.Forall₂ (Remains archive) rows items) :
    items.map Item.name = rows.map fun row => row.1.name := by
  induction all with
  | nil => rfl
  | cons first _ ih => rw [List.map_cons, List.map_cons, ih, first.name]

/-- The last step for each name, in the order of these steps. -/
def lastSteps : List (String × Bytes) → List (String × Bytes)
  | [] => []
  | step :: rest =>
      if step.1 ∈ rest.map Prod.fst then lastSteps rest else step :: lastSteps rest

theorem lastSteps_append (steps : List (String × Bytes)) (step : String × Bytes) :
    lastSteps (steps ++ [step]) =
      (lastSteps steps).filter (fun earlier => earlier.1 ≠ step.1) ++ [step] := by
  induction steps with
  | nil => simp [lastSteps]
  | cons first rest ih =>
      rw [List.cons_append, lastSteps, lastSteps, ih]
      by_cases later : first.1 ∈ rest.map Prod.fst
      · have still : first.1 ∈ (rest ++ [step]).map Prod.fst := by
          rw [List.map_append]
          exact List.mem_append_left _ later
        rw [if_pos still, if_pos later]
      · by_cases same : first.1 = step.1
        · have now : first.1 ∈ (rest ++ [step]).map Prod.fst := by simp [same]
          rw [if_pos now, if_neg later, List.filter_cons_of_neg (by simp [same])]
        · have never : first.1 ∉ (rest ++ [step]).map Prod.fst := by
            rw [List.map_append, List.mem_append]
            simpa [same] using later
          rw [if_neg never, if_neg later, List.filter_cons_of_pos (by simp [same]),
            List.cons_append]

theorem lastSteps_names (steps : List (String × Bytes)) :
    (lastSteps steps).map Prod.fst = (steps.map Prod.fst).dedup := by
  induction steps with
  | nil => rfl
  | cons first rest ih =>
      rw [lastSteps, List.map_cons]
      by_cases later : first.1 ∈ rest.map Prod.fst
      · rw [if_pos later, ih, List.dedup_cons_of_mem later]
      · rw [if_neg later, List.map_cons, ih, List.dedup_cons_of_notMem later]

theorem mem_lastSteps (steps : List (String × Bytes)) :
    ∀ step ∈ lastSteps steps, step ∈ steps := by
  induction steps with
  | nil => exact fun step member => member
  | cons first rest ih =>
      intro step member
      rw [lastSteps] at member
      split at member
      · exact List.mem_cons_of_mem _ (ih step member)
      · rcases List.mem_cons.mp member with rfl | later
        · exact List.mem_cons_self
        · exact List.mem_cons_of_mem _ (ih step later)

/-- Some rebuild, whatever the paths and the alignment, makes a file out of a file. -/
def RebuiltTo (decoders : Decoders) (deflate : Bytes → Bytes) (file : Bytes)
    (step : String × Bytes) (made : Bytes) : Prop :=
  ∃ source output alignment session after rebuilt,
    session.files.read source = .ok file ∧
      (rebuildFile deflate source step.1 step.2 output alignment decoders).perform session =
        (.ok rebuilt, after) ∧
      after.files.read output = .ok made

inductive Chained (decoders : Decoders) (deflate : Bytes → Bytes) (original : Bytes) :
    List (String × Bytes) → Bytes → Prop
  | first {step : String × Bytes} {made : Bytes}
      (ran : RebuiltTo decoders deflate original step made) :
      Chained decoders deflate original [step] made
  | next {steps : List (String × Bytes)} {step : String × Bytes} {before made : Bytes}
      (chained : Chained decoders deflate original steps before)
      (ran : RebuiltTo decoders deflate before step made) :
      Chained decoders deflate original (steps ++ [step]) made

theorem rebuiltTo_of (decoders : Decoders) (deflate : Bytes → Bytes) (source output : Path)
    (step : String × Bytes) (alignment : Int) (session after : Session) (rebuilt : Rebuilt)
    (done : (rebuildFile deflate source step.1 step.2 output alignment decoders).perform session =
      (.ok rebuilt, after)) :
    ∃ file, session.files.read source = .ok file ∧
      after.files.read output = .ok rebuilt.bytes ∧
      RebuiltTo decoders deflate file step rebuilt.bytes := by
  obtain ⟨file, _, emptied, found, _, _, _, written⟩ :=
    rebuildFile_ok decoders deflate source output _ _ alignment session after rebuilt done
  have left := Files.write_read emptied _ output _ written
  exact ⟨file, found, left, source, output, alignment, session, after, rebuilt, found, done, left⟩

theorem RebuiltTo.rewritten {decoders : Decoders} {deflate : Bytes → Bytes} {file made : Bytes}
    {step : String × Bytes} (ran : RebuiltTo decoders deflate file step made) :
    ∃ archive change rebuilt kept last, Zip.readWith decoders file = .ok archive ∧
      change.name = step.1 ∧ change.content = step.2 ∧
      Rewritten deflate archive change rebuilt kept last ∧
      made = rebuilt.bytes := by
  obtain ⟨source, output, alignment, session, after, rebuilt, given, done, left⟩ := ran
  obtain ⟨_, archive, emptied, found, read, outcome, _, written⟩ :=
    rebuildFile_ok decoders deflate source output _ _ alignment session after rebuilt done
  rw [found, Except.ok.injEq] at given
  subst given
  obtain ⟨kept, last, rewritten⟩ := (rebuild_eq_ok ..).mp outcome
  rw [Files.write_read emptied _ output _ written, Except.ok.injEq] at left
  exact ⟨archive, _, rebuilt, kept, last, read, rfl, rfl, rewritten, left.symm⟩

/-- The rows of an archive that neither bear the name of a step nor belong to a signature. -/
def untouched (archive : Archive) (steps : List (String × Bytes)) : List (Entry × Nat) :=
  archive.entries.zipIdx.filter fun row =>
    row.1.name ∉ steps.map Prod.fst ∧ isSigningMetadata row.1.name = false

/-- A file that is made of what the steps leave of an archive, and of the last step for each name
behind it. -/
structure Composed (deflate : Bytes → Bytes) (archive : Archive) (steps : List (String × Bytes))
    (older newer : List Item) (placed : List Placed) : Prop where
  kept : List.Forall₂ (Remains archive) (untouched archive steps) older
  added : newer.map member = lastSteps steps
  archived : ∃ alignment, Archived deflate alignment (older ++ newer) placed

section

variable {decoders : Decoders} {deflate : Bytes → Bytes} {archive : Archive}
  {steps : List (String × Bytes)} {step : String × Bytes} {older newer : List Item}
  {placed : List Placed}

theorem untouched_append :
    untouched archive (steps ++ [step]) =
      (untouched archive steps).filter fun row => row.1.name ≠ step.1 := by
  rw [untouched, untouched, List.filter_filter]
  refine List.filter_congr fun row _ => ?_
  rw [List.map_append, Bool.eq_iff_iff]
  simp only [List.mem_append, List.map_cons, List.map_nil, List.mem_singleton, decide_eq_true_eq,
    Bool.and_eq_true, not_or]
  tauto

/-- What every name of the sequence has to be: no metadata of a signature, and without NUL. -/
def Usable (name : String) : Prop :=
  NulFree name ∧ isSigningMetadata name = false

theorem Composed.usable (done : Composed deflate archive steps older newer placed)
    (free : ∀ entry ∈ archive.entries, NulFree entry.name) (fine : ∀ step ∈ steps, Usable step.1) :
    ∀ item ∈ older ++ newer, NulFree item.name ∧ isSigningMetadata item.name = false := by
  intro item inside
  rcases List.mem_append.mp inside with old | new
  · obtain ⟨row, here, remains⟩ := Rows.some_left done.kept item old
    obtain ⟨inArchive, chosen⟩ := List.mem_filter.mp here
    simp only [decide_eq_true_eq] at chosen
    rw [remains.name]
    exact ⟨free row.1 (List.fst_mem_of_mem_zipIdx inArchive), chosen.2⟩
  · have taken : member item ∈ lastSteps steps := done.added ▸ List.mem_map_of_mem new
    exact fine _ (mem_lastSteps steps _ taken)

theorem composed_first {change : Replacement} {rebuilt : Rebuilt} {kept : List Item} {last : Item}
    (done : Rewritten deflate archive change rebuilt kept last)
    (plain : ∀ entry ∈ archive.entries, entry.Plain) (free : NulFree change.name) :
    Composed deflate archive [(change.name, change.content)] kept [last] rebuilt.placed := by
  refine ⟨?_, ?_, change.alignment, done.archived⟩
  · have same : untouched archive [(change.name, change.content)] =
        archive.entries.zipIdx.filter fun row => isKept change row.1 := by
      refine List.filter_congr fun row _ => ?_
      simp [isKept, isReplaced, beq_eq_decide]
    rw [same]
    refine (Rows.with_members done.others).imp ?_
    rintro row item ⟨inside, _, as⟩
    exact as.remains (plain row.1 (List.fst_mem_of_mem_zipIdx (List.mem_filter.mp inside).1))
  · rw [List.map_singleton, done.final free]
    rfl

-- What is older and what is newer go through the rebuild side by side; only the entry of the
-- step's name falls out, on either side, and comes back at the end.
theorem Composed.next (done : Composed deflate archive steps older newer placed)
    (inverts : Deflate.Inverts deflate) (plain : ∀ entry ∈ archive.entries, entry.Plain)
    (fine : ∀ step ∈ steps, Usable step.1) (middle : Archive)
    (read : Zip.readWith decoders (archiveBytes placed) = .ok middle) {change : Replacement}
    {rebuilt : Rebuilt} {kept : List Item} {last : Item}
    (ran : Rewritten deflate middle change rebuilt kept last) (free : NulFree change.name) :
    ∃ front back,
      Composed deflate archive (steps ++ [(change.name, change.content)]) front (back ++ [last])
        rebuilt.placed := by
  obtain ⟨alignment, archived⟩ := done.archived
  have usable := done.usable (fun entry member => (plain entry member).free) fine
  have renewed := archived.renewed inverts usable middle read ran
  rw [List.filter_append] at renewed
  obtain ⟨front, back, rfl, old, new⟩ := Rows.split renewed
  refine ⟨front, back, ?kept, ?added, change.alignment, ?archived⟩
  case kept =>
    have rows := List.rel_filter (p := fun row => decide (row.1.name ≠ change.name))
      (q := fun item => decide (item.name ≠ change.name)) (by
        rintro row item ⟨_, _, remains⟩
        simp only [remains.name]) (Rows.with_members done.kept)
    rw [untouched_append]
    refine (Rows.partners (Rows.swapped rows) old).imp ?_
    rintro row later ⟨item, _, ⟨inside, _, remains⟩, again⟩
    exact remains.again again
      (plain row.1 (List.fst_mem_of_mem_zipIdx (List.mem_filter.mp inside).1))
  case added =>
    rw [lastSteps_append, ← done.added, List.filter_map, List.map_append, renewed_members new,
      List.map_singleton, ran.final free]
    rfl
  case archived =>
    have whole := ran.archived
    rwa [List.append_assoc] at whole

theorem composed_chain {original final : Bytes} (inverts : Deflate.Inverts deflate)
    (chained : Chained decoders deflate original steps final)
    (fine : ∀ step ∈ steps, Usable step.1) :
    ∃ archive older newer placed, Zip.readWith decoders original = .ok archive ∧
      final = archiveBytes placed ∧ Composed deflate archive steps older newer placed := by
  induction chained with
  | @first step made ran =>
      obtain ⟨archive, change, rebuilt, kept, last, read, named, content, rewritten, rfl⟩ :=
        ran.rewritten
      have free : NulFree change.name := named ▸ (fine step List.mem_cons_self).1
      have composed := composed_first rewritten (read_plain original archive read) free
      rw [named, content] at composed
      exact ⟨archive, kept, [last], rebuilt.placed, read, rfl, composed⟩
  | @next steps step before made chained ran ih =>
      obtain ⟨archive, older, newer, placed, read, rfl, composed⟩ :=
        ih fun step member => fine step (List.mem_append_left _ member)
      obtain ⟨middle, change, rebuilt, kept, last, reread, named, content, rewritten, rfl⟩ :=
        ran.rewritten
      have free : NulFree change.name :=
        named ▸ (fine step (List.mem_append_right _ List.mem_cons_self)).1
      obtain ⟨front, back, grown⟩ := composed.next inverts (read_plain original archive read)
        (fun step member => fine step (List.mem_append_left _ member)) middle reread rewritten free
      rw [named, content] at grown
      exact ⟨archive, front, back ++ [last], rebuilt.placed, read, rfl, grown⟩

end

/-- What the strict reading finds of a row: its name and bytes, its time and date, and its external
attributes. -/
structure Found (archive : Archive) (row : Entry × Nat) (found : LocalEntry × CentralEntry) :
    Prop where
  content : ∃ content, archive.contentAt wholeWindow row.2 row.1 = .ok content ∧
    found.1.Holds row.1.name content
  time : (found.1.header.time : Int) = row.1.stamp.time
  date : (found.1.header.date : Int) = row.1.stamp.date
  attributes : found.2.attributes = row.1.attributes

theorem rows_of_placed (place : Nat) (placed : List Placed) :
    ∃ rows : List (LocalEntry × CentralEntry),
      rows.map Prod.fst = placed.map Placed.localEntry ∧
      rows.map Prod.snd = centralEntries place placed ∧
      List.Forall₂ (fun (entry : Placed) row => row.1 = entry.localEntry ∧
        row.2.attributes = entry.attributes) placed rows := by
  obtain ⟨rows, locals, directory, all⟩ := placed_rows place placed
  refine ⟨rows, locals, directory, all.imp ?_⟩
  rintro entry row ⟨here, rfl⟩
  exact ⟨rfl, rfl⟩

theorem Remains.found {deflate : Bytes → Bytes} {alignment : Int} {archive : Archive}
    {row : Entry × Nat} {item : Item} {placed : Placed} {found : LocalEntry × CentralEntry}
    (remains : Remains archive row item) (as : Places deflate alignment item placed)
    (inverts : Deflate.Inverts deflate) (plain : row.1.Plain) (header : found.1 = placed.localEntry)
    (attributes : found.2.attributes = placed.attributes) : Found archive row found := by
  have stamp : placed.stamp = row.1.stamp := PlacedAs.stamp as ▸ remains.stamp
  have small : row.1.attributes < 0x100000000 := plain.attributes
  refine ⟨⟨item.content, remains.content, ?_⟩, ?_, ?_, ?_⟩
  · rw [header, ← remains.name]
    exact PlacedAs.holds as inverts
  · rw [header, ← stamp]
    exact Int.toNat_of_nonneg (by rw [stamp]; exact plain.time)
  · rw [header, ← stamp]
    exact Int.toNat_of_nonneg (by rw [stamp]; exact plain.date)
  · rw [attributes, PlacedAs.attributes as, remains.attributes, Nat.mod_eq_of_lt small]

/-- After any number of rebuilds the archive has what its first source had, apart from signatures
and the names of the steps, and behind that each name of the steps once, with what the last step for
it brought. -/
theorem chained_entries (decoders : Decoders) (deflate : Bytes → Bytes) (original final : Bytes)
    (steps : List (String × Bytes)) (inverts : Deflate.Inverts deflate)
    (fine : ∀ step ∈ steps, Usable step.1)
    (chained : Chained decoders deflate original steps final) :
    ∃ archive older newer, Zip.readWith decoders original = .ok archive ∧
      Laid final ((older ++ newer).map Prod.fst) ((older ++ newer).map Prod.snd) ∧
      List.Forall₂ (Found archive) (untouched archive steps) older ∧
      List.Forall₂ (fun step (found : LocalEntry × CentralEntry) => found.1.Holds step.1 step.2)
        (lastSteps steps) newer ∧
      (lastSteps steps).map Prod.fst = (steps.map Prod.fst).dedup ∧
      ∀ opened, Zip.readWith decoders final = .ok opened →
        opened.names = (untouched archive steps).map (fun row => row.1.name) ++
          (steps.map Prod.fst).dedup := by
  obtain ⟨archive, kept, added, placed, read, rfl, composed⟩ :=
    composed_chain inverts chained fine
  obtain ⟨alignment, archived⟩ := composed.archived
  have plain := read_plain original archive read
  have usable := composed.usable (fun entry member => (plain entry member).free) fine
  obtain ⟨rows, locals, directory, all⟩ := rows_of_placed (localBytes placed).length placed
  have laid := laid_archiveBytes placed (Places.all_fit archived.places) archived.stacked
    archived.few archived.size archived.offset
  rw [← locals, ← directory] at laid
  obtain ⟨older, newer, rfl, old, new⟩ :=
    Rows.split (Rows.partners (Rows.swapped archived.places) all)
  refine ⟨archive, older, newer, read, laid, ?older, ?newer, lastSteps_names steps, ?opened⟩
  case older =>
    refine (Rows.partners (Rows.swapped (Rows.with_members composed.kept)) old).imp ?_
    rintro row found ⟨item, _, ⟨inside, _, remains⟩, entry, _, as, header, attributes⟩
    exact remains.found as inverts
      (plain row.1 (List.fst_mem_of_mem_zipIdx (List.mem_filter.mp inside).1)) header attributes
  case newer =>
    rw [← composed.added, List.forall₂_map_left_iff]
    refine new.imp ?_
    rintro item found ⟨entry, _, as, header, _⟩
    rw [header]
    exact PlacedAs.holds as inverts
  case opened =>
    intro opened reading
    have entries := (archived.opened (fun item member => (usable item member).1) opened reading).2.1
    have names : placed.map Placed.name = (kept ++ added).map Item.name :=
      Places.names archived.places
    have last : added.map Item.name = (steps.map Prod.fst).dedup := by
      rw [← lastSteps_names, ← composed.added, List.map_map]
      rfl
    rw [Archive.names, entries, List.map_map, ← remains_names composed.kept, ← last,
      ← List.map_append, ← names]
    rfl

/-- Three rebuilds in one run, two of them of one name. -/
def givenChain : Action Unit := do
  let _ ← rebuildFile (Deflate.packing greeting packedGreeting) ⟨0, ["in.apk"]⟩ "a" [9]
    ⟨0, ["one.apk"]⟩ 4
  let _ ← rebuildFile (Deflate.packing greeting packedGreeting) ⟨0, ["one.apk"]⟩ "c" [8]
    ⟨0, ["two.apk"]⟩ 16
  let _ ← rebuildFile (Deflate.packing greeting packedGreeting) ⟨0, ["two.apk"]⟩ "a" greeting
    ⟨0, ["three.apk"]⟩ 4

theorem chained_given :
    Deflate.Inverts (Deflate.packing greeting packedGreeting) ∧
      (∀ step ∈ [("a", [9]), ("c", [8]), ("a", greeting)], Usable step.1) ∧
      ∃ original final archive older newer,
        givenSession.files.read ⟨0, ["in.apk"]⟩ = .ok original ∧
        Chained noDecoders (Deflate.packing greeting packedGreeting) original
          [("a", [9]), ("c", [8]), ("a", greeting)] final ∧
        Zip.readWith noDecoders original = .ok archive ∧
        List.Forall₂ (Found archive)
          (untouched archive [("a", [9]), ("c", [8]), ("a", greeting)]) older ∧
        List.Forall₂ (fun step (found : LocalEntry × CentralEntry) => found.1.Holds step.1 step.2)
          [("c", [8]), ("a", greeting)] newer := by
  have fine : ∀ step ∈ [("a", [9]), ("c", [8]), ("a", greeting)], Usable step.1 := by
    intro step member
    simp only [List.mem_cons, List.not_mem_nil, or_false] at member
    rcases member with rfl | rfl | rfl <;> exact ⟨by decide, by decide⟩
  have works : (givenChain.perform givenSession).1.toOption = some () := by decide +kernel
  have run := perform_of_toOption givenChain givenSession () works
  generalize (givenChain.perform givenSession).2 = final at run
  simp only [givenChain, bind_eq_ok] at run
  obtain ⟨first, one, ranFirst, second, two, ranSecond, third, three, ranThird, _⟩ := run
  obtain ⟨original, found, leftFirst, stepFirst⟩ := rebuiltTo_of _ _ _ _ ("a", [9]) _ _ _ _ ranFirst
  obtain ⟨_, foundSecond, leftSecond, stepSecond⟩ :=
    rebuiltTo_of _ _ _ _ ("c", [8]) _ _ _ _ ranSecond
  obtain ⟨_, foundThird, _, stepThird⟩ := rebuiltTo_of _ _ _ _ ("a", greeting) _ _ _ _ ranThird
  rw [leftFirst, Except.ok.injEq] at foundSecond
  rw [leftSecond, Except.ok.injEq] at foundThird
  rw [← foundSecond] at stepSecond
  rw [← foundThird] at stepThird
  have chained := Chained.next (Chained.next (Chained.first stepFirst) stepSecond) stepThird
  have last : lastSteps [("a", [9]), ("c", [8]), ("a", greeting)] =
      [("c", [8]), ("a", greeting)] := by simp [lastSteps]
  obtain ⟨archive, older, newer, read, _, old, new, _⟩ :=
    chained_entries noDecoders _ original third.bytes _ greeting_inverts fine chained
  rw [last] at new
  exact ⟨greeting_inverts, fine, original, third.bytes, archive, older, newer, found, chained, read,
    old, new⟩

end DexGraft.Apk
