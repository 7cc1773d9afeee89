import DexGraft.Proofs.Apk.Archive
import DexGraft.Proofs.Zip.DataPlaces

/-!
Alignment of rebuilt archives. The writer's padding brings stored data into line
wherever an entry comes to stand, and the audit, which reads the local headers
again, finds the data exactly there.
-/
namespace DexGraft.Apk

open Zip DexGraft.Action

/-- How an entry of a rebuilt archive holds a member: stored and in line, or deflated without
padding; what must be stored is. -/
structure Positioned (alignment : Int) (entry : LocalEntry) (member : String × Bytes) : Prop where
  name : decodeName (entry.header.flags.testBit unicodeBit) entry.name = .ok member.1
  method : entry.header.method = Method.stored.number ∨ entry.header.method = Method.deflated.number
  stored : entry.header.method = Method.stored.number →
    entry.InLine (alignmentFor member.1 alignment) ∧ entry.data = member.2
  deflated : entry.header.method = Method.deflated.number → entry.extra = []
  must : mustStore member.1 = true → entry.header.method = Method.stored.number

/-- What the audit says of an entry: the true place of its data and, for a stored one, the bytes
that are found there. -/
structure Reported (file : Bytes) (row : EntryLayout) (entry : LocalEntry)
    (member : String × Bytes) : Prop where
  name : row.name = member.1
  method : row.method.number = entry.header.method
  place : row.dataOffset = entry.dataPlace
  content : row.method = .stored →
    (file.drop row.dataOffset.toNat).take member.2.length = member.2

theorem alignmentFor_positive (name : String) (alignment : Int) (positive : 1 ≤ alignment) :
    1 ≤ alignmentFor name alignment := by
  unfold alignmentFor
  split
  · decide
  · exact positive

def Settled (item : Item) : Prop :=
  mustStore item.name = true → item.packed = false

theorem settled_kept (entry : Entry) (content : Bytes) : Settled (keptItem entry content) := by
  intro must
  have named : mustStore entry.name = true := must
  simp [keptItem, named]

theorem settled_new (change : Replacement) (replaced : Option Entry) :
    Settled (newItem change replaced) := fun _ => rfl

theorem Places.positioned {deflate : Bytes → Bytes} {alignment : Int} {item : Item}
    {placed : Placed} (done : Places deflate alignment item placed) (settled : Settled item)
    (positive : 1 ≤ alignment) : Positioned alignment placed.localEntry (member item) := by
  obtain ⟨stored, deflated, _, kind⟩ :=
    PlacedAs.padded done (alignmentFor_positive item.name alignment positive)
  have decoded := PlacedAs.decoded done
  refine ⟨decoded, ?_, stored, deflated, fun must => kind.mpr (settled must)⟩
  rcases done.fits.method with same | same
  · exact Or.inl (congrArg Method.number same)
  · exact Or.inr (congrArg Method.number same)

section

variable {decoders : Decoders} {deflate : Bytes → Bytes} {archive : Archive} {change : Replacement}
  {rebuilt : Rebuilt} {kept : List Item} {last : Item}

theorem Rewritten.settled (done : Rewritten deflate archive change rebuilt kept last) :
    ∀ item ∈ kept ++ [last], Settled item := by
  intro item inside
  rcases List.mem_append.mp inside with old | new
  · obtain ⟨row, _, _, same⟩ := Rows.some_left done.others item old
    rw [same]
    exact settled_kept row.1 item.content
  · rw [List.mem_singleton.mp new, done.new]
    exact settled_new change _

theorem Rewritten.positioned (done : Rewritten deflate archive change rebuilt kept last)
    (positive : 1 ≤ change.alignment) :
    List.Forall₂ (Positioned change.alignment) (rebuilt.placed.map Placed.localEntry)
      ((kept ++ [last]).map member) := by
  rw [List.forall₂_map_left_iff, List.forall₂_map_right_iff]
  refine (Rows.with_members (Rows.swapped done.places)).imp ?_
  rintro placed item ⟨_, given, as⟩
  exact Places.positioned as (done.settled item given) positive

theorem Rewritten.aligned (done : Rewritten deflate archive change rebuilt kept last)
    (positive : 1 ≤ change.alignment) :
    rebuilt.aligned = ((rebuilt.written.zip (rebuilt.placed.map Placed.localEntry)).filter
      fun row => row.2.extra ≠ []).map Prod.fst := by
  have same : ∀ placed ∈ rebuilt.placed,
      placed.padded = decide (placed.localEntry.extra ≠ []) := by
    intro placed inside
    obtain ⟨item, _, as⟩ := Rows.some_left done.places placed inside
    obtain ⟨_, _, padded, _⟩ :=
      PlacedAs.padded as (alignmentFor_positive item.name change.alignment positive)
    rw [Bool.eq_iff_iff, decide_eq_true_iff]
    exact padded
  rw [Rebuilt.aligned, Rebuilt.written, List.zip_map', List.filter_map, List.map_map,
    List.filter_congr same]
  rfl

theorem Rewritten.opened (done : Rewritten deflate archive change rebuilt kept last)
    (free : ∀ entry ∈ archive.entries, NulFree entry.name) (opened : Archive)
    (read : Zip.readWith decoders rebuilt.bytes = .ok opened) :
    opened.file = rebuilt.bytes ∧ opened.entries = rebuilt.placed.map Placed.entry := by
  rw [read_archiveBytes rebuilt.placed (Places.all_fit done.places)
    (Places.all_named done.places (done.nulFree free)) done.few done.size done.offset opened read]
  exact ⟨rfl, rfl⟩

theorem Rewritten.there (done : Rewritten deflate archive change rebuilt kept last) :
    ∀ placed ∈ rebuilt.placed,
      ∃ rest, rebuilt.bytes.drop placed.offset = placed.localRecord ++ rest :=
  done.stacked.there rebuilt.bytes _ (by rw [Rebuilt.bytes, archiveBytes, List.append_assoc]; rfl)

def reportOf (alignment : Int) (placed : Placed) : EntryLayout :=
  { name := placed.name
    method := placed.method
    dataOffset := placed.localEntry.dataPlace
    aligned := (placed.localEntry.dataPlace : Int) % alignmentFor placed.name alignment == 0
    mustStore := mustStore placed.name
    signing := isSigningMetadata placed.name }

theorem Rewritten.layout (done : Rewritten deflate archive change rebuilt kept last)
    (positive : 1 ≤ change.alignment) (free : ∀ entry ∈ archive.entries, NulFree entry.name)
    (opened : Archive) (read : Zip.readWith decoders rebuilt.bytes = .ok opened) (output : Path)
    (session : Session) (there : session.files.read output = .ok rebuilt.bytes) :
    (layout output change.alignment decoders).perform session =
      (.ok (rebuilt.placed.map (reportOf change.alignment)), session) := by
  obtain ⟨file, entries⟩ := done.opened free opened read
  have each : ∀ placed ∈ rebuilt.placed, entryLayout opened change.alignment placed.entry =
      .ok (reportOf change.alignment placed) := by
    intro placed inside
    obtain ⟨rest, spot⟩ := done.there placed inside
    have start := dataStart_placed opened placed rest (Places.all_fit done.places placed inside)
      (by rw [file]; exact spot)
    have nonzero : alignmentFor placed.name change.alignment ≠ 0 := by
      have bound := alignmentFor_positive placed.name change.alignment positive
      omega
    have sameName : placed.entry.name = placed.name := rfl
    simp only [entryLayout, start, bind, Except.bind, sameName, nonzero, if_false, pure,
      Except.pure]
    rfl
  have rows := Checked.mapM_all (entryLayout opened change.alignment) Placed.entry
    (reportOf change.alignment) rebuilt.placed each
  simp only [Apk.layout, rewording_eq_ok, bind_eq_ok, readArchive_eq_ok, zipResult_eq_ok]
  refine ⟨opened, session, ⟨rebuilt.bytes, there, read, rfl⟩, ?_, rfl⟩
  -- The audit goes by offset, and in a rebuilt archive the directory does too.
  rw [byOffset_placed opened rebuilt.placed 0 done.stacked entries]
  exact rows

theorem Rewritten.reported (done : Rewritten deflate archive change rebuilt kept last)
    (positive : 1 ≤ change.alignment) :
    List.Forall₂ (fun row (found : LocalEntry × (String × Bytes)) =>
        Reported rebuilt.bytes row found.1 found.2)
      (rebuilt.placed.map (reportOf change.alignment))
      ((rebuilt.placed.map Placed.localEntry).zip ((kept ++ [last]).map member)) := by
  rw [List.zip_map, List.forall₂_map_right_iff]
  refine Rows.zipped (fun row placed item =>
      Reported rebuilt.bytes row placed.localEntry (member item))
    (reportOf change.alignment) (Rows.swapped done.places) ?_
  intro placed inside item as
  obtain ⟨rest, spot⟩ := done.there placed inside
  refine ⟨as.name, rfl, rfl, fun plain => ?_⟩
  have data : placed.data = item.content :=
    ((PlacedAs.padded as (alignmentFor_positive item.name _ positive)).1
      (congrArg Method.number plain)).2
  change (rebuilt.bytes.drop placed.localEntry.dataPlace).take item.content.length = item.content
  rw [← data]
  exact data_placed rebuilt.bytes rest placed spot

theorem Rewritten.no_issue (done : Rewritten deflate archive change rebuilt kept last)
    (positive : 1 ≤ change.alignment) (placed : Placed) (inside : placed ∈ rebuilt.placed) :
    (reportOf change.alignment placed).issue? change.alignment = none := by
  obtain ⟨item, _, given, _, as⟩ := Rows.some_left (Rows.with_members done.places) placed inside
  by_cases must : mustStore placed.name = true
  · have unpacked := done.settled item given (by rwa [as.name] at must)
    have plain : placed.method = .stored := by
      rw [as.method, unpacked]
      rfl
    obtain ⟨inLine, _⟩ := (PlacedAs.padded as (alignmentFor_positive item.name _ positive)).1
      (congrArg Method.number plain)
    have even := Int.emod_eq_zero_of_dvd inLine.aligned
    rw [← as.name] at even
    simp [EntryLayout.issue?, reportOf, must, plain, even]
  · simp [EntryLayout.issue?, reportOf, must]

theorem Rewritten.verified (done : Rewritten deflate archive change rebuilt kept last)
    (positive : 1 ≤ change.alignment) (free : ∀ entry ∈ archive.entries, NulFree entry.name)
    (opened : Archive) (read : Zip.readWith decoders rebuilt.bytes = .ok opened) (output : Path)
    (session : Session) (there : session.files.read output = .ok rebuilt.bytes) :
    (verify output change.alignment decoders).perform session = (.ok [], session) := by
  have audited := done.layout positive free opened read output session there
  rw [verify, perform_bind_ok _ _ _ _ _ audited, perform_pure]
  have clean : (rebuilt.placed.map (reportOf change.alignment)).filterMap
      (fun row => row.issue? change.alignment) = [] := by
    rw [List.filterMap_eq_nil_iff]
    intro row inside
    obtain ⟨placed, here, rfl⟩ := List.mem_map.mp inside
    exact done.no_issue positive placed here
  rw [clean]

end

/-- In a rebuilt archive the data of all stored entries are in line, behind the least padding and
nothing but zeros, and what must be stored is. Whoever can open it finds all data where they are and
nothing to complain of. -/
theorem rebuildFile_aligned (decoders : Decoders) (deflate : Bytes → Bytes) (source output : Path)
    (name : String) (content : Bytes) (alignment : Int) (session after : Session)
    (rebuilt : Rebuilt) (positive : 1 ≤ alignment)
    (done : (rebuildFile deflate source name content output alignment decoders).perform session =
      (.ok rebuilt, after)) :
    ∃ file archive others locals directory,
      session.files.read source = .ok file ∧ Zip.readWith decoders file = .ok archive ∧
      Others archive name others ∧ after.files.read output = .ok rebuilt.bytes ∧
      Laid rebuilt.bytes locals directory ∧
      rebuilt.written = (others ++ [(cutAtNul name, content)]).map Prod.fst ∧
      List.Forall₂ (Positioned alignment) locals (others ++ [(cutAtNul name, content)]) ∧
      rebuilt.aligned =
        ((rebuilt.written.zip locals).filter fun row => row.2.extra ≠ []).map Prod.fst ∧
      ∀ opened, Zip.readWith decoders rebuilt.bytes = .ok opened →
        ∃ rows, (layout output alignment decoders).perform after = (.ok rows, after) ∧
          List.Forall₂ (fun row (found : LocalEntry × (String × Bytes)) =>
              Reported rebuilt.bytes row found.1 found.2)
            rows (locals.zip (others ++ [(cutAtNul name, content)])) ∧
          (verify output alignment decoders).perform after = (.ok [], after) := by
  obtain ⟨file, archive, emptied, found, read, outcome, _, written⟩ :=
    rebuildFile_ok decoders deflate source output name content alignment session after rebuilt done
  obtain ⟨kept, last, rewritten⟩ := (rebuild_eq_ok ..).mp outcome
  have there : after.files.read output = .ok rebuilt.bytes :=
    Files.write_read emptied _ output _ written
  have members : kept.map member ++ [(cutAtNul name, content)] = (kept ++ [last]).map member := by
    rw [List.map_append, List.map_singleton, rewritten.new]
    rfl
  have free := read_names file archive read
  refine ⟨file, archive, kept.map member, rebuilt.placed.map Placed.localEntry, _, found, read,
    rewritten.members, there, rewritten.laid, ?_⟩
  rw [members]
  refine ⟨?names, rewritten.positioned positive, rewritten.aligned positive, ?opened⟩
  case names =>
    rw [rewritten.written, List.map_map]
    rfl
  case opened =>
    intro opened reopened
    exact ⟨_, rewritten.layout positive free opened reopened output after there,
      rewritten.reported positive,
      rewritten.verified positive free opened reopened output after there⟩

theorem rebuildFile_given_aligned :
    (1 : Int) ≤ 6 ∧
      ∃ rebuilt after locals directory,
        (rebuildFile (Deflate.packing greeting packedGreeting) ⟨0, ["in.apk"]⟩ "lib/a.so" [9]
          ⟨0, ["out.apk"]⟩ 6).perform givenSession = (.ok rebuilt, after) ∧
        rebuilt.aligned = ["b", "a", "lib/a.so"] ∧ Laid rebuilt.bytes locals directory ∧
        (verify ⟨0, ["out.apk"]⟩ 6).perform after = (.ok [], after) := by
  have positive : (1 : Int) ≤ 6 := by decide
  have works : ((rebuildFile (Deflate.packing greeting packedGreeting) ⟨0, ["in.apk"]⟩ "lib/a.so"
      [9] ⟨0, ["out.apk"]⟩ 6).perform givenSession).1.toOption.map
        (fun rebuilt => (rebuilt.aligned, (Zip.readWith noDecoders rebuilt.bytes).isOk)) =
        some (["b", "a", "lib/a.so"], true) := by
    decide +kernel
  rcases done : (rebuildFile (Deflate.packing greeting packedGreeting) ⟨0, ["in.apk"]⟩ "lib/a.so"
    [9] ⟨0, ["out.apk"]⟩ 6).perform givenSession with ⟨fault | rebuilt, after⟩
  · rw [done] at works
    cases works
  · rw [done] at works
    injection works with both
    injection both with aligned readable
    obtain ⟨_, _, _, locals, directory, _, _, _, _, laid, _, _, _, opens⟩ :=
      rebuildFile_aligned noDecoders _ _ _ _ _ _ _ _ _ positive done
    cases opened : Zip.readWith noDecoders rebuilt.bytes with
    | error fault =>
        simp only [opened] at readable
        cases readable
    | ok archive =>
        obtain ⟨_, _, _, verified⟩ := opens archive opened
        exact ⟨positive, rebuilt, after, locals, directory, rfl, aligned, laid, verified⟩

end DexGraft.Apk
