import DexGraft.Proofs.Zip.ReadBack
import DexGraft.Zip.Layout

/-!
Where the data of written entries are. The reader computes the place from the
sizes in each local header, and comes to where the writer put the data.
-/
namespace DexGraft.Zip

theorem Stacked.step {start : Nat} {first : Placed} {rest : List Placed}
    (stacked : Stacked start (first :: rest)) :
    first.offset = start ∧ Stacked (start + first.localRecord.length) rest :=
  match stacked with
  | .next after => ⟨rfl, after⟩

theorem Stacked.there {start : Nat} {placed : List Placed} (stacked : Stacked start placed)
    (file rest : Bytes) (front : file.drop start = localBytes placed ++ rest) :
    ∀ entry ∈ placed, ∃ more, file.drop entry.offset = entry.localRecord ++ more := by
  induction stacked with
  | none => simp
  | @next first others after ih =>
      rw [localBytes, List.flatMap_cons, List.append_assoc] at front
      intro entry member
      rcases List.mem_cons.mp member with rfl | later
      · exact ⟨_, front⟩
      · apply ih _ entry later
        rw [← List.drop_drop, front, List.drop_left' rfl]
        rfl

theorem Stacked.from_start {start : Nat} {placed : List Placed} (stacked : Stacked start placed) :
    ∀ entry ∈ placed, start ≤ entry.offset := by
  induction stacked with
  | none => simp
  | @next first others after ih =>
      intro entry member
      rcases List.mem_cons.mp member with rfl | later
      · exact Nat.le_refl _
      · exact Nat.le_trans (Nat.le_add_right _ _) (ih entry later)

theorem Stacked.sorted {start : Nat} {placed : List Placed} (stacked : Stacked start placed) :
    placed.Pairwise fun first second => first.offset ≤ second.offset := by
  induction stacked with
  | none => exact List.Pairwise.nil
  | @next first others after ih =>
      refine List.Pairwise.cons (fun entry member => ?_) ih
      exact Nat.le_trans (Nat.le_add_right _ _) (after.from_start entry member)

theorem Stacked.around {start : Nat} {front back : List Placed} {entry : Placed}
    (stacked : Stacked start (front ++ entry :: back)) :
    (∀ other ∈ front, other.offset < entry.offset) ∧
      (∀ other ∈ back, entry.offset + entry.localRecord.length ≤ other.offset) ∧
      entry.offset + entry.localRecord.length ≤
        start + (localBytes (front ++ entry :: back)).length := by
  induction front generalizing start with
  | nil =>
      obtain ⟨here, after⟩ := stacked.step
      refine ⟨by simp, fun other member => ?_, ?_⟩
      · rw [here]
        exact after.from_start other member
      · rw [here]
        simp [localBytes]
  | cons first rest ih =>
      obtain ⟨here, after⟩ := stacked.step
      obtain ⟨before, behind, stop⟩ := ih after
      have size := localRecord_length first
      have header : localHeaderSize = 30 := rfl
      refine ⟨fun other member => ?_, behind, ?_⟩
      · rcases List.mem_cons.mp member with rfl | later
        · have onward := after.from_start entry (by simp)
          omega
        · exact before other later
      · have whole : (localBytes (first :: rest ++ entry :: back)).length =
            first.localRecord.length + (localBytes (rest ++ entry :: back)).length := by
          simp [localBytes]
        omega

theorem bound_placed (archive : Archive) (front back : List Placed) (entry : Placed)
    (stacked : Stacked 0 (front ++ entry :: back))
    (entries : archive.entries = (front ++ entry :: back).map Placed.entry)
    (start : archive.directoryStart = (localBytes (front ++ entry :: back)).length) :
    ((entry.offset + entry.localRecord.length : Nat) : Int) ≤
      archive.bound front.length entry.entry := by
  obtain ⟨before, behind, stop⟩ := stacked.around
  have offsets : archive.entries.map Entry.offset =
      front.map (fun other => (other.offset : Int)) ++
        (entry.offset : Int) :: back.map (fun other => (other.offset : Int)) := by
    rw [entries, List.map_map, List.map_append]
    rfl
  have fresh : (front.map fun other => (other.offset : Int)).contains (entry.offset : Int) =
      false := by
    rw [Bool.eq_false_iff, ne_eq, List.contains_iff_mem, List.mem_map]
    rintro ⟨other, member, same⟩
    have earlier := before other member
    omega
  have spot : entry.entry.offset = (entry.offset : Int) := rfl
  simp only [Archive.bound, offsets, spot]
  rw [List.take_left' (by simp), fresh]
  simp only [Bool.false_eq_true, if_false]
  cases least : ((front.map (fun other => (other.offset : Int)) ++
      (entry.offset : Int) :: back.map (fun other => (other.offset : Int))).filter
        ((entry.offset : Int) < ·)).min? with
  | none =>
      rw [Option.getD_none, start]
      omega
  | some next =>
      obtain ⟨member, beyond⟩ := List.mem_filter.mp (List.min?_mem least)
      rw [decide_eq_true_eq] at beyond
      rw [Option.getD_some]
      rcases List.mem_append.mp member with old | later
      · obtain ⟨other, inside, rfl⟩ := List.mem_map.mp old
        have earlier := before other inside
        omega
      · rcases List.mem_cons.mp later with rfl | later
        · omega
        · obtain ⟨other, inside, rfl⟩ := List.mem_map.mp later
          have onward := behind other inside
          omega

theorem byOffset_placed (archive : Archive) (placed : List Placed) (start : Nat)
    (stacked : Stacked start placed) (entries : archive.entries = placed.map Placed.entry) :
    archive.byOffset = placed.map Placed.entry := by
  rw [Archive.byOffset, entries]
  apply List.mergeSort_of_pairwise
  rw [List.pairwise_map]
  refine stacked.sorted.imp fun {first second} order => ?_
  simpa [Placed.entry] using order

theorem dataStart_placed (archive : Archive) (placed : Placed) (rest : Bytes) (fits : placed.Fits)
    (there : archive.file.drop placed.offset = placed.localRecord ++ rest) :
    archive.dataStart placed.entry = .ok (placed.localEntry.dataPlace : Int) := by
  obtain ⟨_, nameSize, extraSize, _⟩ := localRecord_fields placed rest fits
  have narrow : placed.offset < 4294967296 := fits.offset
  have from_ : archive.fromPlace (placed.entry.offset + 26) =
      .ok ((placed.localRecord ++ rest).drop 26) := by
    have near : (placed.entry.offset : Int) + 26 = ((placed.offset + 26 : Nat) : Int) := rfl
    have limit : Int.ofNat positionLimit = 9223372036854775808 := rfl
    rw [near, Archive.fromPlace, limit, if_neg (by omega), if_neg (by omega), if_neg (by omega),
      Int.toNat_natCast, ← List.drop_drop, there]
  have long : ¬((placed.localRecord ++ rest).drop 26).length < 4 := by
    rw [List.length_drop, List.length_append, localRecord_length]
    have header : localHeaderSize = 30 := rfl
    omega
  have sizes : Bytes.field ((placed.localRecord ++ rest).drop 26) 0 2 = placed.nameBytes.length ∧
      Bytes.field ((placed.localRecord ++ rest).drop 26) 2 2 = placed.padding := by
    rw [Bytes.field_drop, Bytes.field_drop]
    exact ⟨nameSize, extraSize⟩
  simp only [Archive.dataStart, from_, bind, Except.bind, long, if_false, pure, Except.pure]
  rw [sizes.1, sizes.2]
  simp [LocalEntry.dataPlace, Placed.localEntry, Placed.entry]

theorem data_placed (file rest : Bytes) (placed : Placed)
    (there : file.drop placed.offset = placed.localRecord ++ rest) :
    (file.drop placed.localEntry.dataPlace).take placed.data.length = placed.data := by
  have spot : placed.localEntry.dataPlace =
      placed.offset + (localHeaderSize + (placed.nameBytes.length + placed.padding)) := by
    simp [LocalEntry.dataPlace, Placed.localEntry, Nat.add_assoc]
  rw [spot, ← List.drop_drop, there, ← List.drop_drop, localRecord_drop, ← List.append_assoc,
    List.drop_left' (by simp), List.take_left' rfl]

end DexGraft.Zip
