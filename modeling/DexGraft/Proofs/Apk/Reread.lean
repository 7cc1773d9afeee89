import DexGraft.Proofs.Apk.Archive
import DexGraft.Proofs.Zip.Contents

/-!
Rebuilt archives as sources of further rebuilds. The entries that are read from
them are the items they were made of, and an item that is kept once more keeps
its name, its content, its stamp and its attributes.
-/
namespace DexGraft.Apk

open Zip DexGraft.Action

/-- Items that stand one behind the other in a file, which has nothing else in it. -/
structure Archived (deflate : Bytes → Bytes) (alignment : Int) (items : List Item)
    (placed : List Placed) : Prop where
  places : List.Forall₂ (Places deflate alignment) items placed
  stacked : Stacked 0 placed
  few : placed.length < Nat.pow 256 2
  size : (directoryBytes placed).length < Nat.pow 256 4
  offset : (localBytes placed).length < Nat.pow 256 4

/-- How an entry is read that was written for an item. Unless it bears a flag that the reader
refuses, it is read in any window. -/
structure Rereads (archive : Archive) (row : Entry × Nat) (item : Item) : Prop where
  name : row.1.name = item.name
  flags : row.1.flags = writtenFlags item.name item.flags
  method : row.1.method = if item.packed then .deflated else .stored
  stamp : 0 ≤ item.stamp.time → 0 ≤ item.stamp.date → row.1.stamp = item.stamp
  attributes : row.1.attributes = item.attributes % 0x100000000
  content : ∀ window, 0 < window → ∀ content,
    archive.contentAt window row.2 row.1 = .ok content → content = item.content
  readable : ¬Barred row.1.flags → ∃ data, archive.openEntry row.2 row.1 = .ok data ∧
    ∀ window, 0 < window → archive.contentAt window row.2 row.1 = .ok item.content

section

variable {deflate : Bytes → Bytes} {alignment : Int} {items : List Item} {placed : List Placed}
  {decoders : Decoders}

theorem Archived.opened (done : Archived deflate alignment items placed)
    (free : ∀ item ∈ items, NulFree item.name) (archive : Archive)
    (read : Zip.readWith decoders (archiveBytes placed) = .ok archive) :
    archive.file = archiveBytes placed ∧ archive.entries = placed.map Placed.entry ∧
      archive.directoryStart = (localBytes placed).length := by
  rw [read_archiveBytes placed (Places.all_fit done.places) (Places.all_named done.places free)
    done.few done.size done.offset archive read]
  exact ⟨rfl, rfl, rfl⟩

theorem Places.rereads {item : Item} {entry : Placed} (done : Places deflate alignment item entry)
    (inverts : Deflate.Inverts deflate) (free : NulFree item.name) (archive : Archive)
    (index : Nat) (rest : Bytes)
    (there : archive.file.drop entry.offset = entry.localRecord ++ rest)
    (room : (entry.offset + entry.localRecord.length : Nat) ≤ archive.bound index entry.entry) :
    Rereads archive (entry.entry, index) item := by
  have named := PlacedAs.named done free
  have opens := openEntry_placed archive index entry rest
  refine ⟨done.name, done.flags, done.method, ?stamp, done.attributes, ?content, ?readable⟩
  case stamp =>
    intro time date
    have same : entry.stamp = item.stamp := done.stamp
    change (⟨entry.stamp.time.toNat, entry.stamp.date.toNat⟩ : Stamp) = item.stamp
    rw [same, Int.toNat_of_nonneg time, Int.toNat_of_nonneg date]
  case content =>
    intro window positive content found
    obtain ⟨data, opened, _⟩ := Checked.bind_eq_ok.mp found
    obtain ⟨rfl, _⟩ := (opens data done.fits named there).mp opened
    rw [PlacedAs.contentAt done (fun _ => inverts) archive window index positive rest opened] at found
    exact (Except.ok.inj found).symm
  case readable =>
    intro free
    have clear : entry.flags.testBit encryptedBit = false := by
      rw [PlacedAs.flags done]
      exact writtenFlags_clear ..
    have opened := (opens _ done.fits named there).mpr ⟨rfl, readable_of_unbarred free clear, room⟩
    exact ⟨_, opened, fun window positive =>
      PlacedAs.contentAt done (fun _ => inverts) archive window index positive rest opened⟩

theorem Archived.rereads (done : Archived deflate alignment items placed)
    (inverts : Deflate.Inverts deflate) (free : ∀ item ∈ items, NulFree item.name)
    (archive : Archive) (read : Zip.readWith decoders (archiveBytes placed) = .ok archive) :
    List.Forall₂ (Rereads archive) archive.entries.zipIdx items := by
  obtain ⟨file, entries, start⟩ := done.opened free archive read
  have there := done.stacked.there archive.file
    (directoryBytes placed ++ endRecord placed.length (directoryBytes placed).length
      (localBytes placed).length) (by simp [file, archiveBytes])
  rw [entries, List.zipIdx_map, List.forall₂_map_left_iff]
  refine (Rows.with_members (Rows.numbered (Rows.swapped done.places) 0)).imp ?_
  rintro ⟨entry, index⟩ item ⟨inside, given, as⟩
  obtain ⟨rest, front⟩ := there entry (List.fst_mem_of_mem_zipIdx inside)
  obtain ⟨before, after, rfl, rfl⟩ := Rows.around entry index inside
  exact Places.rereads as inverts (free item given) archive _ rest front
    (bound_placed archive before after entry done.stacked entries start)

/-- What an item becomes when it is read from one archive and kept for the next. -/
structure Renewed (item later : Item) : Prop where
  name : later.name = item.name
  content : later.content = item.content
  stamp : 0 ≤ item.stamp.time → 0 ≤ item.stamp.date → later.stamp = item.stamp
  attributes : later.attributes = item.attributes % 0x100000000

theorem Rereads.renewed {archive : Archive} {row : Entry × Nat} {item later : Item}
    (again : Rereads archive row item) (kept : KeptAs archive row later)
    (plain : row.1.Plain) : Renewed item later := by
  obtain ⟨content, same⟩ := kept
  have whole : 0 < wholeWindow := Nat.pow_pos (by decide)
  refine ⟨?_, again.content wholeWindow whole later.content content, fun time date => ?_, ?_⟩
  · rw [same]
    exact again.name
  · rw [same]
    exact (toStamp_ofStamp row.1.stamp plain.date).trans (again.stamp time date)
  · rw [same]
    exact again.attributes

theorem Archived.renewed (done : Archived deflate alignment items placed)
    (inverts : Deflate.Inverts deflate)
    (free : ∀ item ∈ items, NulFree item.name ∧ isSigningMetadata item.name = false)
    (archive : Archive) (read : Zip.readWith decoders (archiveBytes placed) = .ok archive)
    {change : Replacement} {rebuilt : Rebuilt} {kept : List Item} {last : Item}
    (next : Rewritten deflate archive change rebuilt kept last) :
    List.Forall₂ Renewed (items.filter fun item => item.name ≠ change.name) kept := by
  have rows := Rows.with_members
    (done.rereads inverts (fun item member => (free item member).1) archive read)
  have plain := read_plain _ archive read
  -- No item is metadata of a signature, so a name alone decides what is kept.
  have chosen := List.rel_filter (p := fun row => isKept change row.1)
    (q := fun item => decide (item.name ≠ change.name)) (by
      rintro row item ⟨_, given, again⟩
      have unsigned := (free item given).2
      simp [isKept, isReplaced, unsigned, again.name]) rows
  refine (Rows.partners chosen next.others).imp ?_
  rintro item later ⟨row, _, ⟨inside, _, again⟩, as⟩
  exact again.renewed as (plain row.1 (List.fst_mem_of_mem_zipIdx inside))

theorem renewed_members {laters : List Item} (all : List.Forall₂ Renewed items laters) :
    laters.map member = items.map member := by
  induction all with
  | nil => rfl
  | cons first _ ih =>
      rw [List.map_cons, List.map_cons, ih, member, first.name, first.content]
      rfl

end

theorem Rewritten.archived {change : Replacement} {rebuilt : Rebuilt} {kept : List Item}
    {last : Item} (done : Rewritten deflate archive change rebuilt kept last) :
    Archived deflate change.alignment (kept ++ [last]) rebuilt.placed :=
  ⟨done.places, done.stacked, done.few, done.size, done.offset⟩

end DexGraft.Apk
