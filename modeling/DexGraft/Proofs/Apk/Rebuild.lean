import DexGraft.Apk.Rebuild
import DexGraft.Proofs.Rows
import DexGraft.Proofs.Zip.Contents

/-!
What a rebuild writes. The items are the kept entries with their contents and the
new entry behind them; they are placed one after the other, so each finds its
offset from the lengths of all records before it.
-/
namespace DexGraft.Apk

open Zip

inductive InRow (deflate : Bytes → Bytes) (alignment : Int) :
    Nat → List Item → List Placed → Prop
  | none (offset : Nat) : InRow deflate alignment offset [] []
  | next {offset : Nat} {item : Item} {placed : Placed} {items : List Item} {rest : List Placed}
      (put : placeItem deflate alignment offset item = .ok placed)
      (after : InRow deflate alignment (offset + placed.localRecord.length) items rest) :
      InRow deflate alignment offset (item :: items) (placed :: rest)

def Places (deflate : Bytes → Bytes) (alignment : Int) (item : Item) (placed : Placed) : Prop :=
  PlacedAs deflate (alignmentFor item.name alignment) placed.offset item placed

theorem InRow.stacked {deflate : Bytes → Bytes} {alignment : Int} {offset : Nat}
    {items : List Item} {placed : List Placed} (row : InRow deflate alignment offset items placed) :
    Stacked offset placed ∧ List.Forall₂ (Places deflate alignment) items placed := by
  induction row with
  | none offset => exact ⟨Stacked.none offset, List.Forall₂.nil⟩
  | @next offset item first items rest put after ih =>
      have done := place_ok deflate _ offset item first put
      obtain ⟨stacked, others⟩ := ih
      have spot := done.offset
      subst spot
      exact ⟨Stacked.next stacked, List.Forall₂.cons done others⟩

theorem Places.all_fit {deflate : Bytes → Bytes} {alignment : Int} {items : List Item}
    {placed : List Placed} (all : List.Forall₂ (Places deflate alignment) items placed) :
    ∀ entry ∈ placed, entry.Fits := by
  intro entry member
  obtain ⟨_, _, done⟩ := Rows.some_left all entry member
  exact done.fits

theorem Places.all_named {deflate : Bytes → Bytes} {alignment : Int} {items : List Item}
    {placed : List Placed} (all : List.Forall₂ (Places deflate alignment) items placed)
    (free : ∀ item ∈ items, NulFree item.name) : ∀ entry ∈ placed, entry.Named := by
  intro entry member
  obtain ⟨item, given, done⟩ := Rows.some_left all entry member
  exact PlacedAs.named done (free item given)

theorem Places.names {deflate : Bytes → Bytes} {alignment : Int} {items : List Item}
    {placed : List Placed} (all : List.Forall₂ (Places deflate alignment) items placed) :
    placed.map Placed.name = items.map Item.name := by
  induction all with
  | nil => rfl
  | cons first _ ih => rw [List.map_cons, List.map_cons, first.name, ih]

def KeptAs (archive : Archive) (row : Entry × Nat) (item : Item) : Prop :=
  archive.contentAt wholeWindow row.2 row.1 = .ok item.content ∧
    item = keptItem row.1 item.content

-- By recursion on the entries: a kept one is read and placed, any other leaves the offset.
theorem placeAll_eq_ok (deflate : Bytes → Bytes) (archive : Archive) (change : Replacement)
    (last : Item) (offset : Nat) (rows : List (Entry × Nat)) (placed : List Placed) :
    placeAll deflate archive change last offset rows = .ok placed ↔
      ∃ kept, List.Forall₂ (KeptAs archive) (rows.filter fun row => isKept change row.1) kept ∧
        InRow deflate change.alignment offset (kept ++ [last]) placed := by
  induction rows generalizing offset placed with
  | nil =>
      constructor
      · intro done
        obtain ⟨first, put, same⟩ := Checked.bind_eq_ok.mp done
        cases same
        exact ⟨[], List.Forall₂.nil, InRow.next put (InRow.none _)⟩
      · rintro ⟨_, none, row⟩
        cases none
        cases row with
        | next put after =>
            cases after
            exact Checked.bind_eq_ok.mpr ⟨_, put, rfl⟩
  | cons row rest ih =>
      obtain ⟨entry, index⟩ := row
      unfold placeAll
      by_cases kept : isKept change entry = true
      · have here : isKept change (entry, index).1 = true := kept
        rw [if_pos kept,
          List.filter_cons_of_pos (p := fun row : Entry × Nat => isKept change row.1) here]
        constructor
        · intro done
          cases found : archive.contentAt wholeWindow index entry with
          | error fault =>
              rw [found] at done
              exact absurd done Checked.throw_ne_ok
          | ok content =>
              rw [found] at done
              obtain ⟨_, same, done⟩ := Checked.bind_eq_ok.mp done
              cases same
              obtain ⟨first, put, done⟩ := Checked.bind_eq_ok.mp done
              obtain ⟨others, more, same⟩ := Checked.bind_eq_ok.mp done
              cases same
              obtain ⟨items, all, row⟩ := (ih _ _).mp more
              exact ⟨keptItem entry content :: items, List.Forall₂.cons ⟨found, rfl⟩ all,
                InRow.next put row⟩
        · rintro ⟨_, all, row⟩
          cases all with
          | @cons _ item _ items as all =>
              obtain ⟨found, same⟩ := as
              cases row with
              | next put after =>
                  rw [same] at put
                  rw [found]
                  exact Checked.bind_eq_ok.mpr ⟨_, rfl, Checked.bind_eq_ok.mpr ⟨_, put,
                    Checked.bind_eq_ok.mpr ⟨_, (ih _ _).mpr ⟨items, all, after⟩, rfl⟩⟩⟩
      · have here : ¬isKept change (entry, index).1 = true := kept
        rw [if_neg kept,
          List.filter_cons_of_neg (p := fun row : Entry × Nat => isKept change row.1) here]
        exact ih _ _

/-- What was placed can be closed off with a directory and an end record. -/
structure Closable (placed : List Placed) : Prop where
  few : placed.length ≤ entryLimit
  size : (directoryBytes placed).length < Nat.pow 256 4
  offset : (localBytes placed).length < Nat.pow 256 4

/-- All that is known of a rebuild that came to its end. -/
structure Rewritten (deflate : Bytes → Bytes) (archive : Archive) (change : Replacement)
    (rebuilt : Rebuilt) (kept : List Item) (last : Item) : Prop where
  new : last = newItem change (archive.entries.filter (isReplaced change)).getLast?
  others : List.Forall₂ (KeptAs archive)
    (archive.entries.zipIdx.filter fun row => isKept change row.1) kept
  row : InRow deflate change.alignment 0 (kept ++ [last]) rebuilt.placed
  closable : Closable rebuilt.placed
  dropped : rebuilt.dropped = (archive.entries.filter (isDropped change)).map Entry.name
  replaced : rebuilt.replacedExisting =
    (archive.entries.filter (isReplaced change)).getLast?.isSome

theorem rebuild_eq_ok (deflate : Bytes → Bytes) (archive : Archive) (change : Replacement)
    (rebuilt : Rebuilt) :
    rebuild deflate archive change = .ok rebuilt ↔
      ∃ kept last, Rewritten deflate archive change rebuilt kept last := by
  simp only [rebuild, Checked.bind_eq_ok, Checked.guard_eq_ok, placeAll_eq_ok, fits,
    Bool.or_eq_true, Bool.not_eq_true', decide_eq_false_iff_not, not_or, Decidable.not_not]
  constructor
  · rintro ⟨placed, ⟨kept, others, row⟩, few, ⟨size, offset⟩, same⟩
    cases same
    exact ⟨kept, _, ⟨rfl, others, row, ⟨Nat.le_of_not_lt few, size, offset⟩, rfl, rfl⟩⟩
  · rintro ⟨kept, _, ⟨rfl, others, row, ⟨few, size, offset⟩, dropped, replaced⟩⟩
    refine ⟨rebuilt.placed, ⟨kept, others, row⟩, Nat.not_lt.mpr few, ⟨size, offset⟩, ?_⟩
    rw [← dropped, ← replaced]
    rfl

/-- What is rebuilt of an emptied file is what the whole file would be rebuilt to: no entry can have
been kept. -/
theorem rebuild_emptied (deflate : Bytes → Bytes) (archive : Archive) (change : Replacement)
    (rebuilt : Rebuilt) (done : rebuild deflate { archive with file := [] } change = .ok rebuilt) :
    rebuild deflate archive change = .ok rebuilt := by
  obtain ⟨kept, last, rewritten⟩ := (rebuild_eq_ok ..).mp done
  have others := rewritten.others.imp fun row item as =>
    (absurd as.1 (contentAt_emptied archive wholeWindow row.2 row.1 item.content) :
      KeptAs archive row item)
  exact (rebuild_eq_ok ..).mpr ⟨kept, last, { rewritten with others }⟩

section

variable {deflate : Bytes → Bytes} {archive : Archive} {change : Replacement} {rebuilt : Rebuilt}
  {kept : List Item} {last : Item}

theorem Rewritten.stacked (done : Rewritten deflate archive change rebuilt kept last) :
    Stacked 0 rebuilt.placed :=
  done.row.stacked.1

theorem Rewritten.places (done : Rewritten deflate archive change rebuilt kept last) :
    List.Forall₂ (Places deflate change.alignment) (kept ++ [last]) rebuilt.placed :=
  done.row.stacked.2

theorem Rewritten.few (done : Rewritten deflate archive change rebuilt kept last) :
    rebuilt.placed.length < Nat.pow 256 2 :=
  Nat.lt_of_le_of_lt done.closable.few (by decide)

theorem Rewritten.size (done : Rewritten deflate archive change rebuilt kept last) :
    (directoryBytes rebuilt.placed).length < Nat.pow 256 4 :=
  done.closable.size

theorem Rewritten.offset (done : Rewritten deflate archive change rebuilt kept last) :
    (localBytes rebuilt.placed).length < Nat.pow 256 4 :=
  done.closable.offset

theorem Rewritten.laid (done : Rewritten deflate archive change rebuilt kept last) :
    Laid rebuilt.bytes (rebuilt.placed.map Placed.localEntry)
      (centralEntries (localBytes rebuilt.placed).length rebuilt.placed) :=
  laid_archiveBytes rebuilt.placed (Places.all_fit done.places) done.stacked done.few done.size
    done.offset

end

theorem placed_rows (place : Nat) (placed : List Placed) :
    ∃ rows : List (LocalEntry × CentralEntry),
      rows.map Prod.fst = placed.map Placed.localEntry ∧
      rows.map Prod.snd = centralEntries place placed ∧
      List.Forall₂ (fun (entry : Placed) row =>
        ∃ here, row = (entry.localEntry, entry.centralEntry here)) placed rows := by
  induction placed generalizing place with
  | nil => exact ⟨[], rfl, rfl, List.Forall₂.nil⟩
  | cons first rest ih =>
      obtain ⟨rows, locals, directory, all⟩ := ih (place + first.centralRecord.length)
      refine ⟨(first.localEntry, first.centralEntry place) :: rows, ?_, ?_,
        List.Forall₂.cons ⟨place, rfl⟩ all⟩
      · rw [List.map_cons, locals, List.map_cons]
      · rw [List.map_cons, directory, centralEntries]

/-- The contents of an archive, by name and in order, without the entries of one name and without
those of an earlier signature. -/
def Others (archive : Archive) (name : String) (members : List (String × Bytes)) : Prop :=
  List.Forall₂ (fun (row : Entry × Nat) member => member.1 = row.1.name ∧
      archive.contentAt wholeWindow row.2 row.1 = .ok member.2)
    (archive.entries.zipIdx.filter fun row =>
      row.1.name ≠ name ∧ isSigningMetadata row.1.name = false) members

def member (item : Item) : String × Bytes :=
  (item.name, item.content)

theorem Others.names {archive : Archive} {name : String} {members : List (String × Bytes)}
    (others : Others archive name members) :
    members.map Prod.fst = (archive.entries.zipIdx.filter fun row =>
      row.1.name ≠ name ∧ isSigningMetadata row.1.name = false).map fun row => row.1.name := by
  unfold Others at others
  generalize (archive.entries.zipIdx.filter fun row =>
    row.1.name ≠ name ∧ isSigningMetadata row.1.name = false) = rows at others ⊢
  induction others with
  | nil => rfl
  | cons first _ ih => rw [List.map_cons, List.map_cons, first.1, ih]

theorem Others.apart {archive : Archive} {name : String} {members : List (String × Bytes)}
    (others : Others archive name members) : name ∉ members.map Prod.fst := by
  rw [others.names]
  intro inside
  obtain ⟨row, kept, same⟩ := List.mem_map.mp inside
  have differ := (List.mem_filter.mp kept).2
  simp only [decide_eq_true_eq] at differ
  exact differ.1 same

section

variable {deflate : Bytes → Bytes} {archive : Archive} {change : Replacement} {rebuilt : Rebuilt}
  {kept : List Item} {last : Item}

theorem Rewritten.members (done : Rewritten deflate archive change rebuilt kept last) :
    Others archive change.name (kept.map member) := by
  have same : (archive.entries.zipIdx.filter fun row => isKept change row.1) =
      archive.entries.zipIdx.filter fun row =>
        row.1.name ≠ change.name ∧ isSigningMetadata row.1.name = false := by
    congr 1
    funext row
    by_cases named : row.1.name = change.name <;> simp [isKept, isReplaced, named]
  rw [Others, ← same, List.forall₂_map_right_iff]
  exact done.others.imp fun row item as => ⟨congrArg Item.name as.2, as.1⟩

theorem Rewritten.holds (done : Rewritten deflate archive change rebuilt kept last)
    (inverts : Deflate.Inverts deflate) :
    List.Forall₂ (fun (entry : LocalEntry) member => entry.Holds member.1 member.2)
      (rebuilt.placed.map Placed.localEntry) ((kept ++ [last]).map member) := by
  rw [List.forall₂_map_left_iff, List.forall₂_map_right_iff]
  exact (Rows.swapped done.places).imp fun placed item as => PlacedAs.holds as inverts

theorem Rewritten.nulFree (done : Rewritten deflate archive change rebuilt kept last)
    (free : ∀ entry ∈ archive.entries, NulFree entry.name) :
    ∀ item ∈ kept ++ [last], NulFree item.name := by
  intro item inside
  rcases List.mem_append.mp inside with old | new
  · obtain ⟨row, inRows, _, same⟩ := Rows.some_left done.others item old
    have inArchive : row.1 ∈ archive.entries :=
      List.fst_mem_of_mem_zipIdx (List.mem_filter.mp inRows).1
    rw [same]
    exact free row.1 inArchive
  · rw [List.mem_singleton.mp new, done.new]
    exact cutAtNul_nulFree change.name

theorem Rewritten.written (done : Rewritten deflate archive change rebuilt kept last) :
    rebuilt.written = (kept ++ [last]).map Item.name :=
  Places.names done.places

theorem Rewritten.signing (done : Rewritten deflate archive change rebuilt kept last) :
    rebuilt.dropped = archive.names.filter fun name =>
      name ≠ change.name && isSigningMetadata name := by
  rw [done.dropped, Archive.names, List.filter_map]
  congr 2
  funext entry
  by_cases named : entry.name = change.name <;> simp [isDropped, isReplaced, named]

theorem Rewritten.existing (done : Rewritten deflate archive change rebuilt kept last) :
    rebuilt.replacedExisting = true ↔ change.name ∈ archive.names := by
  rw [done.replaced, List.getLast?_isSome, Archive.names, List.mem_map]
  constructor
  · intro filled
    obtain ⟨entry, inside⟩ := List.exists_mem_of_ne_nil _ filled
    obtain ⟨member, named⟩ := List.mem_filter.mp inside
    exact ⟨entry, member, by simpa [isReplaced] using named⟩
  · rintro ⟨entry, member, named⟩
    exact List.ne_nil_of_mem (List.mem_filter.mpr ⟨member, by simpa [isReplaced] using named⟩)

theorem Rewritten.final (done : Rewritten deflate archive change rebuilt kept last)
    (free : NulFree change.name) : member last = (change.name, change.content) := by
  rw [done.new]
  simp [member, newItem, cutAtNul_self _ free]

theorem Rewritten.consists (done : Rewritten deflate archive change rebuilt kept last)
    (inverts : Deflate.Inverts deflate) (free : NulFree change.name) :
    Consists rebuilt.bytes (kept.map member ++ [(change.name, change.content)]) := by
  refine ⟨_, _, done.laid, ?_⟩
  have holds := done.holds inverts
  rwa [List.map_append, List.map_singleton, done.final free] at holds

end

end DexGraft.Apk
