import DexGraft.Proofs.Apk.Alignment
import DexGraft.Proofs.Apk.Metadata
import DexGraft.Proofs.Apk.Reread

/-!
A rebuild of what the same rebuild made. Whatever the writer changes in an entry
it changes once: the flags it clears, the method it settles on and the numbers it
cuts are read back as they were written, so every entry is placed where it was.
-/
namespace DexGraft.Apk

open Zip DexGraft.Action

structure Alike (item later : Item) : Prop where
  name : later.name = item.name
  flags : writtenFlags later.name later.flags = writtenFlags item.name item.flags
  packed : later.packed = item.packed
  stamp : later.stamp = item.stamp
  attributes : later.attributes % 0x100000000 = item.attributes % 0x100000000
  content : later.content = item.content

section

variable {deflate : Bytes → Bytes} {alignment : Int}

theorem Alike.placeItem {item later : Item} (alike : Alike item later) (offset : Nat) :
    placeItem deflate alignment offset later = placeItem deflate alignment offset item := by
  obtain ⟨name, flags, packed, stamp, attributes, content⟩ := alike
  cases item
  cases later
  simp only at name flags packed stamp attributes content
  subst name packed stamp content
  simp only [Apk.placeItem, place, flags, attributes]

theorem InRow.alike {offset : Nat} {items laters : List Item} {placed : List Placed}
    (row : InRow deflate alignment offset items placed) (alike : List.Forall₂ Alike items laters) :
    InRow deflate alignment offset laters placed := by
  induction row generalizing laters with
  | none offset =>
      cases alike
      exact .none offset
  | next put _ ih =>
      cases alike with
      | cons here others =>
          rw [← here.placeItem] at put
          exact .next put (ih others)

end

-- Flags and attributes are cut when they are written, and what was cut before is not cut again.
theorem Rereads.alike {archive : Archive} {row : Entry × Nat} {item later : Item}
    (reads : Rereads archive row item) (takes : Takes row.1 later) (time : 0 ≤ item.stamp.time)
    (date : 0 ≤ item.stamp.date) (packed : later.packed = item.packed)
    (content : later.content = item.content) : Alike item later := by
  have name : later.name = item.name := takes.name.trans reads.name
  refine ⟨name, ?flags, packed, takes.stamp.trans (reads.stamp time date), ?attributes, content⟩
  case flags => rw [takes.flags, reads.flags, name, writtenFlags_again]
  case attributes => rw [takes.attributes, reads.attributes, Nat.mod_mod]

theorem Rereads.alike_kept {archive : Archive} {row : Entry × Nat} {item later : Item}
    (reads : Rereads archive row item) (kept : KeptAs archive row later) (plain : row.1.Plain)
    (settled : Settled item) (time : 0 ≤ item.stamp.time) (date : 0 ≤ item.stamp.date) :
    Alike item later := by
  have packed : later.packed = (row.1.method == .deflated && !mustStore row.1.name) := by
    rw [kept.2]
    rfl
  apply reads.alike (kept.2 ▸ keptItem_takes row.1 later.content plain) time date
  · rw [packed, reads.method, reads.name]
    cases was : item.packed with
    | false => rfl
    | true =>
        have free : mustStore item.name = false := by
          by_contra must
          rw [settled (by simpa using must)] at was
          cases was
        rw [free]
        rfl
  · exact reads.content wholeWindow (Nat.pow_pos (by decide)) _ kept.1

section

variable {deflate : Bytes → Bytes} {archive middle : Archive} {change change' : Replacement}
  {rebuilt rebuilt' : Rebuilt} {kept kept' : List Item} {last last' : Item} {decoders : Decoders}

theorem Rewritten.kept_apart (done : Rewritten deflate archive change rebuilt kept last) :
    ∀ item ∈ kept, item.name ≠ change.name ∧ isSigningMetadata item.name = false := by
  intro item member
  obtain ⟨row, inside, _, same⟩ := Rows.some_left done.others item member
  have chosen := (List.mem_filter.mp inside).2
  simp only [isKept, isReplaced, Bool.and_eq_true, Bool.not_eq_true', beq_eq_false_iff_ne] at chosen
  rw [same]
  exact chosen

theorem Rewritten.last_name (done : Rewritten deflate archive change rebuilt kept last)
    (free : NulFree change.name) : last.name = change.name :=
  congrArg Prod.fst (done.final free)

theorem Rewritten.timed (done : Rewritten deflate archive change rebuilt kept last) :
    ∀ item ∈ kept ++ [last], 0 ≤ item.stamp.time ∧ 0 ≤ item.stamp.date := by
  intro item member
  obtain ⟨placed, _, as⟩ := Rows.some_left (Rows.swapped done.places) item member
  exact ⟨PlacedAs.time as, PlacedAs.date as⟩

theorem Rewritten.keeps_again (first : Rewritten deflate archive change rebuilt kept last)
    (free : NulFree change.name)
    (rows : List.Forall₂ (Rereads middle) middle.entries.zipIdx (kept ++ [last]))
    (plain : ∀ entry ∈ middle.entries, entry.Plain) (name : change'.name = change.name)
    (others : List.Forall₂ (KeptAs middle)
      (middle.entries.zipIdx.filter fun row => isKept change' row.1) kept') :
    List.Forall₂ Alike kept kept' := by
  have chosen := List.rel_filter (p := fun row => isKept change' row.1)
    (q := fun item => decide (item.name ≠ change.name ∧ isSigningMetadata item.name = false)) (by
      rintro row item ⟨_, _, again⟩
      by_cases same : item.name = change.name <;>
        simp [isKept, isReplaced, again.name, name, same]) (Rows.with_members rows)
  have same : (kept ++ [last]).filter
      (fun item => decide (item.name ≠ change.name ∧ isSigningMetadata item.name = false)) =
        kept := by
    have all : kept.filter (fun item =>
        decide (item.name ≠ change.name ∧ isSigningMetadata item.name = false)) = kept := by
      rw [List.filter_eq_self]
      exact fun item member => decide_eq_true (first.kept_apart item member)
    rw [List.filter_append, all, List.filter_cons_of_neg (by simp [first.last_name free]),
      List.filter_nil, List.append_nil]
  rw [same] at chosen
  refine (Rows.partners chosen others).imp ?_
  rintro item later ⟨row, _, ⟨inside, given, again⟩, as⟩
  obtain ⟨time, date⟩ := first.timed item given
  exact again.alike_kept as (plain row.1 (List.fst_mem_of_mem_zipIdx inside))
    (first.settled item given) time date

theorem Rewritten.renews (first : Rewritten deflate archive change rebuilt kept last)
    (free : NulFree change.name)
    (rows : List.Forall₂ (Rereads middle) middle.entries.zipIdx (kept ++ [last]))
    (plain : ∀ entry ∈ middle.entries, entry.Plain) (name : change'.name = change.name)
    (content : change'.content = change.content) :
    ∃ entry, (middle.entries.filter (isReplaced change')).getLast? = some entry ∧
      Alike last (newItem change' (some entry)) := by
  obtain ⟨front, back, parts, _, new⟩ := Rows.split (Rows.swapped rows)
  obtain ⟨row, rfl, again⟩ : ∃ row, back = [row] ∧ Rereads middle row last := by
    cases new with
    | cons here none =>
        cases none
        exact ⟨_, rfl, here⟩
  have entries : middle.entries = front.map Prod.fst ++ [row.1] := by
    rw [← List.zipIdx_map_fst 0 middle.entries, parts, List.map_append]
    rfl
  have named : row.1.name = change'.name := by
    rw [again.name, first.last_name free, name]
  have final : (middle.entries.filter (isReplaced change')).getLast? = some row.1 := by
    rw [entries, List.filter_append, List.filter_cons_of_pos (by simp [isReplaced, named]),
      List.filter_nil, List.getLast?_concat]
  obtain ⟨time, date⟩ := first.timed last (by simp)
  refine ⟨row.1, final, again.alike ?_ time date ?_ ?_⟩
  · exact newItem_takes change' row.1 (plain row.1 (by simp [entries])) named
  · rw [first.new]
    rfl
  · rw [first.new]
    exact content

theorem Rewritten.repeats (first : Rewritten deflate archive change rebuilt kept last)
    (inverts : Deflate.Inverts deflate) (plain : ∀ entry ∈ archive.entries, entry.Plain)
    (free : NulFree change.name) (read : Zip.readWith decoders rebuilt.bytes = .ok middle)
    (others : List.Forall₂ (KeptAs middle)
      (middle.entries.zipIdx.filter fun row => isKept change' row.1) kept')
    (name : change'.name = change.name) (content : change'.content = change.content)
    (alignment : change'.alignment = change.alignment) :
    rebuild deflate middle change' = .ok ⟨rebuilt.placed, [], true⟩ := by
  have unnulled := first.nulFree fun entry member => (plain entry member).free
  have rows := first.archived.rereads inverts unnulled middle read
  have plain := read_plain _ middle read
  obtain ⟨entry, final, newest⟩ := first.renews free rows plain name content
  have alike := List.rel_append (first.keeps_again free rows plain name others)
    (List.Forall₂.cons newest List.Forall₂.nil)
  refine (rebuild_eq_ok ..).mpr ⟨kept', _, rfl, others, ?_, first.closable, ?_, by rw [final]; rfl⟩
  · rw [final, alignment]
    exact first.row.alike alike
  · obtain ⟨_, entries, _⟩ := first.archived.opened unnulled middle read
    have names : middle.entries.map Entry.name = (kept ++ [last]).map Item.name := by
      rw [← first.written, entries, List.map_map]
      rfl
    symm
    rw [List.map_eq_nil_iff, List.filter_eq_nil_iff]
    intro entry member
    have inside := List.mem_map_of_mem (f := Entry.name) member
    rw [names] at inside
    obtain ⟨item, given, same⟩ := List.mem_map.mp inside
    rcases List.mem_append.mp given with old | new
    · simp [isDropped, ← same, first.kept_apart item old]
    · simp [isDropped, isReplaced, ← same, List.mem_singleton.mp new, first.last_name free, name]

end

/-- A rebuild of what the same rebuild made gives the same file, to the byte; it drops nothing, and
what it reports as written and as aligned is what was reported before. -/
theorem rebuildFile_repeats (decoders : Decoders) (deflate : Bytes → Bytes)
    (source output source' output' : Path) (name : String) (content : Bytes) (alignment : Int)
    (session middle next after : Session) (rebuilt again : Rebuilt)
    (inverts : Deflate.Inverts deflate) (free : NulFree name)
    (done : (rebuildFile deflate source name content output alignment decoders).perform session =
      (.ok rebuilt, middle))
    (carried : next.files.read source' = middle.files.read output)
    (repeated : (rebuildFile deflate source' name content output' alignment decoders).perform next =
      (.ok again, after)) :
    ∃ made, middle.files.read output = .ok made ∧ after.files.read output' = .ok made ∧
      again.dropped = [] ∧ again.written = rebuilt.written ∧ again.aligned = rebuilt.aligned := by
  obtain ⟨file, archive, emptied, _, read, outcome, _, written⟩ :=
    rebuildFile_ok decoders deflate source output name content alignment session middle rebuilt
      done
  obtain ⟨kept, last, first⟩ := (rebuild_eq_ok ..).mp outcome
  have made := Files.write_read emptied _ output _ written
  obtain ⟨file', archive', emptied', found, read', outcome', _, written'⟩ :=
    rebuildFile_ok decoders deflate source' output' name content alignment next after again
      repeated
  obtain ⟨kept', last', second⟩ := (rebuild_eq_ok ..).mp outcome'
  obtain rfl : rebuilt.bytes = file' := by
    rw [carried, made] at found
    exact Except.ok.inj found
  have placed : again = ⟨rebuilt.placed, [], true⟩ :=
    Except.ok.inj (outcome'.symm.trans (first.repeats inverts (read_plain file archive read) free
      read' second.others rfl rfl rfl))
  refine ⟨rebuilt.bytes, made, ?_, ?_⟩
  · rw [Files.write_read emptied' _ output' _ written', placed]
    rfl
  · rw [placed]
    exact ⟨rfl, rfl, rfl⟩

def bzippedGreeting : Bytes :=
  [66, 90, 104, 57, 49, 65, 89, 38, 83, 89, 2, 248, 176, 189, 0, 0, 3, 145, 0, 64, 0, 2, 68, 160,
    0, 48, 205, 0, 84, 134, 150, 113, 155, 56, 163, 197, 220, 145, 78, 20, 36, 0, 190, 44, 47, 64]

def bunzip : Decoders
  | 12 => some fun _ entry data =>
      if data.take entry.packedSize = bzippedGreeting then .ok greeting
      else .error (@Fault.corruptStream .bzip2)
  | _ => none

def variedSession : Session :=
  { givenSession with
    files := ⟨[(["in.apk"], .file (archiveBytes [
      { givenEntry "b" .deflated greeting packedGreeting 0 with
        flags := 0x2008, stamp := ⟨0xFFFF, 0⟩, attributes := 0x81A40010 },
      { givenEntry "ü" .stored [7] [7] 41 with stamp := ⟨0x7DFF, 0xFFFF⟩ },
      givenEntry "META-INF/MANIFEST.MF" .stored [] [] 74,
      givenEntry "classes.dex" .deflated greeting packedGreeting 124,
      givenEntry "c" (.other 12) greeting bzippedGreeting 175]) Files.newFileMode)], []⟩
    clock := ⟨0x7DFF, 0x5A21⟩ }

theorem rebuildFile_repeats_varied :
    ∃ rebuilt middle again after made,
      (rebuildFile (Deflate.packing greeting packedGreeting) ⟨0, ["in.apk"]⟩ "a" [9]
        ⟨0, ["out.apk"]⟩ 4 bunzip).perform variedSession = (.ok rebuilt, middle) ∧
      (rebuildFile (Deflate.packing greeting packedGreeting) ⟨0, ["out.apk"]⟩ "a" [9]
        ⟨0, ["again.apk"]⟩ 4 bunzip).perform { middle with clock := Stamp.earliest } =
          (.ok again, after) ∧
      middle.files.read ⟨0, ["out.apk"]⟩ = .ok made ∧
      after.files.read ⟨0, ["again.apk"]⟩ = .ok made ∧
      rebuilt.dropped = ["META-INF/MANIFEST.MF"] ∧ again.dropped = [] ∧
      again.written = ["b", "├╝", "classes.dex", "c", "a"] ∧ again.aligned = rebuilt.aligned := by
  have free : NulFree "a" := by decide
  rcases done : (rebuildFile (Deflate.packing greeting packedGreeting) ⟨0, ["in.apk"]⟩
    "a" [9] ⟨0, ["out.apk"]⟩ 4 bunzip).perform variedSession with ⟨result, middle⟩
  rcases repeated : (rebuildFile (Deflate.packing greeting packedGreeting)
    ⟨0, ["out.apk"]⟩ "a" [9] ⟨0, ["again.apk"]⟩ 4 bunzip).perform
      { middle with clock := Stamp.earliest } with ⟨result', after⟩
  have works : result.toOption.map (fun rebuilt => (rebuilt.dropped, rebuilt.written)) =
      some (["META-INF/MANIFEST.MF"], ["b", "├╝", "classes.dex", "c", "a"]) ∧
      result'.toOption.isSome := by
    rw [show result = _ from (congrArg Prod.fst done).symm,
      show result' = _ from (congrArg Prod.fst repeated).symm,
      show middle = _ from (congrArg Prod.snd done).symm]
    decide +kernel
  cases result with
  | error fault => cases works.1
  | ok rebuilt =>
      cases result' with
      | error fault => cases works.2
      | ok again =>
          obtain ⟨dropped, written⟩ := Prod.mk.inj (Option.some.inj works.1)
          obtain ⟨made, left, left', nothing, same, aligned⟩ := rebuildFile_repeats bunzip
            (Deflate.packing greeting packedGreeting) ⟨0, ["in.apk"]⟩ ⟨0, ["out.apk"]⟩
            ⟨0, ["out.apk"]⟩ ⟨0, ["again.apk"]⟩ "a" [9] 4 variedSession middle
            { middle with clock := Stamp.earliest } after rebuilt again greeting_inverts free done
            rfl repeated
          exact ⟨rebuilt, middle, again, after, made, rfl, repeated, left, left', dropped, nothing,
            same.trans written, aligned⟩

end DexGraft.Apk
