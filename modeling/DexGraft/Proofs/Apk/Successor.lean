import DexGraft.Proofs.Apk.Defects
import DexGraft.Proofs.Apk.Image
import DexGraft.Proofs.Apk.Repeated

/-!
What can be read from a rebuilt archive. What a search finds in the source, it finds in
the rebuilt archive with the same content; what it is asked for the replaced name is the
new content. The images are tried in the order of the source, and the same rebuild done
once more comes to the same end.
-/
namespace DexGraft.Apk

open Zip DexGraft.Action

theorem findEntry_replaced (archive : Archive) (change : Replacement) (entry : Entry) (index : Nat)
    (found : findEntry? archive change.name = some (entry, index)) :
    (archive.entries.filter (isReplaced change)).getLast? = some entry := by
  have rows : archive.entries.filter (isReplaced change) =
      (archive.entries.zipIdx.filter fun row => row.1.name == change.name).map Prod.fst := by
    conv_lhs => rw [← List.zipIdx_map_fst 0 archive.entries, List.filter_map]
    rfl
  rw [rows, List.getLast?_map, ← List.head?_reverse, ← List.filter_reverse, List.head?_filter]
  exact congrArg (Option.map Prod.fst) found

section

variable {deflate : Bytes → Bytes} {archive middle : Archive} {change change' : Replacement}
  {rebuilt : Rebuilt} {kept : List Item} {last : Item} {decoders : Decoders}

theorem unbarred_again (archive : Archive) (row : Entry × Nat) (item : Item) (later : Entry × Nat)
    (plain : row.1.Plain) (window : Nat) (content : Bytes)
    (given : archive.contentAt window row.2 row.1 = .ok content)
    (flags : item.flags = row.1.flags) (again : Rereads middle later item) :
    ¬Barred later.1.flags := by
  obtain ⟨_, opened, _⟩ := Checked.bind_eq_ok.mp given
  rw [again.flags, flags, barred_written _ _ plain.flags]
  exact (openEntry_readable _ _ _ _ opened).unbarred

theorem KeptAs.unbarred {row : Entry × Nat} {item : Item} {later : Entry × Nat}
    (kept : KeptAs archive row item) (plain : row.1.Plain) (again : Rereads middle later item) :
    ¬Barred later.1.flags :=
  unbarred_again archive row item later plain wholeWindow _ kept.1 (by rw [kept.2]; rfl) again

/-- What is kept of an archive that was read, is read from the rebuilt one. -/
theorem Rewritten.carries (done : Rewritten deflate archive change rebuilt kept last)
    (plain : ∀ entry ∈ archive.entries, entry.Plain) (steady : Steady archive.decoders)
    (free : NulFree change.name)
    (rows : List.Forall₂ (Rereads middle) middle.entries.zipIdx (kept ++ [last])) (name : String)
    (other : name ≠ change.name) (unsigned : isSigningMetadata name = false) (entry : Entry)
    (index : Nat) (content : Bytes) (found : findEntry? archive name = some (entry, index))
    (given : archive.contentAt copyWindow index entry = .ok content) :
    ∃ later place, findEntry? middle name = some (later, place) ∧
      middle.contentAt copyWindow place later = .ok content := by
  have inKept : ((archive.entries.zipIdx.filter fun row => isKept change row.1).reverse.find?
      fun row => row.1.name == name) = some (entry, index) := by
    rw [← List.filter_reverse, List.find?_filter, ← found, findEntry?]
    congr 1
    funext row
    by_cases named : row.1.name = name <;> simp [isKept, isReplaced, named, other, unsigned]
  obtain ⟨item, partner, as⟩ := Rows.found (fun item => item.name == name)
    (List.forall₂_reverse_iff.mpr done.others) (fun row item as => by rw [as.2]; rfl) _ inKept
  have among : (kept ++ [last]).reverse.find? (fun item => item.name == name) = some item := by
    rw [List.reverse_append, List.reverse_singleton, List.singleton_append,
      List.find?_cons_of_neg, partner]
    simp [done.last_name free, other.symm]
  obtain ⟨⟨later, place⟩, there, again⟩ := Rows.found (fun row => row.1.name == name)
    (Rows.swapped (List.forall₂_reverse_iff.mpr rows)) (fun item row again => by rw [again.name])
    _ among
  have member : entry ∈ archive.entries :=
    List.fst_mem_of_mem_zipIdx (List.mem_reverse.mp (List.mem_of_find?_eq_some found))
  obtain ⟨_, _, whole⟩ := again.readable (as.unbarred (plain entry member) again)
  refine ⟨later, place, there, ?_⟩
  rw [whole copyWindow (by decide), contentAt_windows archive index entry copyWindow wholeWindow
    content item.content (by decide) (Nat.pow_pos (by decide)) steady given as.1]

theorem Rewritten.readable_again (done : Rewritten deflate archive change rebuilt kept last)
    (plain : ∀ entry ∈ archive.entries, entry.Plain) (free : NulFree change.name)
    (rows : List.Forall₂ (Rereads middle) middle.entries.zipIdx (kept ++ [last]))
    (name : change'.name = change.name) :
    ∃ kept', List.Forall₂ (KeptAs middle)
      (middle.entries.zipIdx.filter fun row => isKept change' row.1) kept' := by
  refine Rows.lined_up fun row chosen => ?_
  obtain ⟨inside, stays⟩ := List.mem_filter.mp chosen
  obtain ⟨item, given, again⟩ := Rows.some_left (Rows.swapped rows) row inside
  have old : item ∈ kept := by
    refine (List.mem_append.mp given).resolve_right fun new => ?_
    rw [List.mem_singleton.mp new] at again
    simp [isKept, isReplaced, again.name, done.last_name free, name] at stays
  obtain ⟨first, listed, as⟩ := Rows.some_left done.others item old
  have member : first.1 ∈ archive.entries :=
    List.fst_mem_of_mem_zipIdx (List.mem_filter.mp listed).1
  obtain ⟨_, _, whole⟩ := again.readable (as.unbarred (plain first.1 member) again)
  exact ⟨keptItem row.1 item.content, whole wholeWindow (Nat.pow_pos (by decide)), rfl⟩

theorem Rewritten.carries_new (done : Rewritten deflate archive change rebuilt kept last)
    (plain : ∀ entry ∈ archive.entries, entry.Plain) (free : NulFree change.name)
    (rows : List.Forall₂ (Rereads middle) middle.entries.zipIdx (kept ++ [last])) (entry : Entry)
    (index : Nat) (content : Bytes)
    (found : findEntry? archive change.name = some (entry, index))
    (given : archive.contentAt copyWindow index entry = .ok content) :
    ∃ later place, findEntry? middle change.name = some (later, place) ∧
      middle.contentAt copyWindow place later = .ok change.content := by
  have among : (kept ++ [last]).reverse.find? (fun item => item.name == change.name) =
      some last := by
    simp [done.last_name free]
  obtain ⟨⟨later, place⟩, there, again⟩ := Rows.found
    (fun row => row.1.name == change.name)
    (Rows.swapped (List.forall₂_reverse_iff.mpr rows)) (fun item row again => by rw [again.name])
    _ among
  have member : entry ∈ archive.entries :=
    List.fst_mem_of_mem_zipIdx (List.mem_reverse.mp (List.mem_of_find?_eq_some found))
  have new : last = newItem change (some entry) := by
    rw [done.new, findEntry_replaced archive change entry index found]
  have clear := unbarred_again archive (entry, index) last (later, place) (plain entry member)
    copyWindow content given (by rw [new]; rfl) again
  obtain ⟨_, _, whole⟩ := again.readable clear
  refine ⟨later, place, there, ?_⟩
  rw [whole copyWindow (by decide), new]
  rfl

theorem Rewritten.kept_names (done : Rewritten deflate archive change rebuilt kept last) :
    kept.map Item.name = archive.names.filter fun name =>
      name ≠ change.name ∧ isSigningMetadata name = false := by
  have names := done.members.names
  rw [List.map_map] at names
  have rows : archive.names = archive.entries.zipIdx.map fun row => row.1.name := by
    rw [Archive.names, ← List.zipIdx_map_fst 0 archive.entries, List.map_map, List.zipIdx_map_fst]
    rfl
  rw [rows, List.filter_map]
  exact names

end

theorem imageOf_signing (name : String) (signing : isSigningMetadata name = true) :
    imageOf? defaultBase defaultExtension name = none := by
  unfold isSigningMetadata at signing
  cases start : Text.dropStart? signatureFolder name.toList with
  | none =>
      rw [start] at signing
      cases signing
  | some base =>
      have plain : Text.dropStart? defaultBase.toList name.toList = none := by
        rw [(Text.dropStart_eq_some ..).mp start]
        rfl
      have none : imageDigits? defaultBase defaultExtension name = none := by
        rw [imageDigits?, plain]
        rfl
      rw [imageOf?, imagePriority, none]
      rfl

theorem selectImages_stands (names : List String) (images : List Image)
    (done : selectImages names defaultBase defaultExtension = .ok images) :
    ∀ image ∈ images, image.entry ∈ names ∧
      imageOf? defaultBase defaultExtension image.entry = some image := by
  obtain ⟨_, found, ranked⟩ := selectImages_ranked _ _ _ _ done
  obtain ⟨_, rfl⟩ := (candidates_eq_ok ..).mp found
  intro image member
  obtain ⟨name, given, stands⟩ := List.mem_filterMap.mp (ranked.same.mem_iff.mp member)
  obtain ⟨rfl, _⟩ := (imageOf_eq_some ..).mp stands
  exact ⟨given, stands⟩

theorem selectImages_unsigned (names : List String) (images : List Image)
    (done : selectImages names defaultBase defaultExtension = .ok images) :
    ∀ image ∈ images, isSigningMetadata image.entry = false := by
  intro image member
  obtain ⟨_, stands⟩ := selectImages_stands names images done image member
  by_contra signing
  rw [Bool.not_eq_false] at signing
  rw [imageOf_signing _ signing] at stands
  cases stands

theorem selectImages_distinct (names : List String) (images : List Image)
    (done : selectImages names defaultBase defaultExtension = .ok images)
    (apart : (images.map Image.priority).Nodup) : (images.map Image.entry).Nodup := by
  have stands := selectImages_stands names images done
  refine (List.nodup_map_iff_inj_on (List.Nodup.of_map _ apart)).mpr ?_
  intro first inside second member same
  have one := (stands first inside).2
  rw [same, (stands second member).2] at one
  exact (Option.some.inj one).symm

theorem selectImages_moved (names : List String) (images : List Image) (image : Image)
    (done : selectImages names defaultBase defaultExtension = .ok images)
    (apart : (images.map Image.priority).Nodup) (member : image ∈ images) :
    selectImages ((names.filter fun name => name ≠ image.entry ∧ isSigningMetadata name = false) ++
      [image.entry]) defaultBase defaultExtension = .ok images := by
  obtain ⟨listed, found, ranked⟩ := selectImages_ranked _ _ _ _ done
  obtain ⟨_, rfl⟩ := (candidates_eq_ok ..).mp found
  obtain ⟨given, stands⟩ := selectImages_stands names images done image member
  have others : (names.filter fun name =>
      name ≠ image.entry ∧ isSigningMetadata name = false).filterMap
        (imageOf? defaultBase defaultExtension) =
      (names.filter fun name => !decide (name = image.entry)).filterMap
        (imageOf? defaultBase defaultExtension) := by
    rw [List.filterMap_filter, List.filterMap_filter]
    congr 1
    funext name
    cases signing : isSigningMetadata name with
    | true => simp [imageOf_signing name signing]
    | false => simp
  have parted := (List.filter_append_perm (fun name => decide (name = image.entry)) names).filterMap
    (imageOf? defaultBase defaultExtension)
  -- A name that stood there twice would give two images of one priority.
  have one : (names.filter fun name => decide (name = image.entry)) = [image.entry] := by
    have several := List.filter_eq (l := names) image.entry
    have distinct := ranked.same.nodup_iff.mp (List.Nodup.of_map _ apart)
    rw [several] at parted ⊢
    have few := (parted.nodup_iff.mpr distinct)
    rw [List.filterMap_append] at few
    have alone := (List.nodup_append.mp few).1
    rw [List.filterMap_replicate, stands, List.nodup_replicate] at alone
    have some := List.count_pos_iff.mpr given
    rw [Nat.le_antisymm alone some]
    rfl
  refine selectImages_perm names _ _ _ images done apart (fun name inside => ?_) ?_
  · rcases List.mem_append.mp inside with old | new
    · exact (List.mem_filter.mp old).1
    · rw [List.mem_singleton.mp new]
      exact given
  · rw [List.filterMap_append, others]
    rw [one, List.filterMap_append] at parted
    exact List.perm_append_comm.trans parted

/-- What a rebuilt archive offers to a second rebuild: the contents of the first, its images, and the
same file once more. -/
structure Successor (reader : Reader) (deflate : Bytes → Bytes) (file : Bytes)
    (change : Replacement) (made : Bytes) : Prop where
  others : ∀ name content, name ≠ change.name → isSigningMetadata name = false →
    contentIn reader file file name = .ok (some content) →
      contentIn reader made made name = .ok (some content)
  new : ∀ content, contentIn reader file file change.name = .ok (some content) →
    contentIn reader made made change.name = .ok (some change.content)
  images : ∀ archive middle images image, Zip.readWith reader.decoders file = .ok archive →
    Zip.readWith reader.decoders made = .ok middle →
    selectImages archive.names defaultBase defaultExtension = .ok images →
      (images.map Image.priority).Nodup → image ∈ images → image.entry = change.name →
        selectImages middle.names defaultBase defaultExtension = .ok images
  again : ∀ middle change', Zip.readWith reader.decoders made = .ok middle →
    change'.name = change.name → change'.content = change.content →
      change'.alignment = change.alignment →
        ∃ rebuilt, rebuild deflate middle change' = .ok rebuilt ∧ rebuilt.bytes = made

theorem rebuild_successor (reader : Reader) (deflate : Bytes → Bytes) (file : Bytes)
    (archive : Archive) (change : Replacement) (rebuilt : Rebuilt)
    (inverts : Deflate.Inverts deflate) (steady : Steady reader.decoders)
    (free : NulFree change.name) (read : Zip.readWith reader.decoders file = .ok archive)
    (done : rebuild deflate archive change = .ok rebuilt) (middle : Archive)
    (opened : Zip.readWith reader.decoders rebuilt.bytes = .ok middle) :
    Successor reader deflate file change rebuilt.bytes := by
  obtain ⟨kept, last, rewritten⟩ := (rebuild_eq_ok ..).mp done
  have plain := read_plain file archive read
  have unnulled := rewritten.nulFree fun entry member => (plain entry member).free
  have rows := rewritten.archived.rereads inverts unnulled middle opened
  refine ⟨fun name content other unsigned given => ?_, fun content given => ?_, ?_, ?_⟩
  · obtain ⟨_, entry, index, read', found, whole⟩ := (contentIn_some ..).mp given
    cases read.symm.trans read'
    obtain ⟨later, place, there, back⟩ := rewritten.carries plain
      ((read_given _ _ _ read).2 ▸ steady) free rows name other unsigned entry index content found
      whole
    exact (contentIn_some ..).mpr ⟨middle, later, place, opened, there, back⟩
  · obtain ⟨_, entry, index, read', found, whole⟩ := (contentIn_some ..).mp given
    cases read.symm.trans read'
    obtain ⟨later, place, there, back⟩ :=
      rewritten.carries_new plain free rows entry index content found whole
    exact (contentIn_some ..).mpr ⟨middle, later, place, opened, there, back⟩
  · intro archive' middle' images image read' opened' chosen apart member named
    cases read.symm.trans read'
    cases opened.symm.trans opened'
    obtain ⟨_, entries, _⟩ := rewritten.archived.opened unnulled middle opened
    have names : middle.names = (archive.names.filter fun name =>
        name ≠ image.entry ∧ isSigningMetadata name = false) ++ [image.entry] := by
      rw [Archive.names, entries, List.map_map]
      change rebuilt.written = _
      rw [rewritten.written, List.map_append, rewritten.kept_names, List.map_singleton,
        rewritten.last_name free, named]
    rw [names]
    exact selectImages_moved _ images image chosen apart member
  · intro middle' change' opened' name content alignment
    cases opened.symm.trans opened'
    obtain ⟨kept', others⟩ := rewritten.readable_again plain free rows name
    exact ⟨_, rewritten.repeats inverts plain free opened others name content alignment, rfl⟩

end DexGraft.Apk
