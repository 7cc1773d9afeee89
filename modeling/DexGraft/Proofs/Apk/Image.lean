import DexGraft.Apk.Image
import DexGraft.Proofs.Checked
import DexGraft.Proofs.Files.Scratch
import Mathlib.Data.List.Nodup

/-!
Images that are selected. Each is an entry of the archive, and its name is the
base, digits and the extension, so that it can stand as a file's name.
-/
namespace DexGraft.Apk

open Text Files

theorem digitsBefore_eq_some (ending text digits : List Char) :
    digitsBefore? ending text = some digits ↔
      (∀ c ∈ digits, isAsciiDigit c = true) ∧ text = digits ++ ending := by
  rw [digitsBefore?, Option.filter_eq_some_iff, dropEnd_eq_some, List.all_eq_true, and_comm]

theorem imageDigits_shape (base ending name : String) (digits : List Char)
    (found : imageDigits? base ending name = some digits) :
    (∀ c ∈ digits, isAsciiDigit c = true) ∧
      (name.toList = base.toList ++ (digits ++ ending.toList) ∨
        name.toList = base.toList ++ (digits ++ (ending.toList ++ ['\n']))) := by
  simp only [imageDigits?, Option.bind_eq_bind, Option.bind_eq_some_iff] at found
  obtain ⟨numbered, start, found⟩ := found
  rw [(dropStart_eq_some ..).mp start]
  rcases Option.or_eq_some_iff.mp found with plain | ⟨_, broken⟩
  · obtain ⟨all, rfl⟩ := (digitsBefore_eq_some ..).mp plain
    exact ⟨all, Or.inl rfl⟩
  · obtain ⟨all, rfl⟩ := (digitsBefore_eq_some ..).mp broken
    exact ⟨all, Or.inr rfl⟩

theorem imagePriority_digits (base ending name : String) (digits : List Char) (number : Nat)
    (found : imageDigits? base ending name = some digits) (filled : digits ≠ [])
    (read : readNatural digits = some number) (positive : 0 < number) :
    imagePriority name base ending = .ok (some number) := by
  have kept : number ≠ 0 := Nat.ne_of_gt positive
  simp only [imagePriority, found, priorityOfDigits, List.isEmpty_iff, filled, read, kept, if_false]

def imageOf? (base ending name : String) : Option Image :=
  (imagePriority name base ending).toOption.join.map fun priority => ⟨name, priority⟩

theorem imageOf_eq_some (base ending name : String) (image : Image) :
    imageOf? base ending name = some image ↔
      image.entry = name ∧ imagePriority name base ending = .ok (some image.priority) := by
  obtain ⟨entry, priority⟩ := image
  unfold imageOf?
  rcases imagePriority name base ending with fault | none | number <;>
    simp [Except.toOption, and_comm, eq_comm]

-- By recursion on the names; a name adds its own image or none.
theorem candidates_eq_ok (names : List String) (base ending : String) (images : List Image) :
    candidates names base ending = .ok images ↔
      (∀ name ∈ names, ∃ priority?, imagePriority name base ending = .ok priority?) ∧
        images = names.filterMap (imageOf? base ending) := by
  induction names generalizing images with
  | nil => simp [candidates, eq_comm]
  | cons name rest ih =>
      simp only [candidates, Checked.bind_eq_ok, ih, List.forall_mem_cons]
      constructor
      · rintro ⟨priority?, ranked, others, ⟨all, rfl⟩, done⟩
        refine ⟨⟨⟨_, ranked⟩, all⟩, ?_⟩
        rw [← Except.ok.inj done]
        cases priority? <;> simp [imageOf?, ranked, Except.toOption]
      · rintro ⟨⟨⟨priority?, ranked⟩, all⟩, rfl⟩
        refine ⟨priority?, ranked, _, ⟨all, rfl⟩, ?_⟩
        cases priority? <;> simp [imageOf?, ranked, Except.toOption] <;> rfl

theorem candidates_entries (names : List String) (base ending : String) (images : List Image)
    (done : candidates names base ending = .ok images) :
    ∀ image ∈ images, image.entry ∈ names ∧
      ∃ digits, imageDigits? base ending image.entry = some digits := by
  obtain ⟨_, rfl⟩ := (candidates_eq_ok ..).mp done
  intro image member
  obtain ⟨name, listed, stands⟩ := List.mem_filterMap.mp member
  obtain ⟨rfl, ranked⟩ := (imageOf_eq_some ..).mp stands
  refine ⟨listed, ?_⟩
  unfold imagePriority at ranked
  split at ranked
  · cases ranked
  · rename_i digits found
    exact ⟨digits, found⟩

theorem selectImages_entries (names : List String) (base ending : String) (images : List Image)
    (done : selectImages names base ending = .ok images) :
    ∀ image ∈ images, image.entry ∈ names ∧
      ∃ digits, imageDigits? base ending image.entry = some digits := by
  simp only [selectImages, Checked.bind_eq_ok, Checked.guard_eq_ok] at done
  obtain ⟨found, listed, _, same⟩ := done
  cases same
  intro image member
  exact candidates_entries names base ending found listed image (List.mem_mergeSort.mp member)

theorem candidates_sublist (names : List String) (base ending : String) (images : List Image)
    (done : candidates names base ending = .ok images) :
    (images.map Image.entry).Sublist names := by
  obtain ⟨_, rfl⟩ := (candidates_eq_ok ..).mp done
  have named : (fun name => (imageOf? base ending name).map Image.entry) =
      Option.guard fun name => (imageOf? base ending name).isSome := by
    funext name
    cases stands : imageOf? base ending name with
    | none => simp [Option.guard, stands]
    | some image =>
        simp [Option.guard, stands, ((imageOf_eq_some ..).mp stands).1]
  rw [List.map_filterMap, named, List.filterMap_eq_filter]
  exact List.filter_sublist

/-- The listed images in descending priority; those of one priority keep the order of the list. -/
structure Ranked (listed images : List Image) : Prop where
  same : images.Perm listed
  descending : images.Pairwise fun first second => second.priority ≤ first.priority
  stable : ∀ priority, images.filter (fun image => image.priority = priority) =
    listed.filter fun image => image.priority = priority

theorem ranked_mergeSort (listed : List Image) :
    Ranked listed (listed.mergeSort fun first second => second.priority ≤ first.priority) := by
  have passes : ∀ first second third : Image, decide (second.priority ≤ first.priority) = true →
      decide (third.priority ≤ second.priority) = true →
        decide (third.priority ≤ first.priority) = true := by
    intro first second third
    simp only [decide_eq_true_eq]
    omega
  have total : ∀ first second : Image, (decide (second.priority ≤ first.priority) ||
      decide (first.priority ≤ second.priority)) = true := by
    intro first second
    simp only [Bool.or_eq_true, decide_eq_true_eq]
    omega
  have same := List.mergeSort_perm listed fun first second => second.priority ≤ first.priority
  refine ⟨same, ?_, fun priority => ?_⟩
  · exact (List.pairwise_mergeSort passes total listed).imp fun below => by simpa using below
  · -- Images of one priority are in order already, so the sort keeps them as they are.
    have even : (listed.filter fun image => image.priority = priority).Pairwise
        fun first second => decide (second.priority ≤ first.priority) = true := by
      refine List.pairwise_of_forall_mem_list fun first inFirst second inSecond => ?_
      have one := (List.mem_filter.mp inFirst).2
      have other := (List.mem_filter.mp inSecond).2
      simp only [decide_eq_true_eq] at one other ⊢
      omega
    have kept := (List.sublist_mergeSort passes total even List.filter_sublist).filter
      fun image => image.priority = priority
    rw [List.filter_filter] at kept
    simp only [Bool.and_self] at kept
    exact (kept.eq_of_length (same.filter _).length_eq.symm).symm

theorem selectImages_single (base ending name : String) (priority : Nat)
    (ranked : imagePriority name base ending = .ok (some priority)) :
    selectImages [name] base ending = .ok [⟨name, priority⟩] := by
  have listed : candidates [name] base ending = .ok [⟨name, priority⟩] := by
    rw [candidates, ranked]
    rfl
  rw [selectImages, listed]
  exact congrArg Except.ok (List.mergeSort_singleton _)

theorem selectImages_ranked (names : List String) (base ending : String) (images : List Image)
    (done : selectImages names base ending = .ok images) :
    ∃ listed, candidates names base ending = .ok listed ∧ Ranked listed images := by
  simp only [selectImages, Checked.bind_eq_ok, Checked.guard_eq_ok] at done
  obtain ⟨listed, found, _, same⟩ := done
  cases same
  exact ⟨listed, found, ranked_mergeSort listed⟩

theorem selectImages_perm (names others : List String) (base ending : String) (images : List Image)
    (done : selectImages names base ending = .ok images)
    (apart : (images.map Image.priority).Nodup) (known : ∀ name ∈ others, name ∈ names)
    (same : (others.filterMap (imageOf? base ending)).Perm
      (names.filterMap (imageOf? base ending))) :
    selectImages others base ending = .ok images := by
  simp only [selectImages, Checked.bind_eq_ok, Checked.guard_eq_ok, candidates_eq_ok] at done ⊢
  obtain ⟨_, ⟨all, rfl⟩, filled, sorted⟩ := done
  refine ⟨_, ⟨fun name member => all name (known name member), rfl⟩, ?_, congrArg Except.ok ?_⟩
  · rwa [same.isEmpty_eq]
  obtain ⟨perm, descending, _⟩ := ranked_mergeSort (names.filterMap (imageOf? base ending))
  obtain ⟨perm', descending', _⟩ := ranked_mergeSort (others.filterMap (imageOf? base ending))
  rw [Except.ok.inj sorted] at perm descending
  refine ((perm'.trans same).trans perm.symm).eq_of_pairwise (fun first second member inside => ?_)
    descending' descending
  intro below above
  exact List.inj_on_of_nodup_map apart (((perm'.trans same).trans perm.symm).mem_iff.mp member)
    inside (Nat.le_antisymm above below)

def Image.Customary (image : Image) : Prop :=
  ∃ digits, imageDigits? defaultBase defaultExtension image.entry = some digits

theorem Image.Customary.spelled {image : Image} (customary : image.Customary) :
    ∃ rest, image.entry.toList = 'c' :: 'l' :: rest ∧ ∀ c ∈ image.entry.toList, c ≠ '/' := by
  obtain ⟨digits, found⟩ := customary
  obtain ⟨all, shape⟩ := imageDigits_shape _ _ _ _ found
  have noSlash : ∀ c ∈ digits, c ≠ '/' := by
    rintro c member rfl
    exact absurd (all '/' member) (by decide)
  have base : ∀ c ∈ defaultBase.toList, c ≠ '/' := whole_of_all _ _ (by decide)
  have ending : ∀ c ∈ defaultExtension.toList ++ ['\n'], c ≠ '/' :=
    whole_of_all _ _ (by decide)
  rcases shape with plain | broken
  · refine ⟨_, plain, fun c member => ?_⟩
    rw [plain, List.mem_append, List.mem_append] at member
    rcases member with front | middle | back
    · exact base c front
    · exact noSlash c middle
    · exact ending c (List.mem_append_left _ back)
  · refine ⟨_, broken, fun c member => ?_⟩
    rw [broken, List.mem_append, List.mem_append] at member
    rcases member with front | middle | back
    · exact base c front
    · exact noSlash c middle
    · exact ending c back

theorem Image.Customary.plain {image : Image} (customary : image.Customary) :
    PlainName image.entry := by
  obtain ⟨rest, spelled, noSlash⟩ := customary.spelled
  apply plainName_of _ _ _ _ noSlash
  all_goals
    intro same
    rw [same] at spelled
    simp at spelled

end DexGraft.Apk
