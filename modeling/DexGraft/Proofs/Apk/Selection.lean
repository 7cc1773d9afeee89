import DexGraft.Proofs.Apk.Image

/-!
The selection as a sort. Just the names that have a priority are selected, as often as they
are listed; they come in descending priority, and those of one priority in the order of the
list. Where all priorities differ, the order of the list does not matter.
-/
namespace DexGraft.Apk

def rank? (base ending name : String) : Option Nat :=
  (imagePriority name base ending).toOption.join

theorem imageOf_rank (base ending name : String) :
    imageOf? base ending name = (rank? base ending name).map fun priority => ⟨name, priority⟩ := rfl

/-- The images of the names that have a priority, each as often as it is named, in descending
priority and, where it is the same, in the order of the names. -/
structure Selected (names : List String) (base ending : String) (images : List Image) : Prop where
  entries : (images.map Image.entry).Perm
    (names.filter fun name => (rank? base ending name).isSome)
  ranked : ∀ image ∈ images, imagePriority image.entry base ending = .ok (some image.priority)
  descending : images.Pairwise fun first second => second.priority ≤ first.priority
  stable : ∀ priority, (images.filter fun image => image.priority = priority).map Image.entry =
    names.filter fun name => rank? base ending name = some priority

section

variable {names : List String} {base ending : String}

theorem named_images :
    (names.filterMap (imageOf? base ending)).map Image.entry =
      names.filter fun name => (rank? base ending name).isSome := by
  induction names with
  | nil => rfl
  | cons name rest ih =>
      cases known : rank? base ending name <;>
        simp [imageOf_rank, known, ih]

theorem named_alike (priority : Nat) :
    ((names.filterMap (imageOf? base ending)).filter
        fun image => image.priority = priority).map Image.entry =
      names.filter fun name => rank? base ending name = some priority := by
  induction names with
  | nil => rfl
  | cons name rest ih =>
      cases known : rank? base ending name with
      | none => simp [imageOf_rank, known, ih]
      | some number =>
          by_cases same : number = priority <;> simp [imageOf_rank, known, same, ih]

theorem named_ranks :
    (names.filterMap (imageOf? base ending)).map Image.priority =
      names.filterMap (rank? base ending) := by
  induction names with
  | nil => rfl
  | cons name rest ih =>
      cases known : rank? base ending name <;> simp [imageOf_rank, known, ih]

theorem Ranked.selected {images : List Image}
    (ranked : Ranked (names.filterMap (imageOf? base ending)) images) :
    Selected names base ending images where
  entries := named_images ▸ ranked.same.map Image.entry
  ranked image member := by
    obtain ⟨name, _, stands⟩ := List.mem_filterMap.mp (ranked.same.mem_iff.mp member)
    obtain ⟨rfl, known⟩ := (imageOf_eq_some ..).mp stands
    exact known
  descending := ranked.descending
  stable priority := by rw [ranked.stable, named_alike]

theorem Ranked.ranks {images : List Image}
    (ranked : Ranked (names.filterMap (imageOf? base ending)) images) :
    (images.map Image.priority).Perm (names.filterMap (rank? base ending)) :=
  named_ranks ▸ ranked.same.map Image.priority

-- With every priority read, the selection is the sort, unless nothing is there to be sorted.
theorem selectImages_eq
    (readable : ∀ name ∈ names, ∃ priority?, imagePriority name base ending = .ok priority?) :
    selectImages names base ending =
      if names.filterMap (imageOf? base ending) = [] then .error (.noImages base ending)
      else .ok ((names.filterMap (imageOf? base ending)).mergeSort
        fun first second => second.priority ≤ first.priority) := by
  have listed := (candidates_eq_ok names base ending _).mpr ⟨readable, rfl⟩
  rw [selectImages, listed]
  by_cases empty : names.filterMap (imageOf? base ending) = []
  · simp only [empty, if_true]
    rfl
  · rw [if_neg empty]
    simp only [bind, Except.bind, List.isEmpty_iff, empty, if_false]
    rfl

theorem unlisted_iff
    (readable : ∀ name ∈ names, ∃ priority?, imagePriority name base ending = .ok priority?) :
    names.filterMap (imageOf? base ending) = [] ↔
      ∀ name ∈ names, imagePriority name base ending = .ok none := by
  rw [List.filterMap_eq_nil_iff]
  refine forall₂_congr fun name member => ?_
  obtain ⟨priority?, known⟩ := readable name member
  cases priority? <;> simp [imageOf?, known, Except.toOption]

theorem selectImages_reordered {others : List String}
    (readable : ∀ name ∈ names, ∃ priority?, imagePriority name base ending = .ok priority?)
    (same : others.Perm names) (apart : (names.filterMap (rank? base ending)).Nodup) :
    selectImages others base ending = selectImages names base ending := by
  have listed : (others.filterMap (imageOf? base ending)).Perm
      (names.filterMap (imageOf? base ending)) := same.filterMap _
  have chosen := selectImages_eq readable
  by_cases empty : names.filterMap (imageOf? base ending) = []
  · have others_readable : ∀ name ∈ others,
        ∃ priority?, imagePriority name base ending = .ok priority? :=
      fun name member => readable name (same.mem_iff.mp member)
    rw [chosen, selectImages_eq others_readable, if_pos empty,
      if_pos (List.perm_nil.mp (empty ▸ listed))]
  · rw [if_neg empty] at chosen
    have distinct := (ranked_mergeSort (names.filterMap (imageOf? base ending))).ranks.nodup_iff
    rw [chosen, selectImages_perm names others base ending _ chosen (distinct.mpr apart)
      (fun name member => same.mem_iff.mp member) listed]

end

/-- The selection is a stable descending sort of the names that have a priority, and is refused only
where there is none. Of names whose priorities all differ it is the same in every order. -/
theorem selectImages_sorts (names : List String) (base ending : String)
    (readable : ∀ name ∈ names, ∃ priority?, imagePriority name base ending = .ok priority?) :
    (selectImages names base ending = .error (.noImages base ending) ↔
        ∀ name ∈ names, imagePriority name base ending = .ok none) ∧
      ((∃ name ∈ names, ∃ priority, imagePriority name base ending = .ok (some priority)) →
        ∃ images, selectImages names base ending = .ok images ∧
          Selected names base ending images) ∧
      ∀ others : List String, others.Perm names → (names.filterMap (rank? base ending)).Nodup →
        selectImages others base ending = selectImages names base ending := by
  have chosen := selectImages_eq readable
  refine ⟨?_, ?_, fun others => selectImages_reordered readable⟩
  · rw [chosen, ← unlisted_iff readable]
    split <;> simp_all
  · rintro ⟨name, member, priority, known⟩
    have listed : names.filterMap (imageOf? base ending) ≠ [] := by
      intro none
      have unknown := (unlisted_iff readable).mp none name member
      rw [known] at unknown
      cases unknown
    rw [if_neg listed] at chosen
    exact ⟨_, chosen, (ranked_mergeSort _).selected⟩

theorem selectImages_sorts_tied :
    let names := ["classes.dex", "readme", "classes01.dex", "classes2.dex", "classes.dex"]
    (∀ name ∈ names, ∃ priority?,
        imagePriority name defaultBase defaultExtension = .ok priority?) ∧
      (∃ images, selectImages names defaultBase defaultExtension = .ok images ∧
        Selected names defaultBase defaultExtension images ∧
        (images.filter fun image => image.priority = 1).map Image.entry =
          ["classes.dex", "classes01.dex", "classes.dex"]) ∧
      selectImages ["classes01.dex", "classes2.dex"] defaultBase defaultExtension =
        selectImages ["classes2.dex", "classes01.dex"] defaultBase defaultExtension := by
  intro names
  have readable : ∀ name ∈ names, ∃ priority?,
      imagePriority name defaultBase defaultExtension = .ok priority? := by
    have all : ∀ name ∈ names,
        (imagePriority name defaultBase defaultExtension).toOption.isSome = true := by
      decide +kernel
    exact fun name member => Checked.ok_of_isSome (all name member)
  obtain ⟨_, sorted, _⟩ := selectImages_sorts names defaultBase defaultExtension readable
  obtain ⟨images, done, selected⟩ := sorted ⟨"classes.dex", by decide, 1, rfl⟩
  have few : ∀ name ∈ ["classes2.dex", "classes01.dex"], name ∈ names := by decide
  refine ⟨readable, ⟨images, done, selected, ?_⟩, ?_⟩
  · rw [selected.stable]
    decide +kernel
  · exact (selectImages_sorts ["classes2.dex", "classes01.dex"] defaultBase defaultExtension
      fun name member => readable name (few name member)).2.2 _ (.swap ..) (by decide +kernel)

end DexGraft.Apk
