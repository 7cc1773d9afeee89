import DexGraft.Proofs.Files.Destination
import DexGraft.Proofs.Files.Mirror

/-!
Paths that lead down from wherever they begin. Whether a path does is for its names alone to say,
and no other path stays under every place that it may begin at.
-/
namespace DexGraft.Files

/-- A relative path that never leads above where it begins. -/
def Descends (path : Path) : Prop :=
  path.isAbsolute = false ∧ ∃ goal, follow [] path.parts = some goal

instance (path : Path) : Decidable (Descends path) :=
  decidable_of_iff (path.isAbsolute = false ∧ (follow [] path.parts).isSome = true) (by
    rw [Option.isSome_iff_exists, Descends])

theorem onward_append (place : Place) (names more : List String) :
    onward place (names ++ more) = onward (onward place names) more :=
  List.foldl_append ..

theorem onward_follow (place : Place) (front names goal : List String)
    (within : follow front names = some goal) : onward (place ++ front) names = place ++ goal := by
  induction names generalizing front with
  | nil =>
      cases within
      rfl
  | cons name rest ih =>
      rw [follow] at within
      rw [onward, List.foldl_cons]
      split at within
      · rename_i up
        split at within
        · cases within
        · rename_i filled
          rw [if_pos up, List.dropLast_append_of_ne_nil filled]
          exact ih _ within
      · rename_i down
        rw [if_neg down, List.append_assoc]
        exact ih _ within

theorem follow_eq_none {front names : List String} (out : follow front names = none) :
    ∃ before after, names = before ++ ".." :: after ∧ follow front before = some [] := by
  induction names generalizing front with
  | nil => cases out
  | cons name rest ih =>
      rw [follow] at out
      split at out
      · rename_i up
        split at out
        · rename_i none
          exact ⟨[], rest, by rw [up]; rfl, by rw [follow, none]⟩
        · rename_i filled
          obtain ⟨before, after, rfl, back⟩ := ih out
          exact ⟨name :: before, after, rfl, by rw [follow, if_pos up, if_neg filled, back]⟩
      · rename_i down
        obtain ⟨before, after, rfl, back⟩ := ih out
        exact ⟨name :: before, after, rfl, by rw [follow, if_neg down, back]⟩

theorem destination_join (here : Place) (base path : Path) (relative : path.isAbsolute = false) :
    destination here (base.join path) = onward (destination here base) path.parts := by
  have joined : base.join path = { base with parts := base.parts ++ path.parts } := by
    rw [Path.join, relative]
    rfl
  rw [joined]
  exact onward_append ..

theorem Descends.leads {path : Path} (descends : Descends path) :
    ∃ goal, follow [] path.parts = some goal ∧ ∀ here base,
      destination here (base.join path) = destination here base ++ goal := by
  obtain ⟨relative, goal, within⟩ := descends
  refine ⟨goal, within, fun here base => ?_⟩
  have down := onward_follow (destination here base) [] path.parts goal within
  rwa [List.append_nil, ← destination_join here base path relative] at down

theorem exists_fresh (names : List String) : ∃ fresh : String, fresh ∉ names ∧ fresh ≠ ".." := by
  -- Longer than all names together.
  refine ⟨String.ofList ('a' :: (names.map String.toList).flatten), fun member => ?_, fun up => ?_⟩
  · have size := (List.infix_of_mem_flatten (List.mem_map_of_mem (f := String.toList) member)).length_le
    rw [String.toList_ofList, List.length_cons] at size
    omega
  · have first := congrArg (fun name => name.toList.head?) up
    simp at first

/-- A path that descends leads under its base, whatever that is; each other one leads out of some
base. -/
theorem descends_iff (path : Path) :
    Descends path ↔ ∀ here base, destination here base <+: destination here (base.join path) := by
  constructor
  · intro descends here base
    obtain ⟨goal, _, leads⟩ := descends.leads
    rw [leads]
    exact List.prefix_append _ _
  · intro under
    obtain ⟨fresh, other, down⟩ := exists_fresh path.parts
    have spot : destination [] ⟨1, [fresh]⟩ = [fresh] := by
      simp [destination, onward, Path.isAbsolute, down]
    have covers := under [] ⟨1, [fresh]⟩
    rw [spot] at covers
    -- The base has a name that the path lacks, so the path cannot come back once it has left.
    have none_left : ∀ names, (∀ name ∈ names, name ∈ path.parts) → ¬[fresh] <+: onward [] names := by
      intro names own short
      have member := mem_onward [] names fresh (short.subset (List.mem_singleton_self fresh))
      exact other (own fresh member)
    have relative : path.isAbsolute = false := by
      by_contra absolute
      have whole : (Path.join ⟨1, [fresh]⟩ path) = path := if_pos (by simpa using absolute)
      rw [whole, destination, if_pos (by simpa using absolute)] at covers
      exact none_left path.parts (fun _ => id) covers
    refine ⟨relative, ?_⟩
    by_contra out
    obtain ⟨before, after, parts, back⟩ :=
      follow_eq_none (Option.eq_none_iff_forall_ne_some.mpr fun goal within => out ⟨goal, within⟩)
    have returned := onward_follow [fresh] [] before [] back
    rw [destination_join [] _ path relative, spot, parts, onward_append, ← List.append_nil [fresh],
      returned] at covers
    refine none_left after (fun name member => ?_) covers
    rw [parts]
    exact List.mem_append_right _ (List.mem_cons_of_mem _ member)

end DexGraft.Files
