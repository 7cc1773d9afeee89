/-!
Chains of checks. A chain that comes to a value went through every link, and past
every guard on its way; a chain that breaks does so in one of its links.
-/
namespace DexGraft.Checked

variable {Cause Value Result : Type}

theorem bind_eq_ok {first : Except Cause Value} {next : Value → Except Cause Result}
    {result : Result} :
    (first >>= next) = .ok result ↔ ∃ value, first = .ok value ∧ next value = .ok result := by
  cases first with
  | error cause => simp [bind, Except.bind]
  | ok value => simp [bind, Except.bind]

theorem guard_eq_ok {refused : Prop} [Decidable refused] {cause : Cause}
    {next : PUnit → Except Cause Result} {result : Result} :
    (if refused then (throw cause >>= next) else next ⟨⟩) = .ok result ↔
      ¬refused ∧ next ⟨⟩ = .ok result := by
  by_cases stop : refused
  · simp [stop, throw, throwThe, MonadExceptOf.throw, bind, Except.bind]
  · simp [stop]

theorem throw_ne_ok {cause : Cause} {result : Result} :
    (throw cause : Except Cause Result) ≠ .ok result := by
  simp [throw, throwThe, MonadExceptOf.throw]

theorem ok_of_isSome {chain : Except Cause Value} (there : chain.toOption.isSome = true) :
    ∃ value, chain = .ok value := by
  cases chain with
  | error cause => cases there
  | ok value => exact ⟨value, rfl⟩

theorem ok_of_toOption {chain : Except Cause Value} {value : Value}
    (there : chain.toOption = some value) : chain = .ok value := by
  cases chain with
  | error cause => cases there
  | ok found => rw [Option.some.inj there]

theorem mapM_all {Given : Type} (step : Value → Except Cause Result) (given : Given → Value)
    (view : Given → Result) (list : List Given)
    (all : ∀ item ∈ list, step (given item) = .ok (view item)) :
    (list.map given).mapM step = .ok (list.map view) := by
  induction list with
  | nil => rfl
  | cons first rest ih =>
      have here := all first List.mem_cons_self
      have others := ih fun item member => all item (List.mem_cons_of_mem _ member)
      rw [List.map_cons, List.mapM_cons, here, others]
      rfl

section

variable {allowed : Cause → Prop}

end

end DexGraft.Checked
