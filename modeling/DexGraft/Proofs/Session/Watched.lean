import DexGraft.Proofs.Session.Run

/-!
Actions under watch. A watched action also tells what the files were after each of its
steps, so that something can be said of the moments on its way; without the watch it is
an action like any other.
-/
namespace DexGraft

/-- What a run passes through: the files at its moments, its result, and the session it leaves. -/
structure Watched.Run (α : Type) where
  moments : List Files
  result : Except Fault α
  after : Session

/-- An action that tells the moments of its run. -/
def Watched (α : Type) : Type := Session → Watched.Run α

namespace Watched

variable {α β : Type}

def watch (watched : Watched α) (session : Session) : Run α := watched session

def step (action : Action α) : Watched α := fun session =>
  let (result, after) := action.perform session
  ⟨[after.files], result, after⟩

instance : Monad Watched where
  pure value := fun session => ⟨[], .ok value, session⟩
  bind first next := fun session =>
    match first session with
    | ⟨moments, .error fault, middle⟩ => ⟨moments, .error fault, middle⟩
    | ⟨moments, .ok value, middle⟩ =>
        let later := next value middle
        { later with moments := moments ++ later.moments }

def ensuring (watched : Watched α) (cleanup : Watched Unit) : Watched α := fun session =>
  let ran := watched session
  let cleaned := cleanup ran.after
  { moments := ran.moments ++ cleaned.moments
    result := match cleaned.result with
      | .ok _ => ran.result
      | .error fault => .error fault
    after := cleaned.after }

def action (watched : Watched α) : Action α := fun session =>
  ((watched session).result, (watched session).after)

theorem perform_action (watched : Watched α) (session : Session) :
    watched.action.perform session =
      ((watched.watch session).result, (watched.watch session).after) := rfl

theorem watch_step (given : Action α) (session : Session) :
    (step given).watch session = ⟨[(given.perform session).2.files], (given.perform session).1,
      (given.perform session).2⟩ := rfl

theorem watch_pure (value : α) (session : Session) :
    (pure value : Watched α).watch session = ⟨[], .ok value, session⟩ := rfl

theorem watch_bind (first : Watched α) (next : α → Watched β) (session : Session) :
    (first >>= next).watch session =
      match first.watch session with
      | ⟨moments, .error fault, middle⟩ => ⟨moments, .error fault, middle⟩
      | ⟨moments, .ok value, middle⟩ =>
          { (next value).watch middle with
            moments := moments ++ ((next value).watch middle).moments } := rfl

theorem watch_ensuring (watched : Watched α) (cleanup : Watched Unit) (session : Session) :
    (watched.ensuring cleanup).watch session =
      let ran := watched.watch session
      let cleaned := cleanup.watch ran.after
      { moments := ran.moments ++ cleaned.moments
        result := match cleaned.result with
          | .ok _ => ran.result
          | .error fault => .error fault
        after := cleaned.after } := rfl

theorem action_ext {first second : Action α}
    (same : ∀ session, first.perform session = second.perform session) : first = second :=
  funext same

theorem action_bind (first : Watched α) (next : α → Watched β) :
    (first >>= next).action = first.action >>= fun value => (next value).action := by
  refine action_ext fun session => ?_
  rw [perform_action, watch_bind, Action.perform_bind, perform_action]
  rcases first.watch session with ⟨moments, fault | value, middle⟩ <;> rfl

theorem action_ensuring (watched : Watched α) (cleanup : Watched Unit) :
    (watched.ensuring cleanup).action = watched.action.ensuring cleanup.action := by
  refine action_ext fun session => ?_
  rw [perform_action, watch_ensuring, Action.perform_ensuring, perform_action]
  simp only [perform_action]
  rcases (cleanup.watch (watched.watch session).after) with ⟨moments, fault | _, after⟩ <;> rfl

end Watched
end DexGraft
