import DexGraft.Session
import Mathlib.Tactic.Common

/-!
How actions run. An action takes a session to a result and to the session that it
leaves; each rule below says this for one way of building actions, so that what a
whole action does can be read off its parts.
-/
namespace DexGraft.Action

variable {α β : Type}

/-- What an action makes of a session: its result, and the session as it leaves it. -/
def perform (action : Action α) (session : Session) : Except Fault α × Session :=
  action.run session

theorem perform_pure (value : α) (session : Session) :
    (pure value : Action α).perform session = (.ok value, session) := rfl

theorem perform_throw (fault : Fault) (session : Session) :
    (throw fault : Action α).perform session = (.error fault, session) := rfl

theorem perform_raise (cause : Cause) (session : Session) :
    (raise cause : Action α).perform session = (.error (.cause cause), session) := rfl

theorem perform_get (session : Session) :
    (get : Action Session).perform session = (.ok session, session) := rfl

theorem perform_bind (first : Action α) (next : α → Action β) (session : Session) :
    (first >>= next).perform session =
      match first.perform session with
      | (.ok value, middle) => (next value).perform middle
      | (.error fault, middle) => (.error fault, middle) := by
  simp only [perform, ExceptT.run, bind, ExceptT.bind, ExceptT.mk, StateT.bind]
  rcases first session with ⟨_ | _, middle⟩ <;> rfl

theorem perform_bind_ok (first : Action α) (next : α → Action β) (session middle : Session)
    (value : α) (ran : first.perform session = (.ok value, middle)) :
    (first >>= next).perform session = (next value).perform middle := by
  rw [perform_bind, ran]

theorem perform_of_toOption (action : Action α) (session : Session) (value : α)
    (seen : (action.perform session).1.toOption = some value) :
    action.perform session = (.ok value, (action.perform session).2) := by
  rcases ran : action.perform session with ⟨fault | found, after⟩ <;> rw [ran] at seen
  · cases seen
  · cases seen
    rfl

theorem bind_eq_ok (first : Action α) (next : α → Action β) (session after : Session) (value : β) :
    (first >>= next).perform session = (.ok value, after) ↔
      ∃ between middle, first.perform session = (.ok between, middle) ∧
        (next between).perform middle = (.ok value, after) := by
  rw [perform_bind]
  rcases first.perform session with ⟨fault | between, middle⟩ <;> simp

theorem perform_map (action : Action α) (view : α → β) (session : Session) :
    (view <$> action).perform session =
      match action.perform session with
      | (.ok value, after) => (.ok (view value), after)
      | (.error fault, after) => (.error fault, after) := by
  rw [map_eq_pure_bind, perform_bind]
  rcases action.perform session with ⟨_ | _, after⟩ <;> rfl

theorem perform_tryCatch (action : Action α) (handler : Fault → Action α) (session : Session) :
    (tryCatch action handler).perform session =
      match action.perform session with
      | (.ok value, after) => (.ok value, after)
      | (.error fault, after) => (handler fault).perform after := by
  simp only [perform, tryCatch, tryCatchThe, MonadExceptOf.tryCatch, ExceptT.tryCatch,
    ExceptT.run, ExceptT.mk, bind, StateT.bind]
  rcases action session with ⟨_ | _, after⟩ <;> rfl

theorem perform_record (event : Event) (session : Session) :
    (record event).perform session =
      (.ok (), { session with journal := session.journal ++ [event] }) := rfl

theorem perform_log (level : Level) (message : String) (session : Session) :
    (log level message).perform session =
      (.ok (), { session with journal := session.journal ++ [.logged level message] }) := rfl

theorem perform_ofExcept (given : Except Cause α) (session : Session) :
    (ofExcept given).perform session = (given.mapError .cause, session) := by
  cases given <;> rfl

theorem perform_ask (query : Files → Except Cause α) (session : Session) :
    (ask query).perform session = ((query session.files).mapError .cause, session) :=
  perform_ofExcept (query session.files) session

theorem perform_change (operation : Files → Except Cause Files) (session : Session) :
    (change operation).perform session =
      match operation session.files with
      | .ok files => (.ok (), { session with files })
      | .error cause => (.error (.cause cause), session) := by
  rw [change, perform_bind, perform_ask]
  cases operation session.files <;> rfl

theorem pure_eq_ok (given value : α) (session after : Session) :
    (pure given : Action α).perform session = (.ok value, after) ↔
      given = value ∧ session = after := by
  rw [perform_pure]
  simp

theorem throw_ne_ok (fault : Fault) (session after : Session) (value : α) :
    (throw fault : Action α).perform session ≠ (.ok value, after) := by
  rw [perform_throw]
  simp

theorem record_eq_ok (event : Event) (session after : Session) (value : Unit) :
    (record event).perform session = (.ok value, after) ↔
      after = { session with journal := session.journal ++ [event] } := by
  rw [perform_record]
  simp [eq_comm]

theorem log_eq_ok (level : Level) (message : String) (session after : Session) (value : Unit) :
    (log level message).perform session = (.ok value, after) ↔
      after = { session with journal := session.journal ++ [.logged level message] } :=
  record_eq_ok _ session after value

theorem get_eq_ok (given session after : Session) :
    (get : Action Session).perform session = (.ok given, after) ↔
      session = given ∧ session = after := by
  rw [perform_get]
  simp

theorem set_eq_ok (given session after : Session) (value : PUnit) :
    (set given : Action PUnit).perform session = (.ok value, after) ↔ given = after := by
  change (Except.ok PUnit.unit, given) = (Except.ok value, after) ↔ given = after
  simp

theorem ofExcept_eq_ok (given : Except Cause α) (session after : Session) (value : α) :
    (ofExcept given).perform session = (.ok value, after) ↔
      given = .ok value ∧ session = after := by
  rw [perform_ofExcept]
  cases given <;> simp [Except.mapError]

theorem ask_eq_ok (query : Files → Except Cause α) (session after : Session) (value : α) :
    (ask query).perform session = (.ok value, after) ↔
      query session.files = .ok value ∧ session = after := by
  rw [perform_ask]
  cases query session.files <;> simp [Except.mapError]

theorem change_eq_ok (operation : Files → Except Cause Files) (session after : Session)
    (value : Unit) :
    (change operation).perform session = (.ok value, after) ↔
      ∃ files, operation session.files = .ok files ∧ after = { session with files } := by
  rw [perform_change]
  cases operation session.files <;> simp [eq_comm]

theorem fileSize_eq_ok (path : Path) (session after : Session) (size : Nat) :
    (fileSize path).perform session = (.ok size, after) ↔
      session.files.size path = .ok size ∧ session = after :=
  ask_eq_ok ..

theorem perform_clearTree (path : Path) (session : Session) :
    (clearTree path).perform session =
      (.ok (), { session with files := session.files.clearTree path }) := rfl

def reworded (caught : Cause → Bool) (words : Cause → Fault) : Fault → Fault
  | .cause cause => if caught cause then words cause else .cause cause
  | fault => fault

theorem perform_rewording (caught : Cause → Bool) (words : Cause → Fault) (action : Action α)
    (session : Session) :
    (rewording caught words action).perform session =
      match action.perform session with
      | (.ok value, after) => (.ok value, after)
      | (.error fault, after) => (.error (reworded caught words fault), after) := by
  rw [rewording, perform_tryCatch]
  rcases action.perform session with ⟨fault | value, after⟩
  · cases fault <;> simp only [reworded, perform_throw]
    split <;> rfl
  · rfl

theorem rewording_eq_ok (caught : Cause → Bool) (words : Cause → Fault) (action : Action α)
    (session after : Session) (value : α) :
    (rewording caught words action).perform session = (.ok value, after) ↔
      action.perform session = (.ok value, after) := by
  rw [perform_rewording]
  rcases action.perform session with ⟨fault | value, after⟩ <;> simp

theorem tryCatch_eq_ok (action : Action α) (handler : Fault → Action α) (session after : Session)
    (value : α) :
    (tryCatch action handler).perform session = (.ok value, after) ↔
      action.perform session = (.ok value, after) ∨
        ∃ fault middle, action.perform session = (.error fault, middle) ∧
          (handler fault).perform middle = (.ok value, after) := by
  rw [perform_tryCatch]
  rcases action.perform session with ⟨fault | found, middle⟩ <;> simp

theorem guarded_ok (action : Action Unit) (handler : Fault → Action (Option α))
    (session after : Session) (refusal? : Option α)
    (done : (tryCatch (do action; return none) handler).perform session = (.ok refusal?, after)) :
    (action.perform session = (.ok (), after) ∧ refusal? = none) ∨
      ∃ fault middle, action.perform session = (.error fault, middle) ∧
        (handler fault).perform middle = (.ok refusal?, after) := by
  rw [perform_tryCatch, perform_bind] at done
  rcases ran : action.perform session with ⟨fault | _, middle⟩ <;> rw [ran] at done
  · exact Or.inr ⟨fault, middle, rfl, done⟩
  · cases done
    exact Or.inl ⟨rfl, rfl⟩

theorem perform_ensuring (action : Action α) (cleanup : Action Unit) (session : Session) :
    (ensuring action cleanup).perform session =
      match action.perform session with
      | (result, middle) =>
          match cleanup.perform middle with
          | (.ok _, after) => (result, after)
          | (.error fault, after) => (.error fault, after) := by
  rw [ensuring, perform_bind, perform_tryCatch, perform_map]
  rcases action.perform session with ⟨fault | value, middle⟩ <;>
    simp only [perform_pure, perform_bind] <;>
    rcases cleanup.perform middle with ⟨_ | _, after⟩ <;> rfl

end DexGraft.Action
