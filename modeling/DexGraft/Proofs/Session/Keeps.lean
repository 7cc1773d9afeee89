import DexGraft.Proofs.Session.Run

/-!
What actions leave in place, whether or not they end in a fault. Each way of
building actions passes an invariant on from its parts, and with it what faults
there can be.
-/
namespace DexGraft.Action

variable {α β : Type} {inv : Session → Prop} {allowed : Fault → Prop}

/-- The invariant outlasts the action however it ends, and only allowed faults end it. -/
structure Keeps (inv : Session → Prop) (allowed : Fault → Prop) (action : Action α) : Prop where
  session : ∀ session, inv session → inv (action.perform session).2
  fault : ∀ session, inv session → ∀ fault, (action.perform session).1 = .error fault →
    allowed fault

theorem unbroken {value : α} (fault : Fault)
    (ended : (Except.ok value : Except Fault α) = .error fault) : allowed fault := by
  cases ended

theorem Keeps.of_perform {action : Action α}
    (each : ∀ session, inv session → inv (action.perform session).2 ∧
      ∀ fault, (action.perform session).1 = .error fault → allowed fault) :
    Keeps inv allowed action :=
  ⟨fun session holds => (each session holds).1, fun session holds => (each session holds).2⟩

theorem Keeps.after {action : Action α} (keeps : Keeps inv allowed action) (session after : Session)
    (result : Except Fault α) (holds : inv session)
    (done : action.perform session = (result, after)) : inv after := by
  have kept := keeps.session session holds
  rw [done] at kept
  exact kept

theorem Keeps.broken {action : Action α} (keeps : Keeps inv allowed action)
    (session after : Session) (fault : Fault) (holds : inv session)
    (done : action.perform session = (.error fault, after)) : allowed fault :=
  keeps.fault session holds fault (by rw [done])

theorem keeps_pure (value : α) : Keeps inv allowed (pure value : Action α) :=
  .of_perform fun _ holds => ⟨holds, unbroken⟩

theorem keeps_get : Keeps inv allowed (get : Action Session) :=
  .of_perform fun _ holds => ⟨holds, unbroken⟩

theorem keeps_throw {fault : Fault} (fine : allowed fault) :
    Keeps inv allowed (throw fault : Action α) :=
  .of_perform fun _ holds => ⟨holds, fun _ ended => Except.error.inj ended ▸ fine⟩

theorem keeps_bind_once {first : Action α} {next : α → Action β} (front : Keeps inv allowed first)
    (back : ∀ value session middle, first.perform session = (.ok value, middle) →
      Keeps inv allowed (next value)) : Keeps inv allowed (first >>= next) := by
  refine .of_perform fun session holds => ?_
  rw [perform_bind]
  rcases ran : first.perform session with ⟨fault | value, middle⟩
  · exact ⟨front.after _ _ _ holds ran, fun other ended =>
      Except.error.inj ended ▸ front.broken _ _ _ holds ran⟩
  · have later := front.after _ _ _ holds ran
    have keeps := back value session middle ran
    exact ⟨keeps.session middle later, keeps.fault middle later⟩

theorem keeps_bind {first : Action α} {next : α → Action β} (front : Keeps inv allowed first)
    (back : ∀ value, Keeps inv allowed (next value)) : Keeps inv allowed (first >>= next) :=
  keeps_bind_once front fun value _ _ _ => back value

theorem keeps_mapM {step : α → Action β} (items : List α)
    (each : ∀ item ∈ items, Keeps inv allowed (step item)) :
    Keeps inv allowed (items.mapM step) := by
  induction items with
  | nil => exact keeps_pure []
  | cons item rest ih =>
      rw [List.mapM_cons]
      refine keeps_bind (each item List.mem_cons_self) fun first => ?_
      exact keeps_bind (ih fun other member => each other (List.mem_cons_of_mem _ member))
        fun others => keeps_pure _

theorem Keeps.bind_cases {first : Action α} {next : α → Action β} (keeps : Keeps inv allowed first)
    (session after : Session) (result : Except Fault β) (holds : inv session)
    (done : (first >>= next).perform session = (result, after)) :
    (∃ fault, result = .error fault ∧ first.perform session = (.error fault, after) ∧ inv after) ∨
      ∃ value middle, first.perform session = (.ok value, middle) ∧ inv middle ∧
        (next value).perform middle = (result, after) := by
  rw [perform_bind] at done
  rcases ran : first.perform session with ⟨fault | value, middle⟩
  · rw [ran] at done
    cases done
    exact Or.inl ⟨fault, rfl, rfl, keeps.after _ _ _ holds ran⟩
  · rw [ran] at done
    exact Or.inr ⟨value, middle, rfl, keeps.after _ _ _ holds ran, done⟩

theorem Keeps.bind_or {exception : Prop} {first : Action α} {next : α → Action β}
    (keeps : Keeps inv allowed first) (session after : Session) (result : Except Fault β)
    (holds : inv session) (done : (first >>= next).perform session = (result, after))
    (later : ∀ value middle, inv middle → (next value).perform middle = (result, after) →
      inv after ∨ exception) : inv after ∨ exception := by
  obtain ⟨_, _, _, held⟩ | ⟨value, middle, _, held, done⟩ :=
    keeps.bind_cases session after result holds done
  · exact Or.inl held
  · exact later value middle held done

theorem keeps_if {chosen : Prop} [Decidable chosen] {first second : Action α}
    (front : Keeps inv allowed first) (back : Keeps inv allowed second) :
    Keeps inv allowed (if chosen then first else second) := by
  split
  · exact front
  · exact back

theorem keeps_ask {query : Files → Except Cause α} (refused : ∀ cause, allowed (.cause cause)) :
    Keeps inv allowed (ask query) := by
  refine .of_perform fun session holds => ?_
  rw [perform_ask]
  cases query session.files with
  | error cause => exact ⟨holds, fun fault ended => Except.error.inj ended ▸ refused cause⟩
  | ok answer => exact ⟨holds, unbroken⟩

theorem keeps_change_refused {operation : Files → Except Cause Files}
    (refused : ∀ files cause, operation files = .error cause → allowed (.cause cause))
    (each : ∀ session files, inv session → operation session.files = .ok files →
      inv { session with files }) :
    Keeps inv allowed (change operation) := by
  refine .of_perform fun session holds => ?_
  rw [perform_change]
  cases done : operation session.files with
  | error cause => exact ⟨holds, fun fault ended => Except.error.inj ended ▸ refused _ cause done⟩
  | ok files => exact ⟨each session files holds done, unbroken⟩

theorem keeps_change {operation : Files → Except Cause Files}
    (refused : ∀ cause, allowed (.cause cause))
    (each : ∀ session files, inv session → operation session.files = .ok files →
      inv { session with files }) :
    Keeps inv allowed (change operation) :=
  keeps_change_refused (fun _ cause _ => refused cause) each

theorem keeps_clearTree {path : Path}
    (each : ∀ session, inv session → inv { session with files := session.files.clearTree path }) :
    Keeps inv allowed (clearTree path) :=
  .of_perform fun session holds => ⟨each session holds, unbroken⟩

theorem keeps_record {event : Event}
    (each : ∀ session, inv session → inv { session with journal := session.journal ++ [event] }) :
    Keeps inv allowed (record event) :=
  .of_perform fun session holds => ⟨each session holds, unbroken⟩

theorem keeps_record_files {holds : Files → Prop} (event : Event) :
    Keeps (fun session => holds session.files) allowed (record event) :=
  keeps_record fun _ before => before

theorem keeps_tryCatch {action : Action α} {handler : Fault → Action α} {inner : Fault → Prop}
    (front : Keeps inv inner action)
    (back : ∀ fault, inner fault → Keeps inv allowed (handler fault)) :
    Keeps inv allowed (tryCatch action handler) := by
  refine .of_perform fun session holds => ?_
  rw [perform_tryCatch]
  rcases ran : action.perform session with ⟨fault | value, middle⟩
  · have later := front.after _ _ _ holds ran
    have keeps := back fault (front.broken _ _ _ holds ran)
    exact ⟨keeps.session middle later, keeps.fault middle later⟩
  · exact ⟨front.after _ _ _ holds ran, unbroken⟩

theorem keeps_ensuring {action : Action α} {cleanup : Action Unit}
    (front : Keeps inv allowed action) (back : Keeps inv allowed cleanup) :
    Keeps inv allowed (ensuring action cleanup) := by
  refine .of_perform fun session holds => ?_
  rw [perform_ensuring]
  rcases ran : action.perform session with ⟨result, middle⟩
  have later := front.after _ _ _ holds ran
  rcases cleaned : cleanup.perform middle with ⟨fault | _, after⟩ <;> simp only [cleaned]
  · exact ⟨back.after _ _ _ later cleaned, fun other ended =>
      Except.error.inj ended ▸ back.broken _ _ _ later cleaned⟩
  · refine ⟨back.after _ _ _ later cleaned, fun fault ended => ?_⟩
    obtain rfl : result = .error fault := ended
    exact front.broken _ _ _ holds ran

theorem keeps_rewording {action : Action α} {caught : Cause → Bool} {words : Cause → Fault}
    (front : Keeps inv allowed action) (worded : ∀ cause, allowed (words cause)) :
    Keeps inv allowed (action.rewording caught words) := by
  refine keeps_tryCatch front fun fault fine => ?_
  cases fault with
  | cause cause => exact keeps_if (keeps_throw (worded cause)) (keeps_throw fine)
  | _ => exact keeps_throw fine

end DexGraft.Action
