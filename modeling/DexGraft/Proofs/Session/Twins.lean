import DexGraft.Proofs.Session.Run

/-!
Two runs side by side. They come out alike if both break, or if both come to an end and
what they come to is related; each way of building actions passes this on from its
parts.
-/
namespace DexGraft.Action

variable {α β γ δ : Type}

/-- Either both runs break, or both come to an end and then `post` holds. -/
inductive Alike (post : α → β → Session → Session → Prop) :
    Except Fault α × Session → Except Fault β × Session → Prop
  | ended {value : α} {value' : β} {after after' : Session}
      (holds : post value value' after after') :
      Alike post (.ok value, after) (.ok value', after')
  | broken (fault fault' : Fault) (after after' : Session) :
      Alike post (.error fault, after) (.error fault', after')

/-- From sessions in which `pre` holds, the two actions come out alike. -/
def Twins (pre : Session → Session → Prop) (first : Action α) (second : Action β)
    (post : α → β → Session → Session → Prop) : Prop :=
  ∀ session session', pre session session' →
    Alike post (first.perform session) (second.perform session')

abbrev Both (related : Files → Files → Prop) (session session' : Session) : Prop :=
  related session.files session'.files

abbrev Same (related : Files → Files → Prop) (value value' : α)
    (session session' : Session) : Prop :=
  value = value' ∧ related session.files session'.files

variable {pre : Session → Session → Prop} {related : Files → Files → Prop}

theorem twins_pure {post : α → β → Session → Session → Prop} {value : α} {value' : β}
    (holds : ∀ session session', pre session session' → post value value' session session') :
    Twins pre (pure value) (pure value') post :=
  fun session session' before => .ended (holds session session' before)

theorem twins_bind {first : Action α} {second : Action β} {next : α → Action γ}
    {next' : β → Action δ} {middle : α → β → Session → Session → Prop}
    {post : γ → δ → Session → Session → Prop} (front : Twins pre first second middle)
    (back : ∀ value value', Twins (middle value value') (next value) (next' value') post) :
    Twins pre (first >>= next) (second >>= next') post := by
  intro session session' before
  have alike := front session session' before
  rw [perform_bind, perform_bind]
  generalize first.perform session = ran at alike
  generalize second.perform session' = ran' at alike
  cases alike with
  | ended holds => exact back _ _ _ _ holds
  | broken fault fault' after after' => exact .broken fault fault' after after'

theorem twins_next {first second : Action α} {next : α → Action γ} {next' : α → Action δ}
    {later : Files → Files → Prop} {post : γ → δ → Session → Session → Prop}
    (front : Twins (Both related) first second (Same later))
    (back : ∀ value, Twins (Both later) (next value) (next' value) post) :
    Twins (Both related) (first >>= next) (second >>= next') post := by
  refine twins_bind front fun value value' session session' => ?_
  rintro ⟨rfl, holds⟩
  exact back value session session' holds

theorem twins_known {post : α → β → Session → Session → Prop} {first : Action α}
    {second : Action β} (known : α → Prop) (twins : Twins pre first second post)
    (each : ∀ session value after, first.perform session = (.ok value, after) → known value) :
    Twins pre first second
      (fun value value' session session' => post value value' session session' ∧ known value) := by
  intro session session' before
  have alike := twins session session' before
  have fact := each session
  generalize first.perform session = ran at alike fact
  generalize second.perform session' = ran' at alike
  cases alike with
  | ended holds => exact .ended ⟨holds, fact _ _ rfl⟩
  | broken fault fault' after after' => exact .broken fault fault' after after'

theorem twins_rewording {post : α → β → Session → Session → Prop} {first : Action α}
    {second : Action β} (caught caught' : Cause → Bool) (words words' : Cause → Fault)
    (inner : Twins pre first second post) :
    Twins pre (first.rewording caught words) (second.rewording caught' words') post := by
  intro session session' before
  have alike := inner session session' before
  rw [perform_rewording, perform_rewording]
  generalize first.perform session = ran at alike
  generalize second.perform session' = ran' at alike
  cases alike with
  | ended holds => exact .ended holds
  | broken fault fault' after after' => exact .broken _ _ after after'

theorem twins_guarded {post : α → β → Session → Session → Prop} {first : Action α}
    {second : Action β} {handler : Fault → Action α} {handler' : Fault → Action β}
    (inner : Twins pre first second post)
    (breaks : ∀ fault session, ∃ again after, (handler fault).perform session = (.error again, after))
    (breaks' : ∀ fault session,
      ∃ again after, (handler' fault).perform session = (.error again, after)) :
    Twins pre (tryCatch first handler) (tryCatch second handler') post := by
  intro session session' before
  have alike := inner session session' before
  rw [perform_tryCatch, perform_tryCatch]
  generalize first.perform session = ran at alike
  generalize second.perform session' = ran' at alike
  cases alike with
  | ended holds => exact .ended holds
  | broken fault fault' after after' =>
      obtain ⟨again, later, broken⟩ := breaks fault after
      obtain ⟨again', later', broken'⟩ := breaks' fault' after'
      simp only [broken, broken']
      exact .broken _ _ _ _

theorem twins_record (event event' : Event) :
    Twins (Both related) (record event) (record event') (Same related) :=
  fun _ _ before => .ended ⟨rfl, before⟩

theorem twins_change {operation operation' : Files → Except Cause Files}
    {later : Files → Files → Prop}
    (each : ∀ files files', related files files' →
      (∃ after after', operation files = .ok after ∧ operation' files' = .ok after' ∧
          later after after') ∨
        ∃ cause cause', operation files = .error cause ∧ operation' files' = .error cause') :
    Twins (Both related) (change operation) (change operation') (Same later) := by
  intro session session' before
  rw [perform_change, perform_change]
  rcases each _ _ before with ⟨after, after', done, done', holds⟩ | ⟨cause, cause', failed, failed'⟩
  · rw [done, done']
    exact .ended ⟨rfl, holds⟩
  · rw [failed, failed']
    exact .broken _ _ _ _

end DexGraft.Action
