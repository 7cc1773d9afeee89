import DexGraft.Proofs.Search.Kept
import DexGraft.Proofs.Search.Run

/-!
All courses that a run can take. It breaks off where its directory cannot be made,
where the archive cannot be prepared, in one of its attempts or behind them, or it
comes to a conclusion; a fault is reported when the directory is gone.
-/
namespace DexGraft.Search

open Files DexGraft.Action

def Pipeline.found (pipeline : Pipeline) (root : Path) (ready : Session)
    (images : List Apk.Image) : Found :=
  (row pipeline.setting (root / "input.apk") root ready images).search

theorem making_refused (pipeline : Pipeline) (session stopped : Session) (fault : Fault)
    (making : (pipeline.making session).perform session = (.error fault, stopped)) :
    stopped = session := by
  rw [Pipeline.making, makeTemporary, perform_bind_ok _ _ _ _ _ (perform_get session),
    perform_bind, perform_change] at making
  split at making
  · rename_i changed
    split at changed
    · cases changed
      cases making
    · cases changed
  · rename_i changed
    split at changed
    · cases changed
    · cases changed
      cases making
      rfl

theorem faulted_keeps {inv : Session → Prop} (pipeline : Pipeline) (attempts : List Attempt)
    (fault : Fault) (tolerant : Tolerant pipeline.setting inv fun _ => True) :
    Keeps inv (fun _ => True) (faulted pipeline attempts fault) := by
  unfold faulted
  split
  · exact keeps_bind (tolerant.logged ..) fun _ => keeps_bind (tolerant.told _) fun _ =>
      keeps_pure _
  · refine keeps_if (keeps_bind (keeps_throw trivial) fun _ => ?_) ?_
    all_goals
      exact keeps_bind (tolerant.logged ..) fun _ => keeps_bind (tolerant.told _) fun _ =>
        keeps_pure _

/-- What a run can come to, and the session it leaves. -/
inductive Ran (pipeline : Pipeline) (input output : Path) (material : List Signer)
    (session : Session) : Except Fault Report → Session → Prop
  | unmade (fault : Fault) (result : Except Fault Report) (stopped after : Session)
      (making : (pipeline.making session).perform session = (.error fault, stopped))
      (reporting : (faulted pipeline [] fault).perform stopped = (result, after)) :
      Ran pipeline input output material session result after
  | unprepared (root : Path) (fault : Fault) (result : Except Fault Report)
      (made stopped after : Session)
      (making : (pipeline.making session).perform session = (.ok root, made))
      (preparing : (prepared pipeline input (root / "input.apk")).perform made =
        (.error fault, stopped))
      (reporting : (faulted pipeline [] fault).perform (swept root stopped) = (result, after)) :
      Ran pipeline input output material session result after
  | unfound (root : Path) (images : List Apk.Image) (fault : Fault)
      (result : Except Fault Report) (made ready after : Session)
      (making : (pipeline.making session).perform session = (.ok root, made))
      (preparing : (prepared pipeline input (root / "input.apk")).perform made =
        (.ok images, ready))
      (broken : (pipeline.found root ready images).winner = .error fault)
      (reporting : (faulted pipeline (pipeline.found root ready images).attempts fault).perform
        (swept root (pipeline.found root ready images).session) = (result, after)) :
      Ran pipeline input output material session result after
  | unended (root : Path) (images : List Apk.Image) (winner : Option Attempt) (fault : Fault)
      (result : Except Fault Report) (made ready stopped after : Session)
      (making : (pipeline.making session).perform session = (.ok root, made))
      (preparing : (prepared pipeline input (root / "input.apk")).perform made =
        (.ok images, ready))
      (finding : (pipeline.found root ready images).winner = .ok winner)
      (concluding : (concluded pipeline root (root / "input.apk") output material
        (pipeline.found root ready images).attempts winner).perform
          (pipeline.found root ready images).session = (.error fault, stopped))
      (reporting : (faulted pipeline (pipeline.found root ready images).attempts fault).perform
        (swept root stopped) = (result, after)) :
      Ran pipeline input output material session result after
  | ended (root : Path) (images : List Apk.Image) (winner : Option Attempt)
      (conclusion : Conclusion) (made ready closing : Session)
      (making : (pipeline.making session).perform session = (.ok root, made))
      (preparing : (prepared pipeline input (root / "input.apk")).perform made =
        (.ok images, ready))
      (finding : (pipeline.found root ready images).winner = .ok winner)
      (concluding : (concluded pipeline root (root / "input.apk") output material
        (pipeline.found root ready images).attempts winner).perform
          (pipeline.found root ready images).session = (.ok conclusion, closing)) :
      Ran pipeline input output material session
        (.ok ⟨conclusion, (pipeline.found root ready images).attempts⟩) (swept root closing)

theorem searched_cases (pipeline : Pipeline) (root output : Path) (material : List Signer)
    (images : List Apk.Image) (session after : Session) (result : Except Fault Course)
    (done : (searched pipeline root (root / "input.apk") output material images).perform session =
      (result, after)) :
    (∃ fault, (pipeline.found root session images).winner = .error fault ∧
        result = .ok ((pipeline.found root session images).attempts, .error fault) ∧
        after = (pipeline.found root session images).session) ∨
      ∃ winner ending, (pipeline.found root session images).winner = .ok winner ∧
        result = .ok ((pipeline.found root session images).attempts, ending) ∧
        (concluded pipeline root (root / "input.apk") output material
          (pipeline.found root session images).attempts winner).perform
            (pipeline.found root session images).session = (ending, after) := by
  rw [searched, perform_bind_ok _ _ _ _ _ (perform_get session)] at done
  unfold Pipeline.found
  generalize (row pipeline.setting (root / "input.apk") root session images).search = found
    at done ⊢
  have set_ : (set found.session : Action PUnit).perform session = (.ok ⟨⟩, found.session) := rfl
  rw [perform_bind_ok _ _ _ _ _ set_] at done
  cases chosen : found.winner with
  | error fault =>
      rw [chosen] at done
      cases done
      exact Or.inl ⟨fault, rfl, rfl, rfl⟩
  | ok winner =>
      simp only [chosen, perform_bind, perform_tryCatch, perform_map] at done
      refine Or.inr ⟨winner, ?_⟩
      rcases concluding : (concluded pipeline root (root / "input.apk") output material
        found.attempts winner).perform found.session with ⟨fault | conclusion, closed⟩ <;>
        rw [concluding] at done <;> cases done <;> exact ⟨_, rfl, rfl, rfl⟩

theorem run_cases (pipeline : Pipeline) (input output : Path) (material : List Signer)
    (session after : Session) (result : Except Fault Report)
    (done : (pipeline.run input output material).perform session = (result, after)) :
    Ran pipeline input output material session result after := by
  rw [Pipeline.run, perform_bind, perform_tryCatch, course,
    perform_bind_ok _ _ _ _ _ (perform_get session), perform_bind] at done
  rcases making : (pipeline.making session).perform session with ⟨fault | root, made⟩
  · rw [Pipeline.making] at making
    rw [making] at done
    exact .unmade fault result made after making done
  have making' := making
  rw [Pipeline.making] at making
  simp only [making, perform_ensuring, processed, perform_bind, perform_clearTree] at done
  rcases preparing : (prepared pipeline input (root / "input.apk")).perform made with
    ⟨fault | images, ready⟩
  · rw [preparing] at done
    exact .unprepared root fault result made ready after making' preparing done
  rw [preparing] at done
  rcases searching : (searched pipeline root (root / "input.apk") output material images).perform
    ready with ⟨course, closed⟩
  simp only [searching] at done
  rcases searched_cases pipeline root output material images ready closed course searching with
    ⟨fault, broken, rfl, rfl⟩ | ⟨winner, fault | conclusion, finding, rfl, concluding⟩
  · exact .unfound root images fault result made ready after making' preparing broken done
  · exact .unended root images winner fault result made ready closed after making' preparing finding
      concluding done
  · cases done
    exact .ended root images winner conclusion made ready closed making' preparing finding
      concluding

end DexGraft.Search
