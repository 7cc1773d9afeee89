import DexGraft.Proofs.Session.Keeps
import DexGraft.Tool.Program

/-!
One run of a program, as whoever asked for it gets to know of it. A command with a NUL
in it is never run. Otherwise the program runs once, on the files as they are, and what
it leaves is what the session goes on with.
-/
namespace DexGraft

def Session.launched (session : Session) (command : List String) (left : Files) : Session :=
  { session with files := left, journal := session.journal ++ [.launched command] }

@[simp] theorem Session.launched_files (session : Session) (command : List String) (left : Files) :
    (session.launched command left).files = left := rfl

@[simp] theorem Session.launched_journal (session : Session) (command : List String)
    (left : Files) :
    (session.launched command left).journal = session.journal ++ [.launched command] := rfl

namespace Tool

open DexGraft.Action

def Passable (command : List String) : Prop :=
  ∀ argument ∈ command, ∀ c ∈ argument.toList, c.toNat ≠ 0

theorem passable_iff (command : List String) :
    Passable command ↔
      (command.any fun argument => argument.toList.any (·.toNat == 0)) = false := by
  simp [Passable]

instance (command : List String) : Decidable (Passable command) :=
  decidable_of_iff _ (passable_iff command).symm

def Run.Ended (status : Int) : Run → Prop
  | .finished ended output errors =>
      ended = status ∧ output.toText?.isSome = true ∧ errors.toText?.isSome = true
  | _ => False

/-- What comes of a run that nobody puts into the words of a tool: a program that wrote no
text, and a cause that is neither a refusal of the system nor an overrun. -/
def Run.Escapes (cause : Cause) : Run → Prop
  | .refused refusal => refusal = cause ∧ isNotRun refusal = false
  | .timedOut => False
  | .finished _ output errors =>
      cause = .notUtf8 ∧ (output.toText? = none ∨ errors.toText? = none)

/-- What a caller hears of a run. -/
inductive Heard (own : String → Fault) (run : Run) : Except Fault Finished → Prop
  | ended (finished : Finished) (status : run.Ended finished.status) :
      Heard own run (.ok finished)
  | worded (text : String) (unended : ∀ status, ¬run.Ended status)
      (worded : ∀ cause, ¬run.Escapes cause) : Heard own run (.error (own text))
  | escaped (cause : Cause) (escapes : run.Escapes cause) : Heard own run (.error (.cause cause))

theorem Run.Ended.escapes {run : Run} {status : Int} (ended : run.Ended status) (cause : Cause) :
    ¬run.Escapes cause := by
  cases run with
  | finished found output errors =>
      obtain ⟨_, output, errors⟩ := ended
      rintro ⟨_, garbled | garbled⟩ <;> simp_all
  | _ => exact ended.elim

theorem Run.Ended.same {run : Run} {first second : Int} (once : run.Ended first)
    (again : run.Ended second) : first = second := by
  cases run with
  | finished found output errors => exact once.1.symm.trans again.1
  | _ => exact once.elim

theorem Run.Escapes.same {run : Run} {first second : Cause} (once : run.Escapes first)
    (again : run.Escapes second) : first = second := by
  cases run with
  | refused cause => exact once.1.symm.trans again.1
  | timedOut => exact once.elim
  | finished status output errors => exact once.1.trans again.1.symm

def Run.told (command : List String) (timeout : Int) : Run → Action Finished
  | .refused cause => raise cause
  | .timedOut => raise (.timedOut (command.headD "") timeout)
  | .finished status output errors => do
      return { status, output := ← outputText output, errors := ← outputText errors }

/-- How an adapter answers: when it returns, and what its faults are. All of them are in its own
words, except for causes that slip through. -/
structure Answers (own : String → Fault) (returned : Prop) (slips : Cause → Prop)
    (result : Except Fault Unit) : Prop where
  returns : result = .ok () ↔ returned
  faults : ∀ fault, result = .error fault → (∃ text, fault = own text) ∨
    ∃ cause, fault = .cause cause ∧ slips cause
  slipped : ∀ cause, slips cause → result = .error (.cause cause)

section

variable {own : String → Fault} {returned : Prop} {slips : Cause → Prop}

theorem answers_returned (well : returned) (clean : ∀ cause, ¬slips cause) :
    Answers own returned slips (.ok ()) :=
  ⟨⟨fun _ => well, fun _ => rfl⟩, unbroken, fun cause slip => absurd slip (clean cause)⟩

theorem answers_worded (text : String) (ill : ¬returned) (clean : ∀ cause, ¬slips cause) :
    Answers own returned slips (.error (own text)) :=
  ⟨⟨fun ended => (by cases ended), fun well => absurd well ill⟩,
    fun _ ended => Or.inl ⟨text, (Except.error.inj ended).symm⟩,
    fun cause slip => absurd slip (clean cause)⟩

theorem answers_slipped (cause : Cause) (ill : ¬returned) (slip : slips cause)
    (single : ∀ other, slips other → other = cause) :
    Answers own returned slips (.error (.cause cause)) :=
  ⟨⟨fun ended => (by cases ended), fun well => absurd well ill⟩,
    fun _ ended => Or.inr ⟨cause, (Except.error.inj ended).symm, slip⟩,
    fun other again => by rw [single other again]⟩

theorem Answers.congr {result : Except Fault Unit} (answers : Answers own returned slips result)
    {returned' : Prop} {slips' : Cause → Prop} (same : returned ↔ returned')
    (alike : ∀ cause, slips cause ↔ slips' cause) : Answers own returned' slips' result := by
  obtain rfl : returned = returned' := propext same
  obtain rfl : slips = slips' := funext fun cause => propext (alike cause)
  exact answers

end

/-- An adapter that goes on with a program that has ended. Only with status 0 may it return, or may
more slip through than what escapes from the run. -/
theorem Heard.answers_next {own : String → Fault} {run : Run} {heard : Except Fault Finished}
    (found : Heard own run heard) {returned : Prop} {slips : Cause → Prop}
    (next : Finished → Except Fault Unit)
    (judged : ∀ finished, Answers own (finished.status = 0 ∧ returned)
      (fun cause => finished.status = 0 ∧ slips cause) (next finished)) :
    Answers own (run.Ended 0 ∧ returned)
      (fun cause => run.Escapes cause ∨ run.Ended 0 ∧ slips cause) (heard.bind next) := by
  cases found with
  | ended finished status =>
      have zero : finished.status = 0 ↔ run.Ended 0 :=
        ⟨fun well => well ▸ status, fun ended => status.same ended⟩
      refine (judged finished).congr (by rw [zero]) fun cause => ?_
      rw [zero]
      exact (or_iff_right (status.escapes cause)).symm
  | worded text unended worded =>
      refine answers_worded text (fun well => unended 0 well.1) ?_
      rintro cause (escapes | ⟨ended, _⟩)
      · exact worded cause escapes
      · exact unended 0 ended
  | escaped cause escapes =>
      refine answers_slipped cause (fun well => well.1.escapes cause escapes) (Or.inl escapes) ?_
      rintro other (again | ⟨ended, _⟩)
      · exact again.same escapes
      · exact absurd escapes (ended.escapes cause)

theorem Heard.answers {own : String → Fault} {run : Run} {heard : Except Fault Finished}
    (words : Finished → String) (found : Heard own run heard) :
    Answers own (run.Ended 0) (fun cause => run.Escapes cause) (heard.bind fun finished =>
      if finished.status ≠ 0 then .error (own (words finished)) else .ok ()) := by
  have judged : ∀ finished : Finished, Answers own (finished.status = 0 ∧ True)
      (fun _ => finished.status = 0 ∧ False)
      (if finished.status ≠ 0 then .error (own (words finished)) else .ok ()) := by
    intro finished
    split
    · next ill => exact answers_worded _ (fun well => ill well.1) (by simp)
    · next well => exact answers_returned ⟨not_not.mp well, trivial⟩ (by simp)
  exact (found.answers_next _ judged).congr (by simp) (by simp)

theorem outputText_perform (bytes : Bytes) (session : Session) :
    (outputText bytes).perform session =
      match bytes.toText? with
      | some text => (.ok (String.ofList (Text.unifyBreaks text.toList)), session)
      | none => (.error (.cause .notUtf8), session) := by
  unfold outputText
  cases bytes.toText? <;> rfl

section

variable (launcher : Launcher) (tool : String) (own : String → Fault) (command : List String)
  (timeout : Int) (session : Session)

theorem launch_impassable (impassable : ¬Passable command) :
    (launch launcher command timeout).perform session =
      (.error (.cause .nulCharacter), session) := by
  rw [passable_iff, Bool.not_eq_false] at impassable
  simp only [launch, impassable, if_true]
  rfl

theorem runTool_impassable (impassable : ¬Passable command) :
    (runTool launcher tool own command timeout).perform session =
      (.error (.cause .nulCharacter), session) := by
  rw [runTool, perform_rewording, launch_impassable _ _ _ _ impassable]
  rfl

theorem launch_passable (passable : Passable command) :
    (launch launcher command timeout).perform session =
      let ran := launcher command timeout session.environment session.files
      (ran.1.told command timeout).perform (session.launched command ran.2) := by
  simp only [launch, (passable_iff command).mp passable, Bool.false_eq_true, if_false]
  rfl

theorem runTool_heard (run : Run) (left : Files) (passable : Passable command)
    (ran : launcher command timeout session.environment session.files = (run, left)) :
    ∃ result, (runTool launcher tool own command timeout).perform session =
      (result, session.launched command left) ∧ Heard own run result := by
  rw [runTool, perform_rewording, launch_passable _ _ _ _ passable, ran]
  cases run with
  | refused cause =>
      refine ⟨_, rfl, ?_⟩
      cases kind : isNotRun cause with
      | true =>
          rw [reworded, kind, if_pos rfl]
          exact .worded _ (fun _ => id) (by rintro _ ⟨rfl, other⟩; simp [kind] at other)
      | false =>
          rw [reworded, kind, if_neg Bool.false_ne_true]
          exact .escaped cause ⟨rfl, kind⟩
  | timedOut => exact ⟨_, rfl, .worded _ (fun _ => id) fun _ => id⟩
  | finished status output errors =>
      simp only [Run.told, perform_bind, outputText_perform]
      cases first : output.toText? with
      | none => exact ⟨_, rfl, .escaped _ ⟨rfl, Or.inl first⟩⟩
      | some text =>
          cases second : errors.toText? with
          | none => exact ⟨_, rfl, .escaped _ ⟨rfl, Or.inr second⟩⟩
          | some more => exact ⟨_, rfl, .ended _ ⟨rfl, by simp [first], by simp [second]⟩⟩

theorem runTool_ok (after : Session) (finished : Finished)
    (done : (runTool launcher tool own command timeout).perform session = (.ok finished, after)) :
    ∃ run left, launcher command timeout session.environment session.files = (run, left) ∧
      Passable command ∧ run.Ended finished.status ∧ after = session.launched command left := by
  by_cases passable : Passable command
  · rcases ran : launcher command timeout session.environment session.files with ⟨run, left⟩
    obtain ⟨heard, performed, found⟩ := runTool_heard launcher tool own command timeout session run
      left passable ran
    rw [performed] at done
    cases done
    cases found with
    | ended _ status => exact ⟨run, left, rfl, passable, status, rfl⟩
  · rw [runTool_impassable _ _ _ _ _ _ passable] at done
    cases done

theorem checked_answers (words : Finished → String) (run : Run) (left : Files)
    (passable : Passable command)
    (ran : launcher command timeout session.environment session.files = (run, left)) :
    ∃ result, (do
        let finished ← runTool launcher tool own command timeout
        if finished.status ≠ 0 then throw (own (words finished)) :
          Action Unit).perform session = (result, session.launched command left) ∧
      Answers own (run.Ended 0) (fun cause => run.Escapes cause) result := by
  obtain ⟨heard, performed, found⟩ := runTool_heard launcher tool own command timeout session run
    left passable ran
  refine ⟨_, ?_, found.answers words⟩
  rw [perform_bind, performed]
  cases heard with
  | error fault => rfl
  | ok finished =>
      simp only [Except.bind]
      split <;> rfl

end

end Tool
end DexGraft
