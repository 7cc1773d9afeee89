import DexGraft.Proofs.Search.Kept

/-!
The calls of tools. The journal has them in their order, each with what the tool was
given. Nobody but the caller of a tool writes there, and words to the user come and
go without a trace among the calls.
-/
namespace DexGraft

def Event.isCall : Event → Bool
  | .disassembled _ _ | .assembled _ | .signed _ _ _ _ => true
  | _ => false

def Event.isSigning : Event → Bool
  | .signed _ _ _ _ => true
  | _ => false

def Session.calls (session : Session) : List Event :=
  session.journal.filter Event.isCall

namespace Search

open Files DexGraft.Action

structure Polite (progress : String → Action Unit) : Prop where
  quiet : Quiet progress
  returns : ∀ message session, ((progress message).perform session).1 = .ok ()
  calls : ∀ message session, ((progress message).perform session).2.calls = session.calls

structure Discreet (toolbox : Toolbox) : Prop where
  disassemble : ∀ image tree session,
    ((toolbox.disassemble image tree).perform session).2.calls = session.calls
  assemble : ∀ tree image session,
    ((toolbox.assemble tree image).perform session).2.calls = session.calls
  sign : ∀ unsigned output material minSdk session,
    ((toolbox.sign unsigned output material minSdk).perform session).2.calls = session.calls

/-- Rewrites go to the disk as it is, the user listens, and tools write to their outputs alone. -/
structure Fair (setting : Setting) : Prop where
  disk : setting.disk = Smali.Disk.plain
  progress : Polite setting.progress
  confined : Confined setting.toolbox
  discreet : Discreet setting.toolbox

structure Usual (allowed : Fault → Prop) : Prop where
  cause : ∀ cause, allowed (.cause cause)
  io : ∀ io, allowed (.io io)
  missing : ∀ archive entry, allowed (.entryNotFound archive entry)

theorem usual_any : Usual fun _ => True :=
  ⟨fun _ => trivial, fun _ => trivial, fun _ _ => trivial⟩

/-- A fair setting in which the tools for images refuse in their own words or in allowed ones. -/
structure Tame (setting : Setting) (allowed : Fault → Prop) : Prop extends Fair setting where
  usual : Usual allowed
  disassemble : ∀ image tree session fault,
    ((setting.toolbox.disassemble image tree).perform session).1 = .error fault →
      (∃ text, fault = .disassembly text) ∨ allowed fault
  assemble : ∀ tree image session fault,
    ((setting.toolbox.assemble tree image).perform session).1 = .error fault →
      (∃ text, fault = .assembly text) ∨ allowed fault

theorem Fair.tame {setting : Setting} (fair : Fair setting) : Tame setting fun _ => True where
  toFair := fair
  usual := usual_any
  disassemble _ _ _ _ _ := Or.inr trivial
  assemble _ _ _ _ _ := Or.inr trivial

/-- The files have a property, and these are the calls so far. -/
structure At (holds : Files → Prop) (calls : List Event) (session : Session) : Prop where
  files : holds session.files
  calls : session.calls = calls

theorem at_calls (session : Session) : At (fun _ => True) session.calls session := ⟨trivial, rfl⟩

section

variable {setting : Setting} {holds : Files → Prop} {calls : List Event} {allowed : Fault → Prop}

theorem Polite.ran {progress : String → Action Unit} (polite : Polite progress) (message : String)
    (session : Session) :
    ∃ told, (progress message).perform session = (.ok (), told) ∧ told.files = session.files ∧
      told.calls = session.calls := by
  refine ⟨((progress message).perform session).2, ?_, polite.quiet message session,
    polite.calls message session⟩
  rw [← polite.returns message session]

theorem Polite.unbroken {progress : String → Action Unit} (polite : Polite progress)
    (message : String) (session after : Session) (fault : Fault) :
    (progress message).perform session ≠ (.error fault, after) := by
  intro broken
  obtain ⟨_, ran, _, _⟩ := polite.ran message session
  rw [ran] at broken
  cases broken

theorem Polite.bind {α : Type} {progress : String → Action Unit} (polite : Polite progress)
    (message : String) (next : Unit → Action α) (session after : Session)
    (result : Except Fault α)
    (done : (progress message >>= next).perform session = (result, after)) :
    ∃ told, told.files = session.files ∧ told.calls = session.calls ∧
      (next ()).perform told = (result, after) := by
  obtain ⟨told, ran, files, calls⟩ := polite.ran message session
  rw [perform_bind_ok _ _ _ _ _ ran] at done
  exact ⟨told, files, calls, done⟩

theorem calls_record (session : Session) (event : Event) :
    Session.calls { session with journal := session.journal ++ [event] } =
      session.calls ++ if event.isCall then [event] else [] := by
  cases kind : event.isCall <;> simp [Session.calls, kind]

theorem Polite.refusal {progress : String → Action Unit} (polite : Polite progress)
    (line message : String) (outcome : Outcome) (session : Session) :
    ∃ told, told.files = session.files ∧ told.calls = session.calls ∧
      (do Action.log .error line; progress message; return some outcome :
        Action (Option Outcome)).perform session = (.ok (some outcome), told) := by
  obtain ⟨told, shown, kept, unheard⟩ := polite.ran message
    { session with journal := session.journal ++ [.logged .error line] }
  refine ⟨told, kept, ?_, ?_⟩
  · rw [unheard, calls_record, if_neg (by simp [Event.isCall]), List.append_nil]
  · simp only [Action.log, perform_bind, perform_record, shown, perform_pure]

theorem Held.called {path : Path} {place : Place}
    (held : Held (fun session => holds session.files) path place) :
    Held (At holds calls) path place where
  named := held.named
  leads session spot before := held.leads session spot before.files
  under session files before same := ⟨held.under session files before.files same, before.calls⟩

theorem keeps_unrecorded (event : Event) (aside : event.isCall = false) :
    Keeps (At holds calls) allowed (record event) :=
  keeps_record fun session before => ⟨before.files, by
    rw [calls_record, aside, if_neg Bool.false_ne_true, List.append_nil, before.calls]⟩

theorem tolerant_at (polite : Polite setting.progress) (usual : Usual allowed) :
    Tolerant setting (At holds calls) allowed where
  cause := usual.cause
  io := usual.io
  missing := usual.missing
  logged _ _ := keeps_unrecorded _ rfl
  told message := .of_perform fun session before => by
    refine ⟨⟨?_, (polite.calls message session).trans before.calls⟩, fun fault ended => ?_⟩
    · rw [polite.quiet message session]
      exact before.files
    · rw [polite.returns message session] at ended
      cases ended

/-- What a caller makes of a tool's answer: a refusal in the tool's own words is an outcome. -/
inductive Answered (own : String → Fault) (reason : Reason) :
    Except Fault Unit → Except Fault (Option Outcome) → Prop
  | done : Answered own reason (.ok ()) (.ok none)
  | refused (text : String) :
      Answered own reason (.error (own text)) (.ok (some (.failed reason text)))
  | broken (fault : Fault) (other : ∀ text, fault ≠ own text) :
      Answered own reason (.error fault) (.error fault)

/-- A tool was called once, in a session with the same files and with the call in its journal; the
rest is its answer. -/
structure Consulted (tool : Action Unit) (own : String → Fault) (reason : Reason) (call : Event)
    (session after : Session) (result : Except Fault (Option Outcome)) (answer : Except Fault Unit)
    (calling left : Session) : Prop where
  run : tool.perform calling = (answer, left)
  files : calling.files = session.files
  calls : calling.calls = session.calls ++ [call]
  answered : Answered own reason answer result
  same : after.files = left.files
  quiet : after.calls = left.calls

structure Asked (tool : Action Unit) (own : String → Fault) (reason : Reason) (call : Event)
    (session after : Session) (result : Except Fault (Option Outcome)) (answer : Except Fault Unit)
    (calling left : Session) : Prop
    extends Consulted tool own reason call session after result answer calling left where
  called : left.calls = session.calls ++ [call]

theorem guard_answered (tool : Action Unit) (handler : Fault → Action (Option Outcome))
    (own : String → Fault) (reason : Reason) (session after : Session)
    (result : Except Fault (Option Outcome))
    (handled : ∀ text middle, ∃ told, told.files = middle.files ∧ told.calls = middle.calls ∧
      (handler (own text)).perform middle = (.ok (some (.failed reason text)), told))
    (passed : ∀ fault, (∀ text, fault ≠ own text) → handler fault = throw fault)
    (done : (tryCatch (do tool; return none) handler).perform session = (result, after)) :
    ∃ answer left, tool.perform session = (answer, left) ∧ Answered own reason answer result ∧
      after.files = left.files ∧ after.calls = left.calls := by
  rw [perform_tryCatch, perform_bind] at done
  rcases ran : tool.perform session with ⟨fault | _, left⟩
  · simp only [ran] at done
    by_cases refusal : ∃ text, fault = own text
    · obtain ⟨text, rfl⟩ := refusal
      obtain ⟨told, files, calls, answered⟩ := handled text left
      rw [answered] at done
      cases done
      exact ⟨_, _, rfl, .refused text, files, calls⟩
    · have other : ∀ text, fault ≠ own text := fun text same => refusal ⟨text, same⟩
      rw [passed fault other] at done
      cases done
      exact ⟨_, _, rfl, .broken fault other, rfl, rfl⟩
  · simp only [ran, perform_pure] at done
    cases done
    exact ⟨_, _, rfl, .done, rfl, rfl⟩

theorem disassembled_consulted (image : Apk.Image) (extracted tree : Path) (content : Bytes)
    (session after : Session) (result : Except Fault (Option Outcome))
    (polite : Polite setting.progress) (readable : session.files.read extracted = .ok content)
    (done : (disassembled setting image extracted tree).perform session = (result, after)) :
    ∃ answer calling left, Consulted (setting.toolbox.disassemble extracted tree) .disassembly
      .disassemblyError (.disassembled extracted.name content) session after result answer calling
      left := by
  obtain ⟨told, files, calls, done⟩ := polite.bind _ _ _ _ _ done
  have there : (ask fun files => files.read extracted).perform told = (.ok content, told) := by
    rw [perform_ask, files, readable]
    rfl
  rw [perform_bind_ok _ _ _ _ _ there, perform_bind_ok _ _ _ _ _ (perform_record _ _)] at done
  obtain ⟨answer, left, run, answered, same, quiet⟩ := guard_answered _ _ .disassembly
    .disassemblyError _ _ _ (fun text middle => polite.refusal _ _ _ middle) (fun fault other => by
      cases fault with
      | disassembly text => exact absurd rfl (other text)
      | _ => rfl) done
  refine ⟨answer, _, left, run, files, ?_, answered, same, quiet⟩
  rw [calls_record, calls]
  rfl

theorem reassembled_consulted (image : Apk.Image) (tree rebuilt : Path) (session after : Session)
    (result : Except Fault (Option Outcome)) (polite : Polite setting.progress)
    (done : (reassembled setting image tree rebuilt).perform session = (result, after)) :
    ∃ answer calling left, Consulted (setting.toolbox.assemble tree rebuilt) .assembly
      .assemblyError (.assembled rebuilt.name) session after result answer calling left := by
  obtain ⟨told, files, calls, done⟩ := polite.bind _ _ _ _ _ done
  rw [perform_bind_ok _ _ _ _ _ (perform_record _ _)] at done
  obtain ⟨answer, left, run, answered, same, quiet⟩ := guard_answered _ _ .assembly .assemblyError
    _ _ _ (fun text middle => polite.refusal _ _ _ middle) (fun fault other => by
      cases fault with
      | assembly text => exact absurd rfl (other text)
      | _ => rfl) done
  refine ⟨answer, _, left, run, files, ?_, answered, same, quiet⟩
  rw [calls_record, calls]
  rfl

theorem disassembled_answered (image : Apk.Image) (extracted tree : Path) (content : Bytes)
    (session after : Session) (result : Except Fault (Option Outcome))
    (polite : Polite setting.progress) (discreet : Discreet setting.toolbox)
    (readable : session.files.read extracted = .ok content)
    (done : (disassembled setting image extracted tree).perform session = (result, after)) :
    ∃ answer calling left, Asked (setting.toolbox.disassemble extracted tree) .disassembly
      .disassemblyError (.disassembled extracted.name content) session after result answer calling
      left := by
  obtain ⟨answer, calling, left, consulted⟩ := disassembled_consulted image extracted tree content
    session after result polite readable done
  have uncalled := discreet.disassemble extracted tree calling
  rw [consulted.run, consulted.calls] at uncalled
  exact ⟨answer, calling, left, consulted, uncalled⟩

theorem reassembled_answered (image : Apk.Image) (tree rebuilt : Path) (session after : Session)
    (result : Except Fault (Option Outcome)) (polite : Polite setting.progress)
    (discreet : Discreet setting.toolbox)
    (done : (reassembled setting image tree rebuilt).perform session = (result, after)) :
    ∃ answer calling left, Asked (setting.toolbox.assemble tree rebuilt) .assembly .assemblyError
      (.assembled rebuilt.name) session after result answer calling left := by
  obtain ⟨answer, calling, left, consulted⟩ :=
    reassembled_consulted image tree rebuilt session after result polite done
  have uncalled := discreet.assemble tree rebuilt calling
  rw [consulted.run, consulted.calls] at uncalled
  exact ⟨answer, calling, left, consulted, uncalled⟩

end

end Search
end DexGraft
