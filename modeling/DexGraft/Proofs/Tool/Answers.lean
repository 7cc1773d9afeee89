import DexGraft.Proofs.Search.Calls
import DexGraft.Proofs.Tool.Signing

/-!
What the three adapters make of their programs' failures. Each has one fault of its own for
a program that does not start, does not end in time or ends badly; what is not put into
these words is named here, with all it takes for it to come up.
-/
namespace DexGraft.Tool

open Files Signing DexGraft.Action

/-- What slips through an adapter: a command that no program can be given, and what escapes from
the run of one that it can. -/
def Slips (command : List String) (run : Run) (cause : Cause) : Prop :=
  (¬Passable command ∧ cause = .nulCharacter) ∨ (Passable command ∧ run.Escapes cause)

theorem slips_impassable {command : List String} (run : Run) (impassable : ¬Passable command)
    (cause : Cause) : Slips command run cause ↔ cause = .nulCharacter := by
  simp [Slips, impassable]

theorem slips_passable {command : List String} (run : Run) (passable : Passable command)
    (cause : Cause) : Slips command run cause ↔ run.Escapes cause := by
  simp [Slips, passable]

theorem Slips.same {command : List String} {run : Run} {first second : Cause}
    (once : Slips command run first) (again : Slips command run second) : first = second := by
  by_cases passable : Passable command
  · rw [slips_passable run passable] at once again
    exact once.same again
  · rw [slips_impassable run passable] at once again
    rw [once, again]

section

variable (launcher : Launcher) (settings : Settings) (session : Session)

/-- An adapter that runs its program once, and judges by what this leaves if it ends well. -/
theorem accepted_answers (tool : String) (own : String → Fault) (command : List String)
    (timeout : Int) (accept : Finished → Action Unit) (returned : Files → Prop)
    (slips : Files → Cause → Prop)
    (judged : ∀ session finished, Answers own (finished.status = 0 ∧ returned session.files)
      (fun cause => finished.status = 0 ∧ slips session.files cause)
      ((accept finished).perform session).1) :
    let ran := launcher command timeout session.environment session.files
    Answers own (Passable command ∧ ran.1.Ended 0 ∧ returned ran.2)
      (fun cause => Slips command ran.1 cause ∨
        Passable command ∧ ran.1.Ended 0 ∧ slips ran.2 cause)
      ((do accept (← runTool launcher tool own command timeout) : Action Unit).perform session).1 := by
  intro ran
  by_cases passable : Passable command
  · obtain ⟨heard, performed, found⟩ := runTool_heard launcher tool own command timeout session _ _
      passable rfl
    have ended : ((do accept (← runTool launcher tool own command timeout) : Action Unit).perform
        session).1 = heard.bind fun finished =>
          ((accept finished).perform (session.launched command ran.2)).1 := by
      rw [perform_bind, performed]
      cases heard <;> rfl
    rw [ended]
    refine (found.answers_next _ (judged (session.launched command ran.2))).congr ?_ fun cause => ?_
    · simp only [passable, true_and, Session.launched_files, ran]
    · simp only [slips_passable _ passable, passable, true_and, Session.launched_files, ran]
  · rw [perform_bind, runTool_impassable _ _ _ _ _ _ passable]
    refine answers_slipped _ (fun well => passable well.1) (Or.inl (Or.inl ⟨passable, rfl⟩)) ?_
    rintro other (slip | ⟨possible, _⟩)
    · exact (slips_impassable _ passable other).mp slip
    · exact absurd possible passable

def acceptTree (output : Path) (finished : Finished) : Action Unit := do
  if finished.status ≠ 0 then throw (.disassembly (failureText "baksmali" finished))
  let count ← Action.ask fun files => countSmali files output
  Action.info ("    baksmali: " ++ toString count ++ " smali files")

theorem disassemble_eq (image output : Path) :
    disassemble launcher settings image output = (do
      let command := jarCommand settings settings.baksmaliJar "d" image output
      acceptTree output (← runTool launcher "baksmali" .disassembly command settings.timeout)) := rfl

theorem acceptTree_perform (output : Path) (finished : Finished) :
    ((acceptTree output finished).perform session).1 =
      if finished.status ≠ 0 then .error (.disassembly (failureText "baksmali" finished))
      else match countSmali session.files output with
        | .error cause => .error (.cause cause)
        | .ok _ => .ok () := by
  unfold acceptTree
  split
  · rfl
  · rw [perform_bind, perform_ask]
    cases countSmali session.files output <;> rfl

theorem acceptTree_answers (output : Path) (finished : Finished) :
    Answers .disassembly
      (finished.status = 0 ∧ ∃ count, countSmali session.files output = .ok count)
      (fun cause => finished.status = 0 ∧ countSmali session.files output = .error cause)
      ((acceptTree output finished).perform session).1 := by
  rw [acceptTree_perform]
  split
  · next ill => exact answers_worded _ (fun returned => ill returned.1) fun _ slip => ill slip.1
  · next well =>
      have well := not_not.mp well
      cases listed : countSmali session.files output with
      | error cause =>
          exact answers_slipped cause (by simp) ⟨well, rfl⟩
            fun other again => (Except.error.inj again.2).symm
      | ok count => exact answers_returned ⟨well, count, rfl⟩ (by simp)

theorem disassemble_answers (image output : Path) :
    let command := jarCommand settings settings.baksmaliJar "d" image output
    let ran := launcher command settings.timeout session.environment session.files
    Answers .disassembly
      (Passable command ∧ ran.1.Ended 0 ∧ ∃ count, countSmali ran.2 output = .ok count)
      (fun cause => Slips command ran.1 cause ∨
        Passable command ∧ ran.1.Ended 0 ∧ countSmali ran.2 output = .error cause)
      ((disassemble launcher settings image output).perform session).1 := by
  rw [disassemble_eq]
  exact accepted_answers launcher session "baksmali" .disassembly _ settings.timeout
    (acceptTree output) (fun files => ∃ count, countSmali files output = .ok count)
    (fun files cause => countSmali files output = .error cause)
    fun session finished => acceptTree_answers session output finished

def acceptAssembly (output : Path) (finished : Finished) : Action Unit := do
  let isMade ← if finished.status ≠ 0 then pure false
    else Action.ask fun files => files.isFile output
  if !isMade then throw (.assembly (failureText "smali" finished))
  let size := Apk.kilobytes (← Action.fileSize output)
  Action.info s!"    smali output: {size}"

theorem assemble_eq (source output : Path) :
    assemble launcher settings source output = (do
      let command := jarCommand settings settings.smaliJar "a" source output
      acceptAssembly output (← runTool launcher "smali" .assembly command settings.timeout)) := rfl

theorem acceptAssembly_perform (output : Path) (finished : Finished) :
    ((acceptAssembly output finished).perform session).1 =
      if finished.status ≠ 0 then .error (.assembly (failureText "smali" finished))
      else match session.files.isFile output with
        | .error cause => .error (.cause cause)
        | .ok false => .error (.assembly (failureText "smali" finished))
        | .ok true => .ok () := by
  unfold acceptAssembly
  split
  · rfl
  · rw [perform_bind, perform_ask]
    cases there : session.files.isFile output with
    | error cause => rfl
    | ok isMade =>
        cases isMade with
        | false => rfl
        | true =>
            obtain ⟨content, read⟩ := isFile_read _ _ there
            have size := (fileSize_eq_ok output session session _).mpr ⟨size_of_read _ _ _ read, rfl⟩
            simp only [Except.mapError, Bool.not_true, Bool.false_eq_true, if_false, perform_bind,
              size, info, perform_log]

theorem acceptAssembly_answers (output : Path) (finished : Finished) :
    Answers .assembly (finished.status = 0 ∧ session.files.isFile output = .ok true)
      (fun cause => finished.status = 0 ∧ session.files.isFile output = .error cause)
      ((acceptAssembly output finished).perform session).1 := by
  rw [acceptAssembly_perform]
  split
  · next ill => exact answers_worded _ (fun returned => ill returned.1) fun _ slip => ill slip.1
  · next well =>
      have well := not_not.mp well
      cases there : session.files.isFile output with
      | error cause =>
          exact answers_slipped cause (by simp) ⟨well, rfl⟩
            fun other again => (Except.error.inj again.2).symm
      | ok isMade =>
          cases isMade with
          | false => exact answers_worded _ (by simp) (by simp)
          | true => exact answers_returned ⟨well, rfl⟩ (by simp)

theorem assemble_answers (source output : Path) :
    let command := jarCommand settings settings.smaliJar "a" source output
    let ran := launcher command settings.timeout session.environment session.files
    Answers .assembly (Passable command ∧ ran.1.Ended 0 ∧ ran.2.isFile output = .ok true)
      (fun cause => Slips command ran.1 cause ∨
        Passable command ∧ ran.1.Ended 0 ∧ ran.2.isFile output = .error cause)
      ((assemble launcher settings source output).perform session).1 := by
  rw [assemble_eq]
  exact accepted_answers launcher session "smali" .assembly _ settings.timeout
    (acceptAssembly output) (fun files => files.isFile output = .ok true)
    (fun files cause => files.isFile output = .error cause)
    fun session finished => acceptAssembly_answers session output finished

end

theorem signerProgram_given (files : Files) (environment : Environment) (settings : Settings)
    (program : String) (given : settings.apksigner = some program) (named : program ≠ "") :
    signerProgram files environment settings = .ok (some program) := by
  have kept : (some program).filter (· != "") = some program := by simp [named]
  simp only [signerProgram, given, kept]

theorem Prepared.sole {settings : Settings} {material : List Signer} {session ready : Session}
    {program : String} {directory : Path}
    (prepared : Prepared settings material session program directory ready)
    (statement : Path → Session → Prop) :
    (∃ directory ready, Prepared settings material session program directory ready ∧
      statement directory ready) ↔ statement directory ready := by
  constructor
  · rintro ⟨_, _, again, holds⟩
    obtain ⟨_, rfl, rfl⟩ := prepared.same again
    exact holds
  · exact fun holds => ⟨directory, ready, prepared, holds⟩

theorem unprepared_none {settings : Settings} {material : List Signer} {session : Session}
    {program : String}
    (unprepared : ∀ directory ready, ¬Prepared settings material session program directory ready)
    (statement : Path → Session → Prop) :
    ¬∃ directory ready, Prepared settings material session program directory ready ∧
      statement directory ready := by
  rintro ⟨directory, ready, prepared, _⟩
  exact unprepared directory ready prepared

theorem Prepared.unrefused {settings : Settings} {material : List Signer}
    {session ready : Session} {program : String} {directory : Path}
    (prepared : Prepared settings material session program directory ready) (cause : Cause) :
    (makingKeys session).perform session ≠ (.error (.cause cause), session) := by
  obtain ⟨made, _, making, _⟩ := prepared.written
  rw [making]
  simp

theorem StartFault.answers {settings : Settings} {material : List Signer} {session : Session}
    {program : String} {fault : Fault} {returned : Prop}
    (why : StartFault settings material session fault)
    (found : signerProgram session.files session.environment settings = .ok (some program))
    (ill : ¬returned) :
    Answers .signing returned
      (fun cause => material ≠ [] ∧ cause.isRefusal = false ∧
        (makingKeys session).perform session = (.error (.cause cause), session))
      (.error fault) := by
  cases why with
  | worded text why =>
      refine answers_worded text ill ?_
      rintro cause ⟨filled, other, making⟩
      rcases why with empty | unfound | ⟨refusal, kind, again⟩
      · exact filled empty
      · exact unfound program found
      · rw [making] at again
        cases again
        simp [other] at kind
  | unfound cause unfound =>
      rw [found] at unfound
      cases unfound
  | unmade cause filled other making =>
      refine answers_slipped cause ill ⟨filled, other, making⟩ ?_
      rintro again ⟨_, _, same⟩
      rw [making] at same
      cases same
      rfl

theorem KeyFault.worded {material : List Signer} {fault : Fault}
    (why : KeyFault material.zipIdx fault)
    (serial : ∀ entry ∈ material, ∀ cause, entry.key = .error cause →
      isUnwritableKey cause = true) : ∃ text, fault = .signing text := by
  refine why.resolve_right ?_
  rintro ⟨entry, member, cause, _, known, other⟩
  rw [serial entry.1 (List.fst_mem_of_mem_zipIdx member) cause known] at other
  cases other

theorem sign_answers (launcher : Launcher) (settings : Settings) (unsigned output : Path)
    (material : List Signer) (minSdk : Int) (session : Session) (program : String)
    (given : settings.apksigner = some program) (named : program ≠ "")
    (serial : ∀ entry ∈ material, ∀ cause, entry.key = .error cause →
      isUnwritableKey cause = true) :
    let command := fun directory => signCommand program directory unsigned output material minSdk
    let run := fun directory ready => (launcher (command directory) settings.timeout
      session.environment (Session.files ready)).1
    Answers .signing
      (∃ directory ready, Prepared settings material session program directory ready ∧
        Passable (command directory) ∧ (run directory ready).Ended 0)
      (fun cause => (material ≠ [] ∧ cause.isRefusal = false ∧
          (makingKeys session).perform session = (.error (.cause cause), session)) ∨
        ∃ directory ready, Prepared settings material session program directory ready ∧
          Slips (command directory) (run directory ready) cause)
      ((sign launcher settings unsigned output material minSdk).perform session).1 := by
  intro command run
  have found := signerProgram_given session.files session.environment settings program given named
  have calling := sign_calling launcher settings unsigned output material minSdk session
  generalize (sign launcher settings unsigned output material minSdk).perform session = call
    at calling ⊢
  obtain ⟨result, after⟩ := call
  cases calling with
  | unstarted fault why unprepared =>
      have unready := unprepared_none (unprepared program)
      exact (why.answers found (unready _)).congr Iff.rfl fun _ => (or_iff_left (unready _)).symm
  | unwritten fault broken directory made middle making written why =>
      have unprepared : ∀ directory ready,
          ¬Prepared settings material session program directory ready :=
        unwritten_unprepared broken middle making written program
      have unready := unprepared_none unprepared
      obtain ⟨text, rfl⟩ := why.worded serial
      refine answers_worded text (unready _) ?_
      rintro cause (⟨_, _, again⟩ | prepared)
      · rw [making] at again
        cases again
      · exact unready _ prepared
  | impassable program' directory ready prepared impassable =>
      obtain rfl : program = program' := by simpa [found] using prepared.found
      have slip : Slips (command directory) (run directory ready) .nulCharacter :=
        Or.inl ⟨impassable, rfl⟩
      refine (answers_slipped _ (fun well => impassable well.1) slip
        fun other again => again.same slip).congr (prepared.sole _).symm fun cause => ?_
      rw [prepared.sole fun directory ready => Slips (command directory) (run directory ready) cause]
      simp [prepared.unrefused]
  | run program' directory ready ended left result prepared passable ran answers =>
      obtain rfl : program = program' := by simpa [found] using prepared.found
      have same : run directory ready = ended := congrArg Prod.fst ran
      refine answers.congr ?_ fun cause => ?_
      · rw [prepared.sole fun directory ready =>
          Passable (command directory) ∧ (run directory ready).Ended 0, same]
        simp [command, passable]
      · rw [prepared.sole fun directory ready =>
          Slips (command directory) (run directory ready) cause, same]
        simp [prepared.unrefused, slips_passable ended passable, command]

theorem consulted_broken {tool : Action Unit} {own : String → Fault} {reason : Search.Reason}
    {call : Event} {session after calling left : Session} {fault : Fault}
    {answer : Except Fault Unit}
    (consulted : Search.Consulted tool own reason call session after (.error fault) answer calling
      left) : (tool.perform calling).1 = .error fault ∧ ∀ text, fault ≠ own text := by
  rw [consulted.run]
  cases consulted.answered with
  | broken _ other => exact ⟨rfl, other⟩

/-- Whatever a program does, its adapter answers in its own words, except for what slips through:
output that is no text, what no program was run for, and, once the program has ended well, files that
cannot be asked for. All return just when the program was run and ended with status 0 in time, and
wrote text; the disassembler's tree has to be one that can be listed, and the assembler needs a file
in addition. Nothing else of a tool's can break off the search. -/
theorem tools_answer (launcher : Launcher) (settings : Settings) :
    (∀ image output session,
      let command := jarCommand settings settings.baksmaliJar "d" image output
      let ran := launcher command settings.timeout session.environment session.files
      Answers .disassembly
        (Passable command ∧ ran.1.Ended 0 ∧ ∃ count, countSmali ran.2 output = .ok count)
        (fun cause => Slips command ran.1 cause ∨
          Passable command ∧ ran.1.Ended 0 ∧ countSmali ran.2 output = .error cause)
        ((disassemble launcher settings image output).perform session).1) ∧
    (∀ source output session,
      let command := jarCommand settings settings.smaliJar "a" source output
      let ran := launcher command settings.timeout session.environment session.files
      Answers .assembly (Passable command ∧ ran.1.Ended 0 ∧ ran.2.isFile output = .ok true)
        (fun cause => Slips command ran.1 cause ∨
          Passable command ∧ ran.1.Ended 0 ∧ ran.2.isFile output = .error cause)
        ((assemble launcher settings source output).perform session).1) ∧
    (∀ unsigned output material minSdk session program, settings.apksigner = some program →
      program ≠ "" →
      (∀ entry ∈ material, ∀ cause, entry.key = .error cause → isUnwritableKey cause = true) →
      let command := fun directory => signCommand program directory unsigned output material minSdk
      let run := fun directory ready => (launcher (command directory) settings.timeout
        session.environment (Session.files ready)).1
      Answers .signing
        (∃ directory ready, Prepared settings material session program directory ready ∧
          Passable (command directory) ∧ (run directory ready).Ended 0)
        (fun cause => (material ≠ [] ∧ cause.isRefusal = false ∧
            (makingKeys session).perform session = (.error (.cause cause), session)) ∨
          ∃ directory ready, Prepared settings material session program directory ready ∧
            Slips (command directory) (run directory ready) cause)
        ((sign launcher settings unsigned output material minSdk).perform session).1) ∧
    ∀ setting : Search.Setting, setting.toolbox = toolbox launcher settings →
      Search.Polite setting.progress →
      (∀ image extracted tree session content fault after,
        session.files.read extracted = .ok content →
        (Search.disassembled setting image extracted tree).perform session =
          (.error fault, after) →
        let command := jarCommand settings settings.baksmaliJar "d" extracted tree
        ∃ environment cause, fault = .cause cause ∧
          let ran := launcher command settings.timeout environment session.files
          (Slips command ran.1 cause ∨
            Passable command ∧ ran.1.Ended 0 ∧ countSmali ran.2 tree = .error cause)) ∧
      ∀ image tree rebuilt session fault after,
        (Search.reassembled setting image tree rebuilt).perform session = (.error fault, after) →
        let command := jarCommand settings settings.smaliJar "a" tree rebuilt
        ∃ environment cause, fault = .cause cause ∧
          let ran := launcher command settings.timeout environment session.files
          (Slips command ran.1 cause ∨
            Passable command ∧ ran.1.Ended 0 ∧ ran.2.isFile rebuilt = .error cause) := by
  refine ⟨fun image output session => disassemble_answers launcher settings session image output,
    fun source output session => assemble_answers launcher settings session source output,
    fun unsigned output material minSdk session program given named serial =>
      sign_answers launcher settings unsigned output material minSdk session program given named
        serial, fun setting tools polite => ⟨?_, ?_⟩⟩
  · intro image extracted tree session content fault after readable done command
    obtain ⟨answer, calling, left, consulted⟩ := Search.disassembled_consulted image extracted tree
      content session after _ polite readable done
    obtain ⟨broken, other⟩ := consulted_broken consulted
    rw [tools] at broken
    have answers := disassemble_answers launcher settings calling extracted tree
    rcases answers.faults fault broken with ⟨text, own⟩ | ⟨cause, rfl, slip⟩
    · exact absurd own (other text)
    · exact ⟨calling.environment, cause, rfl, consulted.files ▸ slip⟩
  · intro image tree rebuilt session fault after done command
    obtain ⟨answer, calling, left, consulted⟩ := Search.reassembled_consulted image tree rebuilt
      session after _ polite done
    obtain ⟨broken, other⟩ := consulted_broken consulted
    rw [tools] at broken
    have answers := assemble_answers launcher settings calling tree rebuilt
    rcases answers.faults fault broken with ⟨text, own⟩ | ⟨cause, rfl, slip⟩
    · exact absurd own (other text)
    · exact ⟨calling.environment, cause, rfl, consulted.files ▸ slip⟩

theorem tools_answer_given :
    ((disassemble idleLauncher givenSettings (Path.ofText "/tmp/classes.dex")
      (Path.ofText "/tmp/smali")).perform givenSession).1 = .ok () ∧
    ((sign idleLauncher givenSettings (Path.ofText "/in.apk") (Path.ofText "/out.apk")
      [⟨"CERT", .ok [1], [[2]]⟩] 21).perform givenSession).1 = .ok () := by
  obtain ⟨disassembles, _, signs, _⟩ := tools_answer idleLauncher givenSettings
  constructor
  · refine (disassembles _ _ givenSession).returns.mpr ⟨by decide +kernel, ?_, 0,
      Checked.ok_of_toOption (by decide +kernel)⟩
    exact ⟨rfl, by decide +kernel, by decide +kernel⟩
  · have serial : ∀ entry ∈ [(⟨"CERT", .ok [1], [[2]]⟩ : Signer)], ∀ cause,
        entry.key = .error cause → isUnwritableKey cause = true := by
      intro entry member cause broken
      rw [List.mem_singleton.mp member] at broken
      cases broken
    refine (signs _ _ _ 21 givenSession "/bin/apksigner" rfl (by decide) serial).returns.mpr ?_
    refine ⟨_, _, ⟨by simp, rfl, _, _,
      perform_of_toOption _ _ (Path.ofText "/tmp/apksurgeon_keys_00000000") (by decide +kernel),
      perform_of_toOption _ _ [(keyFile (Path.ofText "/tmp/apksurgeon_keys_00000000") 0,
        certificateFile (Path.ofText "/tmp/apksurgeon_keys_00000000") 0)] (by decide +kernel)⟩,
      by decide +kernel, rfl, by decide +kernel, by decide +kernel⟩

/-- A program that fails, and says so in bytes that are no text. -/
theorem garbled_unworded :
    ((disassemble (fun _ _ _ files => (.finished 1 [0xFF] [], files)) givenSettings
      (Path.ofText "/tmp/classes.dex") (Path.ofText "/tmp/smali")).perform givenSession).1 =
        .error (.cause .notUtf8) :=
  (disassemble_answers _ _ _ _ _).slipped _
    (Or.inl (Or.inr ⟨by decide +kernel, rfl, Or.inl (by decide +kernel)⟩))

end DexGraft.Tool
