import DexGraft.Proofs.Files.Beyond
import DexGraft.Proofs.Files.Destination
import DexGraft.Proofs.Tool.Command
import DexGraft.Proofs.Tool.Launch

/-!
One call of the signer. Before its program is run, its signers' keys are written into a
directory made for them; while it runs, every signer has two files of its own there; and
however the call ends, the directory is gone.
-/
namespace DexGraft.Files

/-- No directory is there, and nothing is found on any way through it. -/
structure Gone (files : Files) (directory : Path) : Prop where
  closed : files.find directory ≠ .ok .directory
  beneath : ∀ name more node, files.find (beyond directory (name :: more)) ≠ .ok node

theorem gone_of_closed (files : Files) (directory : Path)
    (closed : files.find directory ≠ .ok .directory) : Gone files directory := by
  refine ⟨closed, fun name more node found => closed ?_⟩
  obtain ⟨place, reached, _⟩ := (find_eq_ok ..).mp found
  obtain ⟨sayable, walked⟩ := (resolve_eq_ok ..).mp reached
  obtain ⟨middle, front, back⟩ := (walk_append ..).mp walked
  refine (find_eq_ok ..).mpr ⟨middle, ?_, ((walk_cons ..).mp back).1⟩
  exact (resolve_eq_ok ..).mpr ⟨sayable_front _ _ sayable, front⟩

theorem clearTree_closes (files : Files) (base : Path) (name : String) (plain : PlainName name) :
    Gone (files.clearTree (base / name)) (base / name) := by
  have named : destination files.here (base / name) ≠ [] := by
    rw [destination_child _ _ _ plain]
    simp
  refine gone_of_closed _ _ fun found => clearTree_gone files (base / name) named ?_
  obtain ⟨place, reached, there⟩ := (find_eq_ok ..).mp found
  rw [isDirectory, find_of_resolve _ _ _ reached, there]
  rfl

end DexGraft.Files

namespace DexGraft.Tool

open Files Signing DexGraft.Action

def makingKeys (session : Session) : Action Path :=
  makeTemporary session.temporary "apksurgeon_keys_"

/-- All that has to go well before the signer's program is run: there are signers, the program is
known, the directory can be made, and the files of all signers can be written there. -/
structure Prepared (settings : Settings) (material : List Signer) (session : Session)
    (program : String) (directory : Path) (ready : Session) : Prop where
  filled : material ≠ []
  found : signerProgram session.files session.environment settings = .ok (some program)
  written : ∃ made paths, (makingKeys session).perform session = (.ok directory, made) ∧
    (writeAll directory material.zipIdx).perform made = (.ok paths, ready)

section

variable {settings : Settings} {material : List Signer} {session made ready : Session}
  {program : String} {directory : Path}

theorem makingKeys_ok (making : (makingKeys session).perform session = (.ok directory, made)) :
    ∃ name place, PlainName name ∧ directory = session.temporary / name ∧
      session.files.resolve directory = .ok place ∧ session.files.node? place = none ∧
      place ≠ [] ∧ made = { session with files := session.files.put place .directory } :=
  makeTemporary_ok _ _ _ _ _ (Text.whole_of_all _ _ (by decide)) (by decide) making

theorem makingKeys_leads (making : (makingKeys session).perform session = (.ok directory, made)) :
    ∃ place, made.files.resolve directory = .ok place ∧
      made.files.node? place = some .directory := by
  obtain ⟨_, place, _, _, reached, free, named, rfl⟩ := makingKeys_ok making
  exact ⟨place, resolve_put _ _ _ _ _ (by simp [free]) reached,
    by rw [node_put _ _ _ _ named, if_pos rfl]⟩

theorem makingKeys_refused (fault : Fault) (after : Session)
    (making : (makingKeys session).perform session = (.error fault, after)) :
    after = session ∧ ∃ cause, fault = .cause cause := by
  rw [makingKeys, makeTemporary, perform_bind_ok _ _ _ _ _ (perform_get session), perform_bind,
    perform_change] at making
  cases made : session.files.makeDirectory (freeName session.files session.temporary
      "apksurgeon_keys_" (session.files.nodes.length + 1)) with
  | ok files =>
      simp only [made] at making
      cases making
  | error cause =>
      simp only [made] at making
      cases making
      exact ⟨rfl, cause, rfl⟩

theorem written_inside (entries : List (Signer × Nat)) (result : Except Fault (List (Path × Path)))
    (making : (makingKeys session).perform session = (.ok directory, made))
    (written : (writeAll directory entries).perform made = (result, ready)) :
    ready = { session with files := ready.files } ∧
      ∀ place, session.files.resolve directory = .ok place →
        SameOutside place session.files ready.files := by
  obtain ⟨_, place, _, _, reached, free, named, rfl⟩ := makingKeys_ok making
  have kept := (writeAll_keeps _ directory entries).after _ _ _ (written_refl _ _) written
  refine ⟨kept.bare, fun spot leads => ?_⟩
  obtain rfl : place = spot := by simpa [reached] using leads
  obtain ⟨names, filled⟩ := kept.inside place (resolve_put _ _ _ _ _ (by simp [free]) reached)
  exact (sameOutside_put _ place _ named).trans filled.outside

theorem Prepared.bare (prepared : Prepared settings material session program directory ready) :
    ready = { session with files := ready.files } := by
  obtain ⟨made, paths, making, written⟩ := prepared.written
  exact (written_inside _ _ making written).1

theorem Prepared.environment
    (prepared : Prepared settings material session program directory ready) :
    ready.environment = session.environment := by
  rw [prepared.bare]

theorem Prepared.same (once : Prepared settings material session program directory ready)
    {program' : String} {directory' : Path} {ready' : Session}
    (again : Prepared settings material session program' directory' ready') :
    program' = program ∧ directory' = directory ∧ ready' = ready := by
  obtain ⟨made, paths, making, written⟩ := once.written
  obtain ⟨made', paths', making', written'⟩ := again.written
  have known := again.found
  rw [once.found] at known
  rw [making] at making'
  cases known
  cases making'
  rw [written] at written'
  cases written'
  exact ⟨rfl, rfl, rfl⟩

theorem unwritten_unprepared (broken : Fault) (middle : Session)
    (making : (makingKeys session).perform session = (.ok directory, made))
    (written : (writeAll directory material.zipIdx).perform made = (.error broken, middle))
    (program' : String) (directory' : Path) (ready' : Session) :
    ¬Prepared settings material session program' directory' ready' := by
  intro prepared
  obtain ⟨_, _, again, complete⟩ := prepared.written
  rw [making] at again
  cases again
  rw [written] at complete
  cases complete

structure Apart (files : Files) (directory : Path) (material : List Signer) : Prop where
  filed : ∀ (index : Nat) (entry : Signer), material[index]? = some entry → ∃ key, entry.key = .ok key ∧
    files.read (keyFile directory index) = .ok key ∧
    files.read (certificateFile directory index) = .ok entry.certificates.flatten
  places : ((material.zipIdx.flatMap fun entry =>
    [keyFile directory entry.2, certificateFile directory entry.2]).map files.resolve).Nodup

theorem Prepared.apart (prepared : Prepared settings material session program directory ready) :
    Apart ready.files directory material := by
  obtain ⟨made, paths, making, written⟩ := prepared.written
  obtain ⟨place, leads, _⟩ := makingKeys_leads making
  have numbers : (material.zipIdx.map Prod.snd).Nodup := by
    rw [List.zipIdx_map_snd]
    exact List.nodup_range'
  obtain ⟨_, _, _, filed⟩ := writeAll_ok _ _ numbers leads written
  constructor
  case filed =>
    intro index entry here
    have own := filed (entry, index) (List.mk_mem_zipIdx_iff_getElem?.mpr here)
    obtain ⟨key, known, keyFiled⟩ := own.key
    obtain ⟨mode, certificatesFiled⟩ := own.certificates
    exact ⟨key, known, (read_eq_ok ..).mpr ⟨_, _, keyFiled.leads, keyFiled.there⟩,
      (read_eq_ok ..).mpr ⟨_, _, certificatesFiled.leads, certificatesFiled.there⟩⟩
  case places =>
    -- Each path leads to its own name in the directory.
    have named : (material.zipIdx.flatMap fun entry =>
        [keyFile directory entry.2, certificateFile directory entry.2]).map ready.files.resolve =
          (material.zipIdx.flatMap namesOf).map fun name => .ok (place ++ [name]) := by
      rw [List.map_flatMap, List.map_flatMap]
      refine List.flatMap_congr fun entry member => ?_
      obtain ⟨key, _, keyFiled⟩ := (filed entry member).key
      obtain ⟨mode, certificatesFiled⟩ := (filed entry member).certificates
      simp [namesOf, keyFiled.leads, certificatesFiled.leads]
    rw [named]
    refine (names_nodup _ numbers).map fun first second same => ?_
    simpa using same

end

/-- Why the signer could not even begin: in the adapter's own words, or because the search for
the program, or the making of the directory, met a cause that is not put into words. -/
inductive StartFault (settings : Settings) (material : List Signer) (session : Session) :
    Fault → Prop
  | worded (text : String) (why : material = [] ∨
      (∀ program, signerProgram session.files session.environment settings ≠ .ok (some program)) ∨
      ∃ cause, cause.isRefusal = true ∧
        (makingKeys session).perform session = (.error (.cause cause), session)) :
      StartFault settings material session (.signing text)
  | unfound (cause : Cause)
      (found : signerProgram session.files session.environment settings = .error cause) :
      StartFault settings material session (.cause cause)
  | unmade (cause : Cause) (filled : material ≠ []) (other : cause.isRefusal = false)
      (making : (makingKeys session).perform session = (.error (.cause cause), session)) :
      StartFault settings material session (.cause cause)

section

variable (launcher : Launcher) (settings : Settings) (unsigned output : Path)
  (material : List Signer) (minSdk : Int) (session : Session)

/-- The four ways of a call: it cannot begin, some signer's files cannot be written, the command
has a NUL in it, or the program is run. In all but the first the directory is cleared. -/
inductive Calling : Except Fault Unit → Session → Prop
  | unstarted (fault : Fault) (why : StartFault settings material session fault)
      (unprepared : ∀ program directory ready,
        ¬Prepared settings material session program directory ready) :
      Calling (.error fault) session
  | unwritten (fault broken : Fault) (directory : Path) (made middle : Session)
      (making : (makingKeys session).perform session = (.ok directory, made))
      (written : (writeAll directory material.zipIdx).perform made = (.error broken, middle))
      (why : KeyFault material.zipIdx fault) :
      Calling (.error fault) { middle with files := middle.files.clearTree directory }
  | impassable (program : String) (directory : Path) (ready : Session)
      (prepared : Prepared settings material session program directory ready)
      (impassable : ¬Passable (signCommand program directory unsigned output material minSdk)) :
      Calling (.error (.cause .nulCharacter))
        { ready with files := ready.files.clearTree directory }
  | run (program : String) (directory : Path) (ready : Session) (run : Run) (left : Files)
      (result : Except Fault Unit)
      (prepared : Prepared settings material session program directory ready)
      (passable : Passable (signCommand program directory unsigned output material minSdk))
      (ran : launcher (signCommand program directory unsigned output material minSdk)
        settings.timeout session.environment ready.files = (run, left))
      (answers : Answers .signing (run.Ended 0) (fun cause => run.Escapes cause) result) :
      Calling result { ready.launched (signCommand program directory unsigned output material minSdk)
        left with files := left.clearTree directory }

theorem signWith_written (program : String) (directory : Path) (paths : List (Path × Path))
    (made ready : Session)
    (written : (writeAll directory material.zipIdx).perform made = (.ok paths, ready)) :
    (signWith launcher settings program directory unsigned output material minSdk).perform made =
      (do
        let finished ← runTool launcher signerName .signing
          (signCommand program directory unsigned output material minSdk) settings.timeout
        if finished.status ≠ 0 then throw (.signing (failureText signerName finished)) :
          Action Unit).perform ready := by
  obtain ⟨_, _, again, named⟩ | ⟨_, _, _, broken, _⟩ := signers_cases directory material.zipIdx made
  · rw [written] at again
    cases again
    rw [signWith, perform_bind_ok _ _ _ _ _ named]
    simp only [markedBlocks, signCommand]
  · rw [written] at broken
    cases broken

def unmadeKeys (cause : Cause) : Fault :=
  .signing ("cannot create key directory: " ++ cause.message)

theorem sign_sought (filled : material ≠ []) :
    (sign launcher settings unsigned output material minSdk).perform session =
      match signerProgram session.files session.environment settings with
      | .error cause => (.error (.cause cause), session)
      | .ok none => (.error (.signing "apksigner not found (set APKSIGNER or ANDROID_HOME)"), session)
      | .ok (some program) => ((makingKeys session).rewording Cause.isRefusal unmadeKeys >>=
          fun directory => (signWith launcher settings program directory unsigned output material
            minSdk).ensuring (clearTree directory)).perform session := by
  have some : material.isEmpty = false := by simpa using filled
  rcases found : signerProgram session.files session.environment settings with cause | _ | program
  all_goals
    simp only [sign, some, Bool.false_eq_true, if_false, perform_bind, perform_get, perform_ask,
      perform_throw, found, Except.mapError, makingKeys]
  rfl

theorem sign_made (program : String) (directory : Path) (made : Session) (filled : material ≠ [])
    (found : signerProgram session.files session.environment settings = .ok (some program))
    (making : (makingKeys session).perform session = (.ok directory, made)) :
    (sign launcher settings unsigned output material minSdk).perform session =
      let call := (signWith launcher settings program directory unsigned output material
        minSdk).perform made
      (call.1, { call.2 with files := call.2.files.clearTree directory }) := by
  have reworded := (rewording_eq_ok Cause.isRefusal unmadeKeys _ _ _ _).mpr making
  rw [sign_sought _ _ _ _ _ _ _ filled, found]
  simp only [perform_bind, reworded, perform_ensuring, perform_clearTree]

theorem made_calling (program : String) (directory : Path) (made : Session) (filled : material ≠ [])
    (found : signerProgram session.files session.environment settings = .ok (some program))
    (making : (makingKeys session).perform session = (.ok directory, made)) :
    Calling launcher settings unsigned output material minSdk session
      ((sign launcher settings unsigned output material minSdk).perform session).1
      ((sign launcher settings unsigned output material minSdk).perform session).2 := by
  rw [sign_made _ _ _ _ _ _ _ program directory made filled found making]
  rcases signers_cases directory material.zipIdx made with
    ⟨paths, ready, written, _⟩ | ⟨broken, fault, middle, written, named, why⟩
  · have prepared : Prepared settings material session program directory ready :=
      ⟨filled, found, made, paths, making, written⟩
    rw [signWith_written _ _ _ _ _ _ program directory paths made ready written]
    by_cases passable : Passable (signCommand program directory unsigned output material minSdk)
    · rcases ran : launcher (signCommand program directory unsigned output material minSdk)
        settings.timeout ready.environment ready.files with ⟨run, left⟩
      obtain ⟨result, performed, answers⟩ := checked_answers launcher signerName .signing _
        settings.timeout ready (failureText signerName) run left passable ran
      rw [performed]
      rw [prepared.environment] at ran
      exact .run program directory ready run left result prepared passable ran answers
    · rw [perform_bind, runTool_impassable _ _ _ _ _ _ passable]
      exact .impassable program directory ready prepared passable
  · have ended : (signWith launcher settings program directory unsigned output material
        minSdk).perform made = (.error fault, middle) := by
      rw [signWith, perform_bind, named]
    rw [ended]
    exact .unwritten fault broken directory made middle making written why

theorem unmade_calling (fault : Fault) (after : Session) (program : String)
    (filled : material ≠ [])
    (found : signerProgram session.files session.environment settings = .ok (some program))
    (making : (makingKeys session).perform session = (.error fault, after)) :
    ∃ fault, (sign launcher settings unsigned output material minSdk).perform session =
      (.error fault, session) ∧ StartFault settings material session fault := by
  obtain ⟨rfl, cause, rfl⟩ := makingKeys_refused fault after making
  refine ⟨reworded Cause.isRefusal unmadeKeys (.cause cause), ?_, ?_⟩
  · rw [sign_sought _ _ _ _ _ _ _ filled, found]
    simp only [perform_bind, perform_rewording, making]
  · cases refusal : cause.isRefusal with
    | true =>
        rw [reworded, if_pos refusal]
        exact .worded _ (Or.inr (Or.inr ⟨cause, refusal, making⟩))
    | false =>
        rw [reworded, if_neg (by simp [refusal])]
        exact .unmade cause filled refusal making

theorem unfound_calling (answer : Except Cause (Option String)) (filled : material ≠ [])
    (found : signerProgram session.files session.environment settings = answer)
    (unfound : ∀ program, answer ≠ .ok (some program)) :
    ∃ fault, (sign launcher settings unsigned output material minSdk).perform session =
      (.error fault, session) ∧ StartFault settings material session fault := by
  rw [sign_sought _ _ _ _ _ _ _ filled, found]
  obtain cause | _ | program := answer
  · exact ⟨_, rfl, .unfound cause found⟩
  · exact ⟨_, rfl, .worded _ (Or.inr (Or.inl (found ▸ unfound)))⟩
  · exact absurd rfl (unfound program)

theorem sign_calling : Calling launcher settings unsigned output material minSdk session
    ((sign launcher settings unsigned output material minSdk).perform session).1
    ((sign launcher settings unsigned output material minSdk).perform session).2 := by
  by_cases empty : material = []
  · subst empty
    exact .unstarted _ (.worded _ (Or.inl rfl)) fun _ _ _ prepared => prepared.filled rfl
  by_cases known : ∃ program,
      signerProgram session.files session.environment settings = .ok (some program)
  · obtain ⟨program, found⟩ := known
    rcases making : (makingKeys session).perform session with ⟨fault | directory, made⟩
    · obtain ⟨fault, ended, why⟩ := unmade_calling launcher settings unsigned output material minSdk
        session fault made program empty found making
      rw [ended]
      refine .unstarted fault why fun _ _ _ prepared => ?_
      obtain ⟨_, _, again, _⟩ := prepared.written
      rw [making] at again
      cases again
    · exact made_calling _ _ _ _ _ _ _ program directory made empty found making
  · obtain ⟨fault, ended, why⟩ := unfound_calling launcher settings unsigned output material minSdk
      session _ empty rfl fun program found => known ⟨program, found⟩
    rw [ended]
    exact .unstarted fault why fun program _ _ prepared => known ⟨program, prepared.found⟩

variable {launcher settings unsigned output material minSdk session}
  {result : Except Fault Unit} {after : Session}

theorem cleared_gone {directory : Path} {made : Session}
    (making : (makingKeys session).perform session = (.ok directory, made)) (files : Files) :
    Gone (files.clearTree directory) directory ∧
      ∀ place, session.files.resolve directory = .ok place →
        SameOutside place session.files files →
        SameOutside place session.files (files.clearTree directory) := by
  obtain ⟨name, spot, plain, rooted, leads, _, named, _⟩ := makingKeys_ok making
  refine ⟨rooted ▸ clearTree_closes files session.temporary name plain, fun place reached same => ?_⟩
  obtain rfl : spot = place := by simpa [leads] using reached
  have goal : destination files.here directory = spot := by
    rw [same.here, ← resolve_destination _ _ _ leads]
  exact same.trans (goal ▸ clearTree_within files directory (goal ▸ named))

theorem written_cleared {directory : Path} {made ready : Session}
    {written : Except Fault (List (Path × Path))}
    (making : (makingKeys session).perform session = (.ok directory, made))
    (filling : (writeAll directory material.zipIdx).perform made = (written, ready))
    (other : Path) (made' : Session)
    (again : (makingKeys session).perform session = (.ok other, made')) (place : Place)
    (reached : session.files.resolve other = .ok place) :
    SameOutside place session.files (ready.files.clearTree directory) := by
  rw [making] at again
  cases again
  exact (cleared_gone making _).2 place reached ((written_inside _ _ making filling).2 place reached)

theorem Calling.gone
    (calling : Calling launcher settings unsigned output material minSdk session result after)
    (directory : Path) (made : Session)
    (making : (makingKeys session).perform session = (.ok directory, made)) :
    Gone after.files directory := by
  have same : ∀ other made', (makingKeys session).perform session = (.ok other, made') →
      other = directory := by
    intro other made' again
    rw [making] at again
    cases again
    rfl
  cases calling with
  | unstarted =>
      -- Nothing was made, so there still is what was there before: nothing.
      obtain ⟨_, place, _, _, reached, free, _⟩ := makingKeys_ok making
      refine gone_of_closed _ _ fun found => ?_
      obtain ⟨spot, again, there⟩ := (find_eq_ok ..).mp found
      rw [reached] at again
      cases again
      rw [free] at there
      cases there
  | unwritten fault broken other made' middle making' written why =>
      exact same other made' making' ▸ (cleared_gone making' middle.files).1
  | impassable program other ready prepared impassable =>
      obtain ⟨made', _, making', _⟩ := prepared.written
      exact same other made' making' ▸ (cleared_gone making' ready.files).1
  | run program other ready run left result prepared passable ran answered =>
      obtain ⟨made', _, making', _⟩ := prepared.written
      exact same other made' making' ▸ (cleared_gone making' left).1

/-- Either no program is run, as something it needs is missing, and all that was written lies in
the directory; or it is run once, on the files with the keys, and the directory is cleared. -/
theorem Calling.launched
    (calling : Calling launcher settings unsigned output material minSdk session result after) :
    (after.journal = session.journal ∧
      (∀ program directory ready,
        Prepared settings material session program directory ready →
          ¬Passable (signCommand program directory unsigned output material minSdk)) ∧
      ∀ directory made, (makingKeys session).perform session = (.ok directory, made) →
        ∀ place, session.files.resolve directory = .ok place →
          SameOutside place session.files after.files) ∨
    ∃ program directory ready, Prepared settings material session program directory ready ∧
      Passable (signCommand program directory unsigned output material minSdk) ∧
      after.journal = session.journal ++
        [.launched (signCommand program directory unsigned output material minSdk)] ∧
      after.files = (launcher (signCommand program directory unsigned output material minSdk)
        settings.timeout session.environment ready.files).2.clearTree directory := by
  cases calling with
  | unstarted fault why unprepared =>
      exact Or.inl ⟨rfl, fun program directory ready prepared =>
        absurd prepared (unprepared program directory ready), fun _ _ _ _ _ => .refl _ _⟩
  | unwritten fault broken directory made middle making written why =>
      refine Or.inl ⟨by rw [(written_inside _ _ making written).1], fun program other ready prepared =>
        ?_, written_cleared making written⟩
      exact absurd prepared (unwritten_unprepared broken middle making written program other ready)
  | impassable program directory ready prepared impassable =>
      obtain ⟨made, paths, making, written⟩ := prepared.written
      refine Or.inl ⟨by rw [prepared.bare], fun program' directory' ready' again => ?_,
        written_cleared making written⟩
      obtain ⟨rfl, rfl, rfl⟩ := prepared.same again
      exact impassable
  | run program directory ready run left result prepared passable ran answered =>
      refine Or.inr ⟨program, directory, ready, prepared, passable, ?_, ?_⟩
      · rw [Session.launched_journal, prepared.bare]
      · rw [ran]

end

/-- However a call of the signer ends, no directory of keys is left; and if no program was run,
nothing beside that directory was written. The program is run once at most: just when there are
signers, it was found, the directory was made, all keys were written and no argument has a NUL in
it. At that moment every signer has files of its own, which its arguments name. -/
theorem sign_guards_keys (launcher : Launcher) (settings : Settings) (unsigned output : Path)
    (material : List Signer) (minSdk : Int) (session : Session) :
    let after := ((sign launcher settings unsigned output material minSdk).perform session).2
    let command := fun program directory =>
      signCommand program directory unsigned output material minSdk
    (∀ directory made, (makingKeys session).perform session = (.ok directory, made) →
      Gone after.files directory ∧
        (after.journal = session.journal → ∀ place, session.files.resolve directory = .ok place →
          SameOutside place session.files after.files)) ∧
    (after.journal = session.journal ∨
      ∃ arguments, after.journal = session.journal ++ [.launched arguments]) ∧
    (∀ arguments, after.journal = session.journal ++ [.launched arguments] ↔
      ∃ program directory ready, Prepared settings material session program directory ready ∧
        Passable arguments ∧ arguments = command program directory) ∧
    ∀ program directory ready, Prepared settings material session program directory ready →
      Apart ready.files directory material ∧
        (Passable (command program directory) →
          after.files = (launcher (command program directory) settings.timeout session.environment
            ready.files).2.clearTree directory) := by
  intro after command
  have calling := sign_calling launcher settings unsigned output material minSdk session
  refine ⟨fun directory made making => ⟨calling.gone directory made making, ?_⟩, ?_⟩
  · intro quiet
    rcases calling.launched with ⟨_, _, same⟩ | ⟨_, _, _, _, _, journal, _⟩
    · exact same directory made making
    · exact absurd (journal.symm.trans quiet) (by simp)
  rcases calling.launched with ⟨quiet, refused, _⟩ |
    ⟨program, directory, ready, prepared, passable, journal, files⟩
  · refine ⟨Or.inl quiet, fun arguments => ⟨fun run => ?_, ?_⟩, ?_⟩
    · exact absurd (quiet.symm.trans run) (by simp)
    · rintro ⟨program, directory, ready, prepared, passable, rfl⟩
      exact absurd passable (refused program directory ready prepared)
    · exact fun program directory ready prepared => ⟨prepared.apart, fun passable =>
        absurd passable (refused program directory ready prepared)⟩
  · refine ⟨Or.inr ⟨_, journal⟩, fun arguments => ⟨fun run => ?_, ?_⟩, ?_⟩
    · have same := journal.symm.trans run
      simp only [List.append_cancel_left_eq, List.cons.injEq, Event.launched.injEq, and_true]
        at same
      exact ⟨program, directory, ready, prepared, same ▸ passable, same.symm⟩
    · rintro ⟨_, _, _, again, _, rfl⟩
      obtain ⟨rfl, rfl, rfl⟩ := prepared.same again
      exact journal
    · intro _ _ _ again
      obtain ⟨rfl, rfl, rfl⟩ := prepared.same again
      exact ⟨prepared.apart, fun _ => files⟩

/-- A program that ends well and writes nothing. -/
def idleLauncher : Launcher := fun _ _ _ files => (.finished 0 [] [], files)

def givenSettings : Settings where
  binDir := Path.ofText "/bin"
  baksmaliJar := Path.ofText "/bin/baksmali.jar"
  smaliJar := Path.ofText "/bin/smali.jar"
  java := "java"
  apksigner := some "/bin/apksigner"
  api := "35"
  minSdk := 21
  jobs := 1
  timeout := 600
  keystore := none
  keystorePass := none
  keyAlias := none
  keyPass := none
  tempRoot := none

def givenSession : Session where
  files := ⟨[(["tmp"], .directory)], []⟩
  journal := []
  clock := Zip.Stamp.earliest
  environment := []
  temporary := Path.ofText "/tmp"

def nulSigner : Signer := ⟨"a\x00b", .ok [1], [[2]]⟩

theorem nul_unlaunched :
    (∃ program directory ready,
      Prepared givenSettings [nulSigner] givenSession program directory ready) ∧
    ((sign idleLauncher givenSettings (Path.ofText "/in.apk") (Path.ofText "/out.apk") [nulSigner]
      21).perform givenSession).2.journal = givenSession.journal := by
  constructor
  · refine ⟨"/bin/apksigner", _, _, by decide, rfl, _, _,
      perform_of_toOption _ _ (Path.ofText "/tmp/apksurgeon_keys_00000000") ?_,
      perform_of_toOption _ _ [(keyFile (Path.ofText "/tmp/apksurgeon_keys_00000000") 0,
        certificateFile (Path.ofText "/tmp/apksurgeon_keys_00000000") 0)] ?_⟩
    · decide +kernel
    · decide +kernel
  · exact List.isEmpty_iff.mp (by decide +kernel)

end DexGraft.Tool
