import DexGraft.Proofs.Files.Scratch
import DexGraft.Proofs.Session.Keeps
import DexGraft.Tool.Program
import Mathlib.Data.List.Nodup

/-!
The files of signers. Each signer has two names of its own, made of its number in the
list, so that no file of one signer lies where a file of another does. What is written
for the later ones leaves the files of the earlier ones as they are.
-/
namespace DexGraft.Files

/-- Files came to stand under names in a place; nothing else changed. -/
structure Filled (place : Place) (names : List String) (before after : Files) : Prop where
  here : after.here = before.here
  kept : ∀ other, before.node? other = some .directory → after.node? other = some .directory
  rest : ∀ other, (∀ name ∈ names, other ≠ place ++ [name]) →
    after.node? other = before.node? other

section

variable {place : Place} {names more : List String} {first second third : Files}

theorem Filled.refl (place : Place) (files : Files) : Filled place [] files files :=
  ⟨rfl, fun _ there => there, fun _ _ => rfl⟩

theorem Filled.trans (front : Filled place names first second)
    (back : Filled place more second third) : Filled place (names ++ more) first third where
  here := back.here.trans front.here
  kept other there := back.kept other (front.kept other there)
  rest other apart := by
    rw [back.rest other fun name member => apart name (List.mem_append_right _ member),
      front.rest other fun name member => apart name (List.mem_append_left _ member)]

theorem Filled.wider (filled : Filled place names first second) (subset : names ⊆ more) :
    Filled place more first second :=
  ⟨filled.here, filled.kept, fun other apart =>
    filled.rest other fun name member => apart name (subset member)⟩

theorem Filled.leads (filled : Filled place names first second) (path : Path) (goal : Place)
    (reached : first.resolve path = .ok goal) : second.resolve path = .ok goal :=
  resolve_mono first second path goal filled.here filled.kept reached

theorem Filled.outside (filled : Filled place names first second) :
    SameOutside place first second :=
  ⟨filled.here, fun other outside => filled.rest other fun _ _ same =>
    outside (same ▸ List.prefix_append _ _)⟩

theorem filled_put (files : Files) (place : Place) (name : String) (content : Bytes) (mode : Nat)
    (open_ : files.node? (place ++ [name]) ≠ some .directory) :
    Filled place [name] files (files.put (place ++ [name]) (.file content mode)) := by
  have named := named_of_open files _ open_
  refine ⟨here_put .., fun other there => ?_, fun other apart => ?_⟩
  · have elsewhere : other ≠ place ++ [name] := fun same => open_ (same ▸ there)
    rw [node_put _ _ _ _ named, if_neg elsewhere, there]
  · rw [node_put _ _ _ _ named, if_neg (apart name (List.mem_singleton_self name))]

end

structure FileAt (files : Files) (path : Path) (place : Place) (content : Bytes) (mode : Nat) :
    Prop where
  leads : files.resolve path = .ok place
  there : files.node? place = some (.file content mode)

theorem FileAt.kept {before after : Files} {path : Path} {place : Place} {name : String}
    {names : List String} {content : Bytes} {mode : Nat}
    (filed : FileAt before path (place ++ [name]) content mode)
    (filled : Filled place names before after) (other : name ∉ names) :
    FileAt after path (place ++ [name]) content mode where
  leads := filled.leads path _ filed.leads
  there := by
    rw [filled.rest _ fun new member same => ?_, filed.there]
    obtain rfl : name = new := by simpa using same
    exact other member

section

variable {files after : Files} {directory : Path} {place : Place} {name : String} {content : Bytes}
  {mode : Nat}

theorem write_child (plain : PlainName name) (leads : files.resolve directory = .ok place)
    (done : files.write (directory / name) content = .ok after) :
    Filled place [name] files after ∧
      ∃ mode, FileAt after (directory / name) (place ++ [name]) content mode := by
  obtain ⟨spot, mode, reached, open_, rfl⟩ := write_ok _ _ _ _ done
  obtain ⟨rfl, _⟩ := resolve_child files directory name place spot plain leads reached
  refine ⟨filled_put files place name content mode open_, mode, ?_, ?_⟩
  · exact resolve_put files _ _ _ _ open_ reached
  · rw [node_put _ _ _ _ (named_of_open files _ open_), if_pos rfl]

theorem setMode_filled (plain : PlainName name) (leads : files.resolve directory = .ok place)
    (done : files.setMode (directory / name) mode = .ok after) :
    ∃ names, Filled place names files after := by
  unfold setMode at done
  cases reached : files.resolve (directory / name) with
  | error cause => simp [reached, bind, Except.bind] at done
  | ok spot =>
      obtain ⟨rfl, _⟩ := resolve_child files directory name place spot plain leads reached
      simp only [reached, bind, Except.bind] at done
      split at done
      · rename_i there
        cases done
        exact ⟨_, filled_put files place name _ mode (by simp [there])⟩
      · cases done
        exact ⟨[], .refl _ _⟩
      · cases done

theorem setMode_child {old : Nat}
    (filed : FileAt files (directory / name) (place ++ [name]) content old)
    (done : files.setMode (directory / name) mode = .ok after) :
    Filled place [name] files after ∧
      FileAt after (directory / name) (place ++ [name]) content mode := by
  have open_ : files.node? (place ++ [name]) ≠ some .directory := by simp [filed.there]
  simp only [setMode, filed.leads, filed.there, bind, Except.bind] at done
  cases done
  refine ⟨filled_put files place name content mode open_, ?_, ?_⟩
  · exact resolve_put files _ _ _ _ open_ filed.leads
  · rw [node_put _ _ _ _ (named_of_open files _ open_), if_pos rfl]

end

end DexGraft.Files

namespace DexGraft.Signing

open Files DexGraft.Action

def keyName (index : Nat) : String := "signer" ++ toString index ++ ".pk8"

def certificateName (index : Nat) : String := "signer" ++ toString index ++ ".x509.pem"

theorem keyFile_child (directory : Path) (index : Nat) :
    keyFile directory index = directory / keyName index := rfl

theorem certificateFile_child (directory : Path) (index : Nat) :
    certificateFile directory index = directory / certificateName index := rfl

theorem number_whole (index : Nat) : ∀ c ∈ (toString index).toList, c ≠ '/' := by
  rintro c member rfl
  rw [Nat.toString_eq_repr, Nat.toList_repr] at member
  exact absurd (Nat.isDigit_of_mem_toDigits (by decide) (by decide) member) (by decide)

theorem numbered_plain (index : Nat) (ending : String) (whole : ∀ c ∈ ending.toList, c ≠ '/') :
    PlainName ("signer" ++ toString index ++ ending) := by
  rw [String.append_assoc]
  refine joined_plain _ _ (by decide) (Text.whole_of_all _ _ (by decide)) fun c member => ?_
  rw [String.toList_append, List.mem_append] at member
  rcases member with digit | ending
  · exact number_whole index c digit
  · exact whole c ending

theorem keyName_plain (index : Nat) : PlainName (keyName index) :=
  numbered_plain index _ (Text.whole_of_all _ _ (by decide))

theorem certificateName_plain (index : Nat) : PlainName (certificateName index) :=
  numbered_plain index _ (Text.whole_of_all _ _ (by decide))

theorem numbered_inj (ending : String) (first second : Nat)
    (same : "signer" ++ toString first ++ ending = "signer" ++ toString second ++ ending) :
    first = second := by
  rw [String.append_left_inj, String.append_right_inj, Nat.toString_eq_repr,
    Nat.toString_eq_repr] at same
  have number := congrArg (fun text : String => Nat.ofDigitChars 10 text.toList 0) same
  simpa only [Nat.toList_repr, @Nat.ofDigitChars_toDigits 10 _ (by decide) (by decide)] using
    number

theorem keyName_ne_certificateName (first second : Nat) :
    keyName first ≠ certificateName second := by
  intro same
  have last := congrArg (fun name : String => name.toList.getLast?) same
  simp [keyName, certificateName, String.toList_append, List.getLast?_cons] at last

def namesOf (entry : Signer × Nat) : List String := [keyName entry.2, certificateName entry.2]

theorem names_nodup (entries : List (Signer × Nat)) (apart : (entries.map Prod.snd).Nodup) :
    (entries.flatMap namesOf).Nodup := by
  induction entries with
  | nil => exact List.nodup_nil
  | cons entry rest ih =>
      rw [List.map_cons, List.nodup_cons] at apart
      rw [List.flatMap_cons, List.nodup_append']
      refine ⟨?_, ih apart.2, ?_⟩
      · simp [namesOf, keyName_ne_certificateName]
      · intro name front back
        obtain ⟨other, member, named⟩ := List.mem_flatMap.mp back
        have index : entry.2 = other.2 := by
          simp only [namesOf, List.mem_cons, List.not_mem_nil, or_false] at front named
          rcases front with rfl | rfl <;> rcases named with same | same
          · exact numbered_inj _ _ _ same
          · exact absurd same (keyName_ne_certificateName _ _)
          · exact absurd same.symm (keyName_ne_certificateName _ _)
          · exact numbered_inj _ _ _ same
        exact apart.1 (index ▸ List.mem_map_of_mem member)

structure Filed (files : Files) (directory : Path) (place : Place) (entry : Signer × Nat) :
    Prop where
  key : ∃ key, entry.1.key = .ok key ∧
    FileAt files (keyFile directory entry.2) (place ++ [keyName entry.2]) key keyFileMode
  certificates : ∃ mode, FileAt files (certificateFile directory entry.2)
    (place ++ [certificateName entry.2]) entry.1.certificates.flatten mode

theorem Filed.kept {before after : Files} {directory : Path} {place : Place}
    {entry : Signer × Nat} {names : List String} (filed : Filed before directory place entry)
    (filled : Filled place names before after) (other : ∀ name ∈ namesOf entry, name ∉ names) :
    Filed after directory place entry := by
  obtain ⟨key, known, keyFiled⟩ := filed.key
  obtain ⟨mode, certificatesFiled⟩ := filed.certificates
  refine ⟨⟨key, known, keyFiled.kept filled ?_⟩, mode, certificatesFiled.kept filled ?_⟩
  · exact other _ List.mem_cons_self
  · exact other _ (List.mem_cons_of_mem _ List.mem_cons_self)

def pathsOf (directory : Path) (entry : Signer × Nat) : Path × Path :=
  (keyFile directory entry.2, certificateFile directory entry.2)

def writeAll (directory : Path) (entries : List (Signer × Nat)) : Action (List (Path × Path)) :=
  entries.mapM fun entry => writeFiles entry.1 directory entry.2

theorem resolve_unwritable (files : Files) (path : Path) (cause : Cause)
    (refused : files.resolve path = .error cause) : Tool.isUnwritableKey cause = true := by
  unfold resolve at refused
  split at refused
  · cases refused
    rfl
  · split at refused
    · cases refused
      rfl
    · split at refused
      · cases refused
      · cases refused
        rfl

theorem reached_unwritable (files : Files) (path : Path) (next : Place → Except Cause Files)
    (cause : Cause) (refused : (do next (← files.resolve path)) = .error cause)
    (each : ∀ place, next place = .error cause → Tool.isUnwritableKey cause = true) :
    Tool.isUnwritableKey cause = true := by
  cases reached : files.resolve path with
  | error found =>
      rw [reached] at refused
      cases refused
      exact resolve_unwritable files path cause reached
  | ok place =>
      rw [reached] at refused
      exact each place refused

theorem write_unwritable (files : Files) (path : Path) (content : Bytes) (cause : Cause)
    (refused : files.write path content = .error cause) : Tool.isUnwritableKey cause = true := by
  refine reached_unwritable files path _ cause refused fun place refused => ?_
  split at refused <;> cases refused
  rfl

theorem setMode_unwritable (files : Files) (path : Path) (mode : Nat) (cause : Cause)
    (refused : files.setMode path mode = .error cause) : Tool.isUnwritableKey cause = true := by
  refine reached_unwritable files path _ cause refused fun place refused => ?_
  split at refused <;> cases refused
  rfl

/-- What the writing of a signer's files may be refused for: what files are refused for, or that
the key has no serialised form. -/
def Unwritable (entry : Signer) (fault : Fault) : Prop :=
  ∃ cause, fault = .cause cause ∧ (Tool.isUnwritableKey cause = true ∨ entry.key = .error cause)

structure Written (origin : Session) (directory : Path) (session : Session) : Prop where
  bare : session = { origin with files := session.files }
  inside : ∀ place, origin.files.resolve directory = .ok place →
    ∃ names, Filled place names origin.files session.files

theorem written_refl (session : Session) (directory : Path) : Written session directory session :=
  ⟨rfl, fun place _ => ⟨[], .refl place _⟩⟩

theorem Written.next {origin session : Session} {directory : Path} {files : Files}
    (written : Written origin directory session)
    (change : ∀ place, session.files.resolve directory = .ok place →
      ∃ names, Filled place names session.files files) :
    Written origin directory { session with files } := by
  refine ⟨by rw [written.bare], fun place leads => ?_⟩
  obtain ⟨names, before⟩ := written.inside place leads
  obtain ⟨more, later⟩ := change place (before.leads directory place leads)
  exact ⟨names ++ more, before.trans later⟩

theorem writeFiles_keeps (origin : Session) (directory : Path) (entry : Signer × Nat) :
    Keeps (Written origin directory) (Unwritable entry.1)
      (writeFiles entry.1 directory entry.2) := by
  have writes : ∀ name content, PlainName name →
      Keeps (Written origin directory) (Unwritable entry.1)
        (change fun files => files.write (directory / name) content) := fun name content plain =>
    keeps_change_refused
      (fun _ cause refused => ⟨cause, rfl, Or.inl (write_unwritable _ _ _ _ refused)⟩)
      fun session files written done => written.next fun place leads =>
        ⟨[name], (write_child plain leads done).1⟩
  have closes : Keeps (Written origin directory) (Unwritable entry.1)
      (change fun files => files.setMode (keyFile directory entry.2) keyFileMode) :=
    keeps_change_refused
      (fun _ cause refused => ⟨cause, rfl, Or.inl (setMode_unwritable _ _ _ _ refused)⟩)
      fun session files written done => written.next fun place leads =>
        setMode_filled (keyName_plain entry.2) leads done
  refine keeps_bind (.of_perform fun session same => ?_) fun key => ?_
  · rw [perform_ofExcept]
    cases known : entry.1.key with
    | error cause =>
        exact ⟨same, fun fault ended => ⟨cause, (Except.error.inj ended).symm, Or.inr known⟩⟩
    | ok key => exact ⟨same, unbroken⟩
  · refine keeps_bind (writes _ key (keyName_plain entry.2)) fun _ => keeps_bind closes fun _ => ?_
    exact keeps_bind (writes _ _ (certificateName_plain entry.2)) fun _ => keeps_pure _

theorem writeAll_keeps (origin : Session) (directory : Path) (entries : List (Signer × Nat)) :
    Keeps (Written origin directory) (fun _ => True) (writeAll directory entries) :=
  keeps_mapM entries fun entry _ =>
    ⟨(writeFiles_keeps origin directory entry).session, fun _ _ _ _ => trivial⟩

section

variable {directory : Path} {place : Place} {session after : Session}

theorem writeFiles_ok (entry : Signer × Nat) (paths : Path × Path)
    (leads : session.files.resolve directory = .ok place)
    (done : (writeFiles entry.1 directory entry.2).perform session = (.ok paths, after)) :
    paths = pathsOf directory entry ∧ after = { session with files := after.files } ∧
      Filled place (namesOf entry) session.files after.files ∧
      Filed after.files directory place entry := by
  simp only [writeFiles, bind_eq_ok, ofExcept_eq_ok, change_eq_ok, pure_eq_ok] at done
  obtain ⟨key, _, ⟨known, rfl⟩, _, _, ⟨written, keyWritten, rfl⟩, _, _, ⟨closed, keyClosed, rfl⟩,
    _, _, ⟨both, certificatesWritten, rfl⟩, rfl, rfl⟩ := done
  rw [keyFile_child] at keyWritten keyClosed
  rw [certificateFile_child] at certificatesWritten
  obtain ⟨first, _, keyFiled⟩ := write_child (keyName_plain _) leads keyWritten
  obtain ⟨second, keyFiled⟩ := setMode_child keyFiled keyClosed
  have leads := second.leads _ _ (first.leads _ _ leads)
  obtain ⟨third, mode, certificatesFiled⟩ :=
    write_child (certificateName_plain _) leads certificatesWritten
  refine ⟨rfl, rfl, ((first.trans second).trans third).wider ?_, ⟨key, known, ?_⟩, mode, ?_⟩
  · simp [namesOf]
  · exact keyFiled.kept third (by simp [keyName_ne_certificateName])
  · exact certificatesFiled

-- By induction on the signers: what is written for one stays while the others are written, as
-- their names are others.
theorem writeAll_ok (entries : List (Signer × Nat)) (paths : List (Path × Path))
    (apart : (entries.map Prod.snd).Nodup) (leads : session.files.resolve directory = .ok place)
    (done : (writeAll directory entries).perform session = (.ok paths, after)) :
    paths = entries.map (pathsOf directory) ∧ after = { session with files := after.files } ∧
      Filled place (entries.flatMap namesOf) session.files after.files ∧
      ∀ entry ∈ entries, Filed after.files directory place entry := by
  induction entries generalizing session paths with
  | nil =>
      obtain ⟨rfl, rfl⟩ := (pure_eq_ok ..).mp done
      exact ⟨rfl, rfl, .refl _ _, by simp⟩
  | cons entry rest ih =>
      have names := names_nodup _ apart
      rw [List.flatMap_cons, List.nodup_append'] at names
      rw [writeAll, List.mapM_cons] at done
      simp only [bind_eq_ok, pure_eq_ok] at done
      obtain ⟨first, middle, front, others, _, back, rfl, rfl⟩ := done
      obtain ⟨rfl, same, filled, filed⟩ := writeFiles_ok entry first leads front
      obtain ⟨rfl, later, more, rests⟩ :=
        ih others (List.nodup_cons.mp apart).2 (filled.leads _ _ leads) back
      refine ⟨rfl, ?_, filled.trans more, fun other member => ?_⟩
      · rw [later, same]
      · rcases List.mem_cons.mp member with rfl | member
        · exact filed.kept more fun name mine others => names.2.2 mine others
        · exact rests other member

end

end DexGraft.Signing
