import DexGraft.Proofs.Apk.Defects
import DexGraft.Proofs.Search.Advance
import DexGraft.Proofs.Search.Likewise
import DexGraft.Proofs.Session.Twins

/-!
Two attempts abreast. Each works in a directory of its own, and the same is to be seen in
both directories after every step, so that both attempts come to the same result.
-/
namespace DexGraft.Search

open Files DexGraft.Action

/-- The class's path leads into the tree from where the tree is, and never out of the attempt's
directory on its way. -/
def LeadsInto (target : String) : Prop :=
  ∃ parts name more, Path.ofText (Smali.classFile target) = ⟨0, parts⟩ ∧
    follow ["smali"] parts = some ("smali" :: name :: more)

theorem leadsInto_of_down (target : String) (parts : List String)
    (relative : Path.ofText (Smali.classFile target) = ⟨0, parts⟩) (filled : parts ≠ [])
    (down : ".." ∉ parts) : LeadsInto target := by
  cases parts with
  | nil => exact absurd rfl filled
  | cons name more => exact ⟨name :: more, name, more, relative, follow_all ["smali"] _ down⟩

/-- All that is asked of a setting in which attempts are compared. -/
structure Comparable (setting : Setting) : Prop where
  disk : setting.disk = Smali.Disk.plain
  polite : Polite setting.progress
  confined : Confined setting.toolbox
  functional : Functional setting.toolbox
  target : LeadsInto setting.patch.targetClass

structure Pair (prior prior' : Files) (scratch scratch' : Path) (left right : Place) : Prop where
  first : NewPlace prior scratch left
  second : NewPlace prior' scratch' right
  peers : Peers scratch scratch'

/-- Both directories are tidy, and the same is to be seen in both. -/
structure Level (prior prior' : Files) (left right : Place) (image : Apk.Image)
    (files files' : Files) : Prop where
  first : Tidy prior left (attemptNames image) files
  second : Tidy prior' right (attemptNames image) files'
  same : SameUnder left right files files'

/-- Both attempts have extracted the image and go on from the same. -/
structure Abreast (prior prior' : Files) (left right : Place) (image : Apk.Image)
    (files files' : Files) : Prop where
  first : Staged prior left image files
  second : Staged prior' right image files'
  same : SameUnder left right files files'

section

variable {setting : Setting} {prior prior' : Files} {scratch scratch' : Path} {left right : Place}
  {image : Apk.Image} {files files' after after' : Files}

theorem Abreast.level (abreast : Abreast prior prior' left right image files files') :
    Level prior prior' left right image files files' :=
  ⟨abreast.first.tidy, abreast.second.tidy, abreast.same⟩

theorem Level.mirrored (level : Level prior prior' left right image files files')
    (pair : Pair prior prior' scratch scratch' left right) (names goal : List String)
    (within : follow [] names = some goal) :
    Mirrored left right goal (files.resolve (beyond scratch names))
      (files'.resolve (beyond scratch' names)) :=
  resolve_mirrored pair.peers names within (level.first.leads pair.first)
    (level.second.leads pair.second) level.same

theorem Level.child (level : Level prior prior' left right image files files')
    (pair : Pair prior prior' scratch scratch' left right) (name : String)
    (plain : PlainName name) :
    Mirrored left right [name] (files.resolve (scratch / name)) (files'.resolve (scratch' / name)) := by
  rw [beyond_child _ _ plain, beyond_child _ _ plain]
  exact level.mirrored pair [name] [name] (follow_down [] name plain.down)

theorem Pair.child (pair : Pair prior prior' scratch scratch' left right) (name : String)
    (plain : PlainName name) : Peers (scratch / name) (scratch' / name) := by
  rw [beyond_child _ _ plain, beyond_child _ _ plain]
  exact pair.peers.beyond [name]

theorem Level.likewise (level : Level prior prior' left right image files files')
    (pair : Pair prior prior' scratch scratch' left right) (name : String)
    (plain : PlainName name) :
    Likewise files files' (scratch / name) (scratch' / name) := by
  refine ⟨?_, pair.child name plain, ?_⟩
  · rw [child_name _ _ plain, child_name _ _ plain]
  · have mirrored := level.child pair name plain
    generalize files.resolve (scratch / name) = reached at mirrored
    generalize files'.resolve (scratch' / name) = reached' at mirrored
    cases mirrored with
    | leads => exact Or.inl ⟨_, _, rfl, rfl, level.same.deeper [name]⟩
    | unsayable => exact Or.inr ⟨by simp, by simp⟩
    | barred => exact Or.inr ⟨by simp, by simp⟩

theorem Level.write (level : Level prior prior' left right image files files')
    (pair : Pair prior prior' scratch scratch' left right) {name : String}
    (member : name ∈ attemptNames image) (plain : PlainName name) (content : Bytes) :
    (∃ after after', files.write (scratch / name) content = .ok after ∧
        files'.write (scratch' / name) content = .ok after' ∧
        Level prior prior' left right image after after') ∨
      ∃ cause cause', files.write (scratch / name) content = .error cause ∧
        files'.write (scratch' / name) content = .error cause' := by
  rcases (level.child pair name plain).write level.same content with
    ⟨mode, mode', done, done'⟩ | failed
  · refine Or.inl ⟨_, _, done, done', ?_⟩
    exact ⟨level.first.inside pair.first member (sameOutside_put _ _ _ (by simp)),
      level.second.inside pair.second member (sameOutside_put _ _ _ (by simp)),
      level.same.put [name] (by simp) (by simp) _ _ rfl⟩
  · exact Or.inr failed

theorem Level.makeDirectory (level : Level prior prior' left right image files files')
    (pair : Pair prior prior' scratch scratch' left right) {name : String}
    (member : name ∈ attemptNames image) (plain : PlainName name) :
    (∃ after after', files.makeDirectory (scratch / name) = .ok after ∧
        files'.makeDirectory (scratch' / name) = .ok after' ∧
        Level prior prior' left right image after after') ∨
      ∃ cause cause', files.makeDirectory (scratch / name) = .error cause ∧
        files'.makeDirectory (scratch' / name) = .error cause' := by
  rcases (level.child pair name plain).makeDirectory level.same (pair.child name plain) with
    ⟨done, done'⟩ | failed
  · refine Or.inl ⟨_, _, done, done', ?_⟩
    exact ⟨level.first.inside pair.first member (sameOutside_put _ _ _ (by simp)),
      level.second.inside pair.second member (sameOutside_put _ _ _ (by simp)),
      level.same.put [name] (by simp) (by simp) _ _ rfl⟩
  · exact Or.inr failed

end

section

variable {setting : Setting}

/-- What an extraction would write: the content of the entry with the name, if the archive can be
read that far. -/
def contentFor (reader : Zip.Reader) (files : Files) (archive : Path) (name : String) :
    Option Bytes :=
  (files.read archive).toOption.bind fun file =>
    (Apk.contentIn reader file file name).toOption.join

/-- How an extraction ends that comes to write its target. -/
inductive Extracted (session : Session) (target : Path) (content : Bytes) :
    Except Fault Nat × Session → Prop
  | refused (cause : Cause) (fault : Fault)
      (refused : session.files.write target [] = .error cause) :
      Extracted session target content (.error fault, session)
  | done (emptied filled : Files) (opening : session.files.write target [] = .ok emptied)
      (filling : emptied.write target content = .ok filled) :
      Extracted session target content (.ok content.length, { session with files := filled })

theorem Extracted.opened {session : Session} {target : Path} {content : Bytes} {emptied : Files}
    {ended : Except Fault Nat × Session} (ends : Extracted session target content ended)
    (opening : session.files.write target [] = .ok emptied) :
    ∃ filled, emptied.write target content = .ok filled ∧
      ended = (.ok content.length, { session with files := filled }) := by
  cases ends with
  | refused _ _ refused =>
      rw [opening] at refused
      cases refused
  | done _ filled opened filling =>
      cases opening.symm.trans opened
      exact ⟨filled, filling, rfl⟩

theorem Extracted.unopened {session : Session} {target : Path} {content : Bytes} {cause : Cause}
    {ended : Except Fault Nat × Session} (ends : Extracted session target content ended)
    (failed : session.files.write target [] = .error cause) :
    ∃ fault, ended = (.error fault, session) := by
  cases ends with
  | refused _ fault _ => exact ⟨fault, rfl⟩
  | done _ _ opened _ =>
      rw [failed] at opened
      cases opened

theorem contentFor_some (reader : Zip.Reader) (files : Files) (archive : Path) (name : String)
    (content : Bytes) :
    contentFor reader files archive name = some content ↔ ∃ file, files.read archive = .ok file ∧
      Apk.contentIn reader file file name = .ok (some content) := by
  have known : ∀ {Refusal Found : Type} (answer : Except Refusal Found) (found : Found),
      answer.toOption = some found ↔ answer = .ok found := by
    intro _ _ answer found
    cases answer <;> simp [Except.toOption]
  simp only [contentFor, Option.bind_eq_some_iff, Option.join_eq_some_iff, known]

def Clear (files : Files) (archive target : Path) : Prop :=
  ∀ emptied file, files.write target [] = .ok emptied → files.read archive = .ok file →
    emptied.read archive = .ok file

theorem extract_lost (reader : Zip.Reader) (archive target : Path) (name : String)
    (session : Session) (apart : Clear session.files archive target)
    (lost : contentFor reader session.files archive name = none) :
    ∃ fault after,
      (Apk.extract archive name target reader).perform session = (.error fault, after) := by
  rcases ran : (Apk.extract archive name target reader).perform session with ⟨fault | size, after⟩
  · exact ⟨fault, after, rfl⟩
  · obtain ⟨file, opened, entry, index, content, _, read, met, row, filled, _⟩ :=
      Apk.extract_whole reader archive target name session after size apart ran
    have found := (contentFor_some ..).mpr
      ⟨file, read, (Apk.contentIn_some ..).mpr ⟨opened, entry, index, met, row, filled⟩⟩
    rw [lost] at found
    cases found

theorem extract_found (reader : Zip.Reader) (archive target : Path) (name : String)
    (session : Session) (content : Bytes) (apart : Clear session.files archive target)
    (found : contentFor reader session.files archive name = some content) :
    Extracted session target content
      ((Apk.extract archive name target reader).perform session) := by
  obtain ⟨file, read, inside⟩ := (contentFor_some ..).mp found
  obtain ⟨opened, entry, index, met, row, filled⟩ := (Apk.contentIn_some ..).mp inside
  obtain ⟨data, opening, filled⟩ := Checked.bind_eq_ok.mp filled
  have archived := Apk.openArchive_perform reader.decoders archive session file read
  rw [met] at archived
  rw [Apk.extract, perform_bind_ok _ _ _ _ _ archived]
  simp only [row, perform_bind, perform_rewording, Apk.copyEntry, Apk.zipResult_perform, opening,
    Except.mapError, perform_change, perform_ask]
  cases emptying : session.files.write target [] with
  | error cause => exact .refused cause _ emptying
  | ok emptied =>
      have whole : reader.dataAfter opened entry data file = data :=
        (Zip.read_given _ _ _ met).1 ▸
          Zip.dataAfter_same reader opened entry data (Zip.openEntry_suffix _ _ _ _ opening)
      obtain ⟨after, filling, back⟩ :=
        Apk.written_again session.files emptied target [] content emptying
      simp only [apart emptied file emptying read, whole, filled, filling]
      rw [Apk.fileSize_perform target _ content back]
      exact .done _ _ emptying filling

end

section

variable {setting : Setting} {prior prior' : Files} {scratch scratch' : Path} {left right : Place}
  {image : Apk.Image} {archive archive' : Path} {reader : Zip.Reader}

def Taken (reader : Zip.Reader) (prior : Files) (place : Place) (scratch archive : Path)
    (image : Apk.Image) (files : Files) : Prop :=
  ∃ session taken size, session.files = prior.put place .directory ∧
    (Apk.extract archive image.entry (scratch / imageName image) reader).perform session =
      (.ok size, taken) ∧ taken.files = files

structure Started (reader : Zip.Reader) (prior prior' : Files)
    (scratch scratch' archive archive' : Path) (left right : Place) (image : Apk.Image)
    (files files' : Files) : Prop where
  first : Taken reader prior left scratch archive image files
  second : Taken reader prior' right scratch' archive' image files'
  level : Level prior prior' left right image files files'

structure Begun (reader : Zip.Reader) (prior prior' : Files)
    (scratch scratch' archive archive' : Path) (left right : Place) (image : Apk.Image)
    (files files' : Files) : Prop where
  first : files = prior.put left .directory
  second : files' = prior'.put right .directory
  content :
    contentFor reader files archive image.entry = contentFor reader files' archive' image.entry
  clear : Clear files archive (scratch / imageName image)
  clear' : Clear files' archive' (scratch' / imageName image)

theorem level_begun (pair : Pair prior prior' scratch scratch' left right) :
    Level prior prior' left right image (prior.put left .directory)
      (prior'.put right .directory) := by
  refine ⟨tidy_made pair.first, tidy_made pair.second, fun names => ?_⟩
  rw [seen, seen, node_put _ _ _ _ pair.first.named, node_put _ _ _ _ pair.second.named]
  cases names with
  | nil => simp
  | cons name more =>
      rw [if_neg (by simp), if_neg (by simp), pair.first.sound.nothing_under left pair.first.free,
        pair.second.sound.nothing_under right pair.second.free]

theorem extract_twins (pair : Pair prior prior' scratch scratch' left right)
    (plain : PlainName (imageName image)) :
    Twins (Both (Begun reader prior prior' scratch scratch' archive archive' left right image))
      (Apk.extract archive image.entry (scratch / imageName image) reader)
      (Apk.extract archive' image.entry (scratch' / imageName image) reader)
      (fun _ _ session session' => Started reader prior prior' scratch scratch' archive archive' left
        right image session.files session'.files) := by
  intro session session' ⟨fresh, fresh', content, clear, clear'⟩
  have level : Level prior prior' left right image session.files session'.files := by
    rw [fresh, fresh']
    exact level_begun pair
  have member : imageName image ∈ attemptNames image := by simp [attemptNames]
  cases found : contentFor reader session.files archive image.entry with
  | none =>
      rw [found] at content
      obtain ⟨_, _, ran⟩ := extract_lost _ _ (scratch / imageName image) _ _ clear found
      obtain ⟨_, _, ran'⟩ := extract_lost _ _ (scratch' / imageName image) _ _ clear' content.symm
      rw [ran, ran']
      exact .broken _ _ _ _
  | some bytes =>
      rw [found] at content
      have ends := extract_found _ _ (scratch / imageName image) _ _ _ clear found
      have ends' := extract_found _ _ (scratch' / imageName image) _ _ _ clear' content.symm
      rcases level.write pair member plain [] with
        ⟨emptied, emptied', opening, opening', between⟩ | ⟨_, _, failed, failed'⟩
      · obtain ⟨filled, filling, ran⟩ := ends.opened opening
        obtain ⟨filled', filling', ran'⟩ := ends'.opened opening'
        rcases between.write pair member plain bytes with
          ⟨_, _, again, again', later⟩ | ⟨_, _, failed, _⟩
        · cases filling.symm.trans again
          cases filling'.symm.trans again'
          rw [ran, ran']
          exact .ended ⟨⟨_, _, _, fresh, ran, rfl⟩, ⟨_, _, _, fresh', ran', rfl⟩, later⟩
        · rw [filling] at failed
          cases failed
      · obtain ⟨_, ran⟩ := ends.unopened failed
        obtain ⟨_, ran'⟩ := ends'.unopened failed'
        rw [ran, ran']
        exact .broken _ _ _ _

theorem tree_twins (pair : Pair prior prior' scratch scratch' left right)
    (plain : PlainName (imageName image)) :
    Twins (Both (Started reader prior prior' scratch scratch' archive archive' left right image))
      (change fun files => files.makeDirectory (scratch / "smali"))
      (change fun files => files.makeDirectory (scratch' / "smali"))
      (Same (Abreast prior prior' left right image)) := by
  refine twins_change fun files files' started => ?_
  rcases started.level.makeDirectory pair (by simp [attemptNames]) smali_plain with
    ⟨after, after', done, done', level⟩ | failed
  · refine Or.inl ⟨after, after', done, done', ?_⟩
    obtain ⟨session, taken, size, fresh, ran, rfl⟩ := started.first
    obtain ⟨session', taken', size', fresh', ran', rfl⟩ := started.second
    exact ⟨(staged_ok pair.first plain _ _ _ _ _ _ fresh ran done).1,
      (staged_ok pair.second plain _ _ _ _ _ _ fresh' ran' done').1, level.same⟩
  · exact Or.inr failed

theorem twins_told {related : Files → Files → Prop} (polite : Polite setting.progress)
    (message message' : String) :
    Twins (Both related) (setting.progress message) (setting.progress message') (Same related) := by
  intro session session' before
  obtain ⟨told, ran, files, _⟩ := polite.ran message session
  obtain ⟨told', ran', files', _⟩ := polite.ran message' session'
  rw [ran, ran']
  refine .ended ⟨rfl, ?_⟩
  rw [files, files']
  exact before

theorem answered_alike {own : String → Fault} {reason : Reason} {answer answer' : Except Fault Unit}
    {result result' : Except Fault (Option Outcome)} (same : SameAnswer own answer answer')
    (distinct : ∀ text other, own text = own other → text = other)
    (answered : Answered own reason answer result)
    (answered' : Answered own reason answer' result') :
    (∃ outcome?, result = .ok outcome? ∧ result' = .ok outcome?) ∨
      ∃ fault fault', result = .error fault ∧ result' = .error fault' := by
  cases answered with
  | done =>
      have other := same.done.mp rfl
      subst other
      cases answered' with
      | done => exact Or.inl ⟨none, rfl, rfl⟩
  | refused text =>
      have other := (same.refused text).mp rfl
      subst other
      generalize spoken : (Except.error (own text) : Except Fault Unit) = spoke at answered'
      cases answered' with
      | done => cases spoken
      | refused text' =>
          injection spoken with spoken
          rw [distinct _ _ spoken]
          exact Or.inl ⟨_, rfl, rfl⟩
      | broken fault other =>
          injection spoken with spoken
          exact absurd spoken.symm (other text)
  | broken fault other =>
      cases answered' with
      | done => cases same.done.mpr rfl
      | refused text =>
          injection (same.refused text).mpr rfl with spoken
          exact absurd spoken (other text)
      | broken fault' other' => exact Or.inr ⟨fault, fault', rfl, rfl⟩

theorem Consulted.only {tool : Action Unit} {own : String → Fault} {reason : Reason} {call : Event}
    {session after calling drawn : Session} {result : Except Fault (Option Outcome)}
    {answer : Except Fault Unit} {output : Path} (only : WritesOnly tool output)
    (asked : Consulted tool own reason call session after result answer calling drawn)
    (place : Place) (within : ∀ spot, session.files.resolve output = .ok spot → place <+: spot) :
    SameOutside place session.files after.files := by
  have same := only calling place (by rw [asked.files]; exact within)
  rw [asked.run, asked.files] at same
  rw [asked.same]
  exact same

theorem unchanged_of_everywhere {before after : Files}
    (same : ∀ place, SameOutside place before after) (other : Place) :
    after.node? other = before.node? other :=
  (same (other ++ [""])).rest other (not_prefix_above other "" [])

theorem consulted_alike {tool tool' : Action Unit} {own : String → Fault} {reason : Reason}
    {call call' : Event} {session session' after after' calling calling' drawn drawn' : Session}
    {result result' : Except Fault (Option Outcome)} {answer answer' : Except Fault Unit}
    {name : String} (pair : Pair prior prior' scratch scratch' left right)
    (member : name ∈ attemptNames image) (apart : name ≠ imageName image) (plain : PlainName name)
    (abreast : Abreast prior prior' left right image session.files session'.files)
    (only : WritesOnly tool (scratch / name)) (only' : WritesOnly tool' (scratch' / name))
    (asked : Consulted tool own reason call session after result answer calling drawn)
    (asked' : Consulted tool' own reason call' session' after' result' answer' calling' drawn')
    (same : SameAnswer own answer answer')
    (distinct : ∀ text other, own text = own other → text = other)
    (wrote : Likewise drawn.files drawn'.files (scratch / name) (scratch' / name)) :
    Alike (Same (Abreast prior prior' left right image)) (result, after) (result', after') := by
  have inName := asked.only only (left ++ [name]) fun spot reached => by
    rw [abreast.first.tidy.child pair.first plain reached]
  have inName' := asked'.only only' (right ++ [name]) fun spot reached => by
    rw [abreast.second.tidy.child pair.second plain reached]
  have first := abreast.first.change pair.first member apart inName
  have second := abreast.second.change pair.second member apart inName'
  have level : SameUnder left right after.files after'.files := by
    rcases wrote.alike with ⟨spot, spot', reached, reached', shown⟩ | ⟨barred, barred'⟩
    · rw [← asked.same] at reached shown
      rw [← asked'.same] at reached' shown
      rw [first.tidy.child pair.first plain reached,
        second.tidy.child pair.second plain reached'] at shown
      exact abreast.same.change name inName inName' shown
    -- Where the path is barred now, it was barred before, and nothing has changed.
    · have still : ∀ other, after.files.node? other = session.files.node? other :=
        unchanged_of_everywhere fun place => asked.only only place fun spot reached => by
          have again := resolve_child_again session.files after.files scratch name left spot plain
            reached (first.tidy.leads pair.first) first.tidy.there
          rw [asked.same] at again
          exact absurd again (barred _)
      have still' : ∀ other, after'.files.node? other = session'.files.node? other :=
        unchanged_of_everywhere fun place => asked'.only only' place fun spot reached => by
          have again := resolve_child_again session'.files after'.files scratch' name right spot
            plain reached (second.tidy.leads pair.second) second.tidy.there
          rw [asked'.same] at again
          exact absurd again (barred' _)
      intro names
      rw [seen, seen, still, still']
      exact abreast.same names
  rcases answered_alike same distinct asked.answered asked'.answered with
    ⟨outcome?, rfl, rfl⟩ | ⟨fault, fault', rfl, rfl⟩
  · exact .ended ⟨rfl, first, second, level⟩
  · exact .broken _ _ _ _

theorem disassembled_unread (image : Apk.Image) (extracted tree : Path) (session : Session)
    (cause : Cause) (polite : Polite setting.progress)
    (unread : session.files.read extracted = .error cause) :
    ∃ after, (disassembled setting image extracted tree).perform session =
      (.error (.cause cause), after) := by
  obtain ⟨told, ran, files, _⟩ := polite.ran s!"Disassembling {image.entry}" session
  refine ⟨told, ?_⟩
  rw [disassembled, perform_bind_ok _ _ _ _ _ ran, perform_bind, perform_ask, files, unread]
  rfl

theorem disassembled_twins (pair : Pair prior prior' scratch scratch' left right)
    (plain : PlainName (imageName image)) (comparable : Comparable setting) :
    Twins (Both (Abreast prior prior' left right image))
      (disassembled setting image (scratch / imageName image) (scratch / "smali"))
      (disassembled setting image (scratch' / imageName image) (scratch' / "smali"))
      (Same (Abreast prior prior' left right image)) := by
  intro session session' abreast
  rcases (abreast.level.child pair _ plain).read abreast.same with
    ⟨content, read, read'⟩ | ⟨cause, cause', unread, unread'⟩
  · rcases ran : (disassembled setting image (scratch / imageName image)
      (scratch / "smali")).perform session with ⟨result, after⟩
    rcases ran' : (disassembled setting image (scratch' / imageName image)
      (scratch' / "smali")).perform session' with ⟨result', after'⟩
    obtain ⟨answer, calling, drawn, asked⟩ := disassembled_consulted image _ _ content session after
      result comparable.polite read ran
    obtain ⟨answer', calling', drawn', asked'⟩ := disassembled_consulted image _ _ content session'
      after' result' comparable.polite read' ran'
    have tree := abreast.level.likewise pair "smali" smali_plain
    have original := abreast.level.likewise pair _ plain
    rw [← asked.files, ← asked'.files] at tree original
    obtain ⟨same, drew⟩ := comparable.functional.disassemble _ _ _ _ _ _ original tree
    rw [asked.run, asked'.run] at same drew
    exact consulted_alike pair (by simp [attemptNames]) abreast.first.apart.symm smali_plain abreast
      (comparable.confined.disassemble _ _) (comparable.confined.disassemble _ _) asked asked' same
      (fun _ _ => Fault.disassembly.inj) drew
  · obtain ⟨after, ran⟩ := disassembled_unread image _ (scratch / "smali") session cause
      comparable.polite unread
    obtain ⟨after', ran'⟩ := disassembled_unread image _ (scratch' / "smali") session'
      cause' comparable.polite unread'
    rw [ran, ran']
    exact .broken _ _ _ _

theorem reassembled_twins (pair : Pair prior prior' scratch scratch' left right)
    (plain : PlainName (imageName image)) (comparable : Comparable setting) :
    Twins (Both (Abreast prior prior' left right image))
      (reassembled setting image (scratch / "smali") (scratch / ("modified_" ++ imageName image)))
      (reassembled setting image (scratch' / "smali") (scratch' / ("modified_" ++ imageName image)))
      (Same (Abreast prior prior' left right image)) := by
  intro session session' abreast
  rcases ran : (reassembled setting image (scratch / "smali")
    (scratch / ("modified_" ++ imageName image))).perform session with ⟨result, after⟩
  rcases ran' : (reassembled setting image (scratch' / "smali")
    (scratch' / ("modified_" ++ imageName image))).perform session' with ⟨result', after'⟩
  obtain ⟨answer, calling, made, asked⟩ := reassembled_consulted image _ _ session after result
    comparable.polite ran
  obtain ⟨answer', calling', made', asked'⟩ := reassembled_consulted image _ _ session' after'
    result' comparable.polite ran'
  have tree := abreast.level.likewise pair "smali" smali_plain
  have rebuilt := abreast.level.likewise pair _ (modified_plain plain)
  rw [← asked.files, ← asked'.files] at tree rebuilt
  obtain ⟨same, wrote⟩ := comparable.functional.assemble _ _ _ _ _ _ tree rebuilt
  rw [asked.run, asked'.run] at same wrote
  exact consulted_alike pair (by simp [attemptNames]) (modified_apart _) (modified_plain plain)
    abreast (comparable.confined.assemble _ _) (comparable.confined.assemble _ _) asked asked' same
    (fun _ _ => Fault.assembly.inj) wrote

end

end DexGraft.Search
