import DexGraft.Proofs.Search.Yard

/-!
Attempts that know nothing of each other. What is to be seen of an attempt in a row is what
is to be seen of it in any other place where images can be tried, an empty one among them;
so whether an image is the one to patch is settled by the image alone.
-/
namespace DexGraft.Search

open Files DexGraft.Action

def standing (files : Files) (path : Path) (names : List String) : Option (Option Bytes) :=
  (files.resolve path).toOption.bind fun place => files.seen (place ++ names)

/-- What is to be seen of an attempt: that it broke, why it failed, or what stands then where it
promoted its image. -/
inductive Sight
  | broken
  | failed (image : Apk.Image) (reason : Reason) (detail : String)
  | patched (image : Apk.Image) (stands : List String → Option (Option Bytes))

def sight : Except Fault Attempt × Session → Sight
  | (.error _, _) => .broken
  | (.ok ⟨image, .failed reason detail⟩, _) => .failed image reason detail
  | (.ok ⟨image, .promoted path⟩, after) => .patched image (standing after.files path)

theorem sight_broken (fault : Fault) (after : Session) :
    sight (.error fault, after) = .broken := rfl

theorem sight_failed (image : Apk.Image) (reason : Reason) (detail : String) (after : Session) :
    sight (.ok ⟨image, .failed reason detail⟩, after) = .failed image reason detail := rfl

theorem sight_promoted (image : Apk.Image) (path : Path) (after : Session) :
    sight (.ok ⟨image, .promoted path⟩, after) = .patched image (standing after.files path) := rfl

namespace Sight

def isFailure : Sight → Bool
  | failed _ _ _ => true
  | _ => false

def isPatched : Sight → Bool
  | patched _ _ => true
  | _ => false

def throughBroken : List Sight → List Sight
  | [] => []
  | broken :: _ => [broken]
  | failed image reason detail :: rest => failed image reason detail :: throughBroken rest
  | patched image stands :: rest => patched image stands :: throughBroken rest

theorem find_patched (shown : Apk.Image → Sight) (image : Apk.Image) (rest : List Apk.Image)
    (won : (shown image).isPatched = true) :
    (image :: rest).find? (fun image => !(shown image).isFailure) = some image := by
  refine List.find?_cons_of_pos ?_
  cases seen : shown image with
  | patched => rfl
  | broken | failed =>
      rw [seen] at won
      cases won

theorem throughBroken_patched (shown : Apk.Image → Sight) (image : Apk.Image)
    (won : (shown image).isPatched = true) :
    throughBroken ([image, image].map shown) = [shown image, shown image] := by
  cases seen : shown image with
  | patched => simp [seen, throughBroken]
  | broken | failed =>
      rw [seen] at won
      cases won

end Sight

def Row.sights : Row → List Sight
  | .finished _ => []
  | .broken fault session => [sight (.error fault, session)]
  | .attempted attempt session rest => sight (.ok attempt, session) :: (rest ()).sights

section

variable {setting : Setting} {images images' : List Apk.Image} {root root' : Place}
  {workRoot workRoot' archive archive' : Path} {file file' : Bytes} {image : Apk.Image}
  {session session' : Session}

theorem contentFor_of_read {files files' : Files} (reader : Zip.Reader) (name : String)
    (read : files.read archive = .ok file) (read' : files'.read archive' = .ok file')
    (same : ∀ content, Apk.contentIn reader file file name = .ok (some content) ↔
      Apk.contentIn reader file' file' name = .ok (some content)) :
    contentFor reader files archive name = contentFor reader files' archive' name := by
  refine Option.ext fun content => ?_
  simp only [contentFor_some, read, read', Except.ok.injEq, exists_eq_left', same]

theorem sameEnd_sight {result result' : Except Fault Attempt × Session}
    (alike : Alike (SameEnd image) result result') : sight result = sight result' := by
  cases alike with
  | ended ends =>
      cases ends with
      | failed => rfl
      | promoted path path' goal goal' after after' leads leads' same =>
          rw [sight_promoted, sight_promoted, Sight.patched.injEq]
          refine ⟨rfl, funext fun names => ?_⟩
          simp only [standing, leads, leads', Except.toOption, Option.bind_some, same names]
  | broken => rfl

theorem closed_twins (polite : Polite setting.progress) (scratch scratch' : Path)
    (message : Reason → String) (result result' : Attempt) :
    Twins (SameEnd image result result')
      (do
        if let some reason := result.reason? then
          Action.clearTree scratch
          setting.progress (message reason)
        return result)
      (do
        if let some reason := result'.reason? then
          Action.clearTree scratch'
          setting.progress (message reason)
        return result')
      (SameEnd image) := by
  intro session session' ends
  cases ends with
  | failed reason detail =>
      obtain ⟨told, ran, _⟩ := polite.ran (message reason) (swept scratch session)
      obtain ⟨told', ran', _⟩ := polite.ran (message reason) (swept scratch' session')
      simp only [swept] at ran ran'
      simp only [Attempt.reason?, perform_bind, perform_clearTree, ran, ran', perform_pure]
      exact .ended (.failed reason detail told told')
  | promoted path path' goal goal' after after' leads leads' same =>
      exact .ended (.promoted path path' goal goal' session session' leads leads' same)

theorem freshScratch_paired (yard : Yard images workRoot archive root file session.files)
    (yard' : Yard images' workRoot' archive' root' file' session'.files) (member : image ∈ images)
    (member' : image ∈ images')
    (size : (scratchOf workRoot image).text.utf8ByteSize =
      (scratchOf workRoot' image).text.utf8ByteSize) :
    (∃ prior prior', Pair prior prior' (scratchOf workRoot image) (scratchOf workRoot' image)
        (root ++ [attemptName image]) (root' ++ [attemptName image]) ∧
        SameOutside (root ++ [attemptName image]) session.files prior ∧
        SameOutside (root' ++ [attemptName image]) session'.files prior' ∧
        (freshScratch (scratchOf workRoot image)).perform session =
          (.ok (), { session with files := prior.put (root ++ [attemptName image]) .directory }) ∧
        (freshScratch (scratchOf workRoot' image)).perform session' = (.ok (),
          { session' with files := prior'.put (root' ++ [attemptName image]) .directory })) ∨
      ∃ fault fault', (freshScratch (scratchOf workRoot image)).perform session =
          (.error fault, session) ∧
        (freshScratch (scratchOf workRoot' image)).perform session' = (.error fault', session') := by
  have plain := attemptName_plain image
  have sayable := resolves_alike session.files session'.files workRoot workRoot'
    (attemptName image) root root' plain yard.resolved yard.there yard'.resolved yard'.there size
  rcases yard.freshScratch member with ⟨prior, reached, new, same, ran⟩ | ⟨barred, fault, ran⟩
  · rcases yard'.freshScratch member' with ⟨prior', _, new', same', ran'⟩ | ⟨barred', _, _⟩
    · exact Or.inl ⟨prior, prior', ⟨new, new', new.filled, new'.filled, size⟩, same, same', ran,
        ran'⟩
    · obtain ⟨place, reached'⟩ := sayable.mp ⟨_, reached⟩
      exact absurd reached' (barred' place)
  · rcases yard'.freshScratch member' with ⟨_, reached', _⟩ | ⟨_, fault', ran'⟩
    · obtain ⟨place, reached⟩ := sayable.mpr ⟨_, reached'⟩
      exact absurd reached (barred place)
    · exact Or.inr ⟨fault, fault', ran, ran'⟩

/-- An image that is tried in two places is seen to end in the same way, if the archives there have
the same content for it. -/
theorem tryImage_twins (yard : Yard images workRoot archive root file session.files)
    (yard' : Yard images' workRoot' archive' root' file' session'.files) (member : image ∈ images)
    (member' : image ∈ images') (comparable : Comparable setting)
    (contents : ∀ content,
      Apk.contentIn setting.reader file file image.entry = .ok (some content) ↔
        Apk.contentIn setting.reader file' file' image.entry = .ok (some content))
    (size : (scratchOf workRoot image).text.utf8ByteSize =
      (scratchOf workRoot' image).text.utf8ByteSize) :
    Alike (SameEnd image) ((tryImage setting archive workRoot image).perform session)
      ((tryImage setting archive' workRoot' image).perform session') := by
  rcases freshScratch_paired yard yard' member member' size with
    ⟨prior, prior', pair, same, same', ran, ran'⟩ | ⟨fault, fault', ran, ran'⟩
  · have beside : Aside root images session.files
        (prior.put (root ++ [attemptName image]) .directory) :=
      aside_of member (same.trans (sameOutside_put _ _ _ pair.first.named))
    have beside' :
        Aside root' images' session'.files (prior'.put (root' ++ [attemptName image]) .directory) :=
      aside_of member' (same'.trans (sameOutside_put _ _ _ pair.second.named))
    have begun : Begun setting.reader prior prior' (scratchOf workRoot image)
        (scratchOf workRoot' image) archive archive' (root ++ [attemptName image])
        (root' ++ [attemptName image]) image
        (prior.put (root ++ [attemptName image]) .directory)
        (prior'.put (root' ++ [attemptName image]) .directory) :=
      ⟨rfl, rfl, contentFor_of_read setting.reader image.entry (yard.archive _ beside)
        (yard'.archive _ beside') contents, yard.clear member pair.first beside,
        yard'.clear member' pair.second beside'⟩
    have breaks : ∀ (scratch : Path) (fault : Fault) (session : Session), ∃ again after,
        (do Action.clearTree scratch; throw fault : Action Attempt).perform session =
          (.error again, after) := by
      intro scratch fault session
      rw [perform_bind, perform_clearTree]
      exact ⟨_, _, rfl⟩
    rw [tryImage, tryImage, perform_bind_ok _ _ _ _ _ ran, perform_bind_ok _ _ _ _ _ ran']
    refine twins_next (twins_told comparable.polite _ _) (fun _ => ?_) _ _ begun
    exact twins_bind (twins_guarded (attempt_twins pair comparable) (breaks _) (breaks _))
      fun result result' => closed_twins comparable.polite _ _ _ result result'
  · rw [tryImage, tryImage, perform_bind, perform_bind, ran, ran']
    exact .broken _ _ _ _

/-- What is to be seen of the attempts of a row is what is to be seen of each of them elsewhere. -/
theorem row_sights (yard : Yard images workRoot archive root file session.files)
    (alone : Yard images workRoot' archive' root' file session'.files)
    (comparable : Comparable setting) (standing : Standing setting.toolbox)
    (sizes : ∀ image ∈ images, (scratchOf workRoot image).text.utf8ByteSize =
      (scratchOf workRoot' image).text.utf8ByteSize)
    (left : List Apk.Image) (within : ∀ image ∈ left, image ∈ images) :
    (row setting archive workRoot session left).sights = Sight.throughBroken
      (left.map fun image => sight ((tryImage setting archive' workRoot' image).perform session')) := by
  induction left generalizing session with
  | nil => rfl
  | cons image rest ih =>
      have member := within image List.mem_cons_self
      have same := sameEnd_sight
        (tryImage_twins yard alone member member comparable (fun _ => Iff.rfl) (sizes image member))
      rw [row_cons, List.map_cons, ← same]
      rcases tried : (tryImage setting archive workRoot image).perform session with
        ⟨fault | attempt, after⟩
      · rfl
      · have later := ih (yard.tried member comparable standing attempt tried)
          fun other among => within other (List.mem_cons_of_mem _ among)
        obtain ⟨subject, outcome⟩ := attempt
        cases outcome <;>
          simp only [Row.sights, sight_failed, sight_promoted, Sight.throughBroken, later]

theorem search_wins (yard : Yard images workRoot archive root file session.files)
    (alone : Yard images workRoot' archive' root' file session'.files)
    (comparable : Comparable setting) (standing : Standing setting.toolbox)
    (sizes : ∀ image ∈ images, (scratchOf workRoot image).text.utf8ByteSize =
      (scratchOf workRoot' image).text.utf8ByteSize)
    (left : List Apk.Image) (within : ∀ image ∈ left, image ∈ images) (image : Apk.Image) :
    (∃ attempt, (row setting archive workRoot session left).search.winner = .ok (some attempt) ∧
        attempt.image = image) ↔
      left.find? (fun image => !(sight ((tryImage setting archive' workRoot' image).perform
          session')).isFailure) = some image ∧
        (sight ((tryImage setting archive' workRoot' image).perform session')).isPatched = true := by
  induction left generalizing session with
  | nil => simp [row_nil, Row.search]
  | cons first rest ih =>
      have member := within first List.mem_cons_self
      have alike := tryImage_twins yard alone member member comparable (fun _ => Iff.rfl)
        (sizes first member)
      have same := sameEnd_sight alike
      rw [row_cons, List.find?_cons, ← same]
      rcases tried : (tryImage setting archive workRoot first).perform session with
        ⟨fault | attempt, after⟩
      · rw [tried] at same
        simp only [Row.search, sight_broken, Sight.isFailure, Bool.not_false, Option.some.injEq]
        constructor
        · rintro ⟨_, broken, _⟩
          cases broken
        · rintro ⟨rfl, won⟩
          rw [← same] at won
          cases won
      · rw [tried] at alike same
        have later := ih (yard.tried member comparable standing attempt tried)
          fun other among => within other (List.mem_cons_of_mem _ among)
        generalize (tryImage setting archive' workRoot' first).perform session' = other at alike
        cases alike with
        | ended ends =>
            cases ends with
            | failed reason detail =>
                simpa only [Row.search, Attempt.isPatched, Bool.false_eq_true, if_false, sight_failed,
                  Sight.isFailure, Bool.not_true] using later
            | promoted path path' goal goal' after after' leads leads' stands =>
                simp only [Row.search, Attempt.isPatched, if_true, Except.ok.injEq, Option.some.injEq,
                  exists_eq_left', sight_promoted, Sight.isFailure, Bool.not_false]
                constructor
                · rintro rfl
                  exact ⟨rfl, by rw [← same]; rfl⟩
                · exact And.left

/-- Attempts are isolated from each other: what is to be seen of each attempt in a row, whatever
directories were left there before, is what is to be seen of it on its own in another work root, an
empty one among them; and the winner is the first image whose attempt does not fail there, if it is
patched there. -/
theorem row_isolated (images : List Apk.Image) (session alone : Session)
    (yard : Yard images workRoot archive root file session.files)
    (elsewhere : Yard images workRoot' archive' root' file alone.files)
    (comparable : Comparable setting) (standing : Standing setting.toolbox)
    (sizes : ∀ image ∈ images, (scratchOf workRoot image).text.utf8ByteSize =
      (scratchOf workRoot' image).text.utf8ByteSize) :
    let shown := fun image => sight ((tryImage setting archive' workRoot' image).perform alone)
    let found := row setting archive workRoot session images
    found.sights = Sight.throughBroken (images.map shown) ∧
      ∀ image, (∃ attempt, found.search.winner = .ok (some attempt) ∧ attempt.image = image) ↔
        images.find? (fun image => !(shown image).isFailure) = some image ∧
          (shown image).isPatched = true := by
  intro shown found
  exact ⟨row_sights yard elsewhere comparable standing sizes images fun _ member => member,
    search_wins yard elsewhere comparable standing sizes images fun _ member => member⟩

end

theorem plainTools_standing : Standing plainTools where
  disassemble image tree session _ sound := by
    have keeps : Keeps (fun session => session.files.Sound) (fun _ => True)
        (plainTools.disassemble image tree) :=
      keeps_bind (keeps_ask fun _ => trivial) fun _ => keeps_bind (keeps_ask fun _ => trivial)
        fun _ => keeps_change (fun _ => trivial) fun _ _ sound written =>
          sound.write _ _ (child_filled tree "A.smali" plainClass_plain) written
    exact keeps.session session sound
  assemble tree image session filled sound := by
    have keeps : Keeps (fun session => session.files.Sound) (fun _ => True)
        (plainTools.assemble tree image) :=
      keeps_bind (keeps_ask fun _ => trivial) fun _ => keeps_change (fun _ => trivial)
        fun _ _ sound written => sound.write _ _ filled written
    exact keeps.session session sound

theorem givenPipeline_comparable : Comparable givenPipeline.setting where
  disk := rfl
  polite := ⟨fun _ _ => rfl, fun _ _ => rfl, fun _ _ => rfl⟩
  confined := plainTools_confined
  functional := plainTools_functional
  target := leadsInto_of_down _ ["A.smali"] (by decide +kernel) (by decide) (by decide)

def staleSession : Session :=
  { givenSession with
    files := (givenSession.files.put ["tmp", "dex_attempt_classes"] .directory).put
      ["tmp", "dex_attempt_classes", "classes.dex"] (.file [1] newFileMode) }

theorem staleSession_sound : staleSession.files.Sound := by
  have made := givenSession_sound.put_directory ["tmp"] "dex_attempt_classes" rfl
  refine made.put_file ["tmp", "dex_attempt_classes", "classes.dex"] [1] newFileMode
    (by decide +kernel) fun parent name child => ?_
  obtain ⟨rfl, _⟩ := List.append_inj'
    (show ["tmp", "dex_attempt_classes"] ++ ["classes.dex"] = parent ++ [name] from child) rfl
  rfl

theorem givenYard (images : List Apk.Image) (only : ∀ image ∈ images, image = ⟨"classes.dex", 1⟩)
    (files : Files) (sound : files.Sound) (there : files.node? ["tmp"] = some .directory)
    (reached : files.resolve ⟨1, ["tmp"]⟩ = .ok ["tmp"])
    (leads : files.resolve ⟨0, ["in.apk"]⟩ = .ok ["in.apk"])
    (content : files.node? ["in.apk"] = some (.file givenArchive newFileMode))
    (stale : ∀ content mode,
      files.node? ["tmp", "dex_attempt_classes"] ≠ some (.file content mode)) :
    Yard images ⟨1, ["tmp"]⟩ ⟨0, ["in.apk"]⟩ ["tmp"] givenArchive files := by
  refine yard_down sound (by decide) reached there (by decide) _ _ leads content ?_ ?_
  · intro other _ under
    simp at under
  · intro other member content mode
    have named : attemptName ⟨"classes.dex", 1⟩ = "dex_attempt_classes" := by decide +kernel
    rw [only other member, named]
    exact stale content mode

theorem givenSession_yard (images : List Apk.Image)
    (only : ∀ image ∈ images, image = ⟨"classes.dex", 1⟩) :
    Yard images ⟨1, ["tmp"]⟩ ⟨0, ["in.apk"]⟩ ["tmp"] givenArchive givenSession.files := by
  have free : givenSession.files.node? ["tmp", "dex_attempt_classes"] = none := rfl
  exact givenYard images only _ givenSession_sound rfl rfl rfl rfl (by simp [free])

theorem row_isolated_stale :
    let image : Apk.Image := ⟨"classes.dex", 1⟩
    let shown := fun image => sight ((tryImage givenPipeline.setting ⟨0, ["in.apk"]⟩
      ⟨1, ["tmp"]⟩ image).perform givenSession)
    let found := row givenPipeline.setting ⟨0, ["in.apk"]⟩ ⟨1, ["tmp"]⟩ staleSession [image, image]
    Yard [image, image] ⟨1, ["tmp"]⟩ ⟨0, ["in.apk"]⟩ ["tmp"] givenArchive staleSession.files ∧
      Yard [image, image] ⟨1, ["tmp"]⟩ ⟨0, ["in.apk"]⟩ ["tmp"] givenArchive givenSession.files ∧
      Comparable givenPipeline.setting ∧ Standing givenPipeline.setting.toolbox ∧
      found.sights = [shown image, shown image] ∧
      ∃ attempt, found.search.winner = .ok (some attempt) ∧ attempt.image = image := by
  intro image shown found
  have only : ∀ other ∈ [image, image], other = image := by simp
  have left : staleSession.files.node? ["tmp", "dex_attempt_classes"] = some .directory := rfl
  have crowded := givenYard _ only staleSession.files staleSession_sound rfl rfl rfl rfl
    (by simp [left])
  have empty := givenSession_yard _ only
  obtain ⟨sights, winner⟩ := row_isolated [image, image] staleSession givenSession crowded empty
    givenPipeline_comparable plainTools_standing fun _ _ => rfl
  have works : (shown image).isPatched = true := by decide +kernel
  refine ⟨crowded, empty, givenPipeline_comparable, plainTools_standing, ?_,
    (winner image).mpr ⟨Sight.find_patched shown image [image] works, works⟩⟩
  rw [sights]
  exact Sight.throughBroken_patched shown image works

def roundabout : Nat → Path
  | 0 => ⟨1, ["tmp"]⟩
  | rounds + 1 => beyond (roundabout rounds) ["..", "tmp"]

theorem roundabout_text (rounds : Nat) : (roundabout rounds).parts ≠ [] ∧
    (roundabout rounds).text.toList.any (·.toNat == 0) = false ∧
    (roundabout rounds).text.utf8ByteSize = 4 + 7 * rounds := by
  induction rounds with
  | zero => decide
  | succ rounds ih =>
      obtain ⟨filled, nulFree, size⟩ := ih
      refine ⟨by simp [roundabout, beyond], ?_, ?_⟩
      · rw [roundabout, beyond_text _ _ filled (List.cons_ne_nil _ _)]
        simp [nulFree]
      · rw [roundabout, beyond_text _ _ filled (List.cons_ne_nil _ _), String.utf8ByteSize_append,
          String.utf8ByteSize_append, size]
        have round : "/".utf8ByteSize + ("/".intercalate ["..", "tmp"]).utf8ByteSize = 7 := by decide
        omega

theorem roundabout_leads (rounds : Nat) (files : Files)
    (there : files.node? ["tmp"] = some .directory) (short : 4 + 7 * rounds < pathLimit) :
    files.resolve (roundabout rounds) = .ok ["tmp"] := by
  have walked : ∀ rounds, files.walk [] (roundabout rounds).parts = .ok ["tmp"] := by
    intro rounds
    induction rounds with
    | zero => rfl
    | succ rounds ih =>
        rw [roundabout, beyond, walk_onto _ _ _ _ _ ih]
        simp only [walk, there]
        rfl
  have absolute : ∀ rounds, files.start (roundabout rounds) = [] := by
    intro rounds
    induction rounds with
    | zero => rfl
    | succ rounds ih => exact ih
  obtain ⟨_, nulFree, size⟩ := roundabout_text rounds
  exact (resolve_eq_ok ..).mpr ⟨⟨nulFree, size ▸ short⟩, absolute rounds ▸ walked rounds⟩

theorem roundabout_yard (rounds : Nat) (short : 4 + 7 * rounds < pathLimit)
    (images : List Apk.Image) (only : ∀ image ∈ images, image = ⟨"classes.dex", 1⟩) :
    Yard images (roundabout rounds) ⟨0, ["in.apk"]⟩ ["tmp"] givenArchive givenSession.files := by
  have yard := givenSession_yard images only
  refine ⟨yard.sound, yard.there, fun after aside => roundabout_leads rounds after ?_ short,
    yard.archive, yard.stale⟩
  rw [aside.rest _ fun _ _ => not_prefix_above ["tmp"] _ [], yard.there]

theorem roundabout_breaks (rounds : Nat) (short : 4 + 7 * rounds < pathLimit)
    (long : pathLimit ≤ 20 + 7 * rounds) :
    ∃ fault, (tryImage givenPipeline.setting ⟨0, ["in.apk"]⟩ (roundabout rounds)
      ⟨"classes.dex", 1⟩).perform givenSession = (.error fault, givenSession) := by
  obtain ⟨filled, _, size⟩ := roundabout_text rounds
  rcases (roundabout_yard rounds short [⟨"classes.dex", 1⟩] (by simp)).freshScratch
    List.mem_cons_self with ⟨_, reached, _⟩ | ⟨_, fault, ran⟩
  · obtain ⟨⟨_, room⟩, _⟩ := (resolve_eq_ok ..).mp reached
    change (roundabout rounds / attemptName ⟨"classes.dex", 1⟩).text.utf8ByteSize < pathLimit at room
    have named : 18 < (attemptName ⟨"classes.dex", 1⟩).utf8ByteSize := by decide +kernel
    rw [child_size _ _ (attemptName_plain _) filled, size] at room
    omega
  · exact ⟨fault, by rw [tryImage, perform_bind, ran]⟩

/-- A work root whose path is so long that no directory in it can be named lets an attempt break
that would patch its image elsewhere. -/
theorem row_broken_roundabout :
    let image : Apk.Image := ⟨"classes.dex", 1⟩
    let shown := sight ((tryImage givenPipeline.setting ⟨0, ["in.apk"]⟩ ⟨1, ["tmp"]⟩ image).perform
      givenSession)
    let found := row givenPipeline.setting ⟨0, ["in.apk"]⟩ (roundabout 583) givenSession [image]
    Yard [image] (roundabout 583) ⟨0, ["in.apk"]⟩ ["tmp"] givenArchive givenSession.files ∧
      Yard [image] ⟨1, ["tmp"]⟩ ⟨0, ["in.apk"]⟩ ["tmp"] givenArchive givenSession.files ∧
      Comparable givenPipeline.setting ∧ Standing givenPipeline.setting.toolbox ∧
      shown.isPatched = true ∧ found.sights = [.broken] := by
  intro image shown found
  obtain ⟨fault, tried⟩ := roundabout_breaks 583 (by decide) (by decide)
  have only : ∀ other ∈ [image], other = image := by simp
  refine ⟨roundabout_yard 583 (by decide) _ only, givenSession_yard _ only, givenPipeline_comparable,
    plainTools_standing, by decide +kernel, ?_⟩
  rw [show found.sights = _ from congrArg Row.sights (row_cons ..), tried]
  rfl

end DexGraft.Search
