import DexGraft.Proofs.Files.Standing
import DexGraft.Proofs.Search.Parallel

/-!
Where a row of attempts works. Directories may have stayed there from before; each attempt
begins in a fresh one of its own, and leaves the others as they are.
-/
namespace DexGraft.Search

open Files DexGraft.Action

/-- Nothing has changed but in the directories of these images. -/
structure Aside (root : Place) (images : List Apk.Image) (before after : Files) : Prop where
  here : after.here = before.here
  rest : ∀ other, (∀ image ∈ images, ¬root ++ [attemptName image] <+: other) →
    after.node? other = before.node? other

/-- Images can be tried in the work root: it is a directory, no file is in the place of an image's
directory, and the paths to the work root and to the archive do not depend on what these directories
hold. -/
structure Yard (images : List Apk.Image) (workRoot archive : Path) (root : Place) (file : Bytes)
    (files : Files) : Prop where
  sound : files.Sound
  there : files.node? root = some .directory
  leads : ∀ after, Aside root images files after → after.resolve workRoot = .ok root
  archive : ∀ after, Aside root images files after → after.read archive = .ok file
  stale : ∀ image ∈ images, ∀ content mode,
    files.node? (root ++ [attemptName image]) ≠ some (.file content mode)

structure Standing (toolbox : Toolbox) : Prop where
  disassemble : ∀ image tree session, tree.parts ≠ [] → session.files.Sound →
    ((toolbox.disassemble image tree).perform session).2.files.Sound
  assemble : ∀ tree image session, image.parts ≠ [] → session.files.Sound →
    ((toolbox.assemble tree image).perform session).2.files.Sound

/-- The attempt's directory is tidy, and all outside is as it was at the start. -/
structure Fenced (prior : Files) (place : Place) (own : List String) (start files : Files) : Prop
    where
  tidy : Tidy prior place own files
  outside : SameOutside place start files

section

variable {images : List Apk.Image} {root : Place} {before middle after files : Files}
  {workRoot archive : Path} {file : Bytes} {image : Apk.Image} {session : Session}

theorem Aside.refl (root : Place) (images : List Apk.Image) (files : Files) :
    Aside root images files files :=
  ⟨rfl, fun _ _ => rfl⟩

theorem Aside.trans (front : Aside root images before middle)
    (back : Aside root images middle after) : Aside root images before after :=
  ⟨back.here.trans front.here, fun other apart =>
    (back.rest other apart).trans (front.rest other apart)⟩

theorem aside_of (member : image ∈ images)
    (same : SameOutside (root ++ [attemptName image]) before after) :
    Aside root images before after :=
  ⟨same.here, fun other apart => same.rest other (apart image member)⟩

theorem Yard.resolved (yard : Yard images workRoot archive root file files) :
    files.resolve workRoot = .ok root :=
  yard.leads files (Aside.refl root images files)

theorem walk_same (place : Place) (names : List String) (down : ".." ∉ names)
    (same : ∀ other, other <+: place ++ names → after.node? other = files.node? other) :
    after.walk place names = files.walk place names := by
  induction names generalizing place with
  | nil => rfl
  | cons name rest ih =>
      obtain ⟨here, later⟩ := List.ne_and_not_mem_of_not_mem_cons down
      have onward := ih (place ++ [name]) later fun other covers => same other (by simpa using covers)
      rw [walk, walk, same place (List.prefix_append _ _)]
      simp only [if_neg here.symm, onward]

/-- A path without ways up that ends beside the images' directories does not depend on them. -/
theorem resolve_aside (aside : Aside root images files after) (path : Path) (spot : Place)
    (down : ".." ∉ path.parts) (reached : files.resolve path = .ok spot)
    (apart : ∀ image ∈ images, ¬root ++ [attemptName image] <+: spot) :
    after.resolve path = .ok spot := by
  obtain ⟨sayable, walked⟩ := (resolve_eq_ok ..).mp reached
  have start : after.start path = files.start path := by simp [start, aside.here]
  obtain rfl := walk_down _ _ _ _ down walked
  refine (resolve_eq_ok ..).mpr ⟨sayable, ?_⟩
  rw [start, walk_same _ _ down, walked]
  exact fun other covers => aside.rest other fun image member under =>
    apart image member (under.trans covers)

theorem yard_down (sound : files.Sound) (rootDown : ".." ∉ workRoot.parts)
    (reached : files.resolve workRoot = .ok root) (there : files.node? root = some .directory)
    (archiveDown : ".." ∉ archive.parts) (spot : Place) (mode : Nat)
    (leads : files.resolve archive = .ok spot)
    (content : files.node? spot = some (.file file mode))
    (apart : ∀ image ∈ images, ¬root ++ [attemptName image] <+: spot)
    (stale : ∀ image ∈ images, ∀ content mode,
      files.node? (root ++ [attemptName image]) ≠ some (.file content mode)) :
    Yard images workRoot archive root file files where
  sound := sound
  there := there
  leads _ aside := resolve_aside aside workRoot root rootDown reached fun _ _ =>
    not_prefix_above root _ []
  archive _ aside := (read_eq_ok ..).mpr
    ⟨spot, mode, resolve_aside aside archive spot archiveDown leads apart,
      (aside.rest spot apart).trans content⟩
  stale := stale

theorem Yard.step (yard : Yard images workRoot archive root file files) (member : image ∈ images)
    (same : SameOutside (root ++ [attemptName image]) files after) (sound : after.Sound)
    (open_ : ∀ content mode,
      after.node? (root ++ [attemptName image]) ≠ some (.file content mode)) :
    Yard images workRoot archive root file after where
  sound := sound
  there := by rw [same.rest _ (not_prefix_above root _ []), yard.there]
  leads later aside := yard.leads later ((aside_of member same).trans aside)
  archive later aside := yard.archive later ((aside_of member same).trans aside)
  stale other among content mode := by
    by_cases one : attemptName other = attemptName image
    · rw [one]
      exact open_ content mode
    · rw [same.rest _ (beside_names (Ne.symm one) [])]
      exact yard.stale other among content mode

theorem freshScratch_made (scratch : Path) (prior made : Files)
    (cleared : session.files.exists? scratch = .ok false ∧ prior = session.files ∨
      session.files.exists? scratch = .ok true ∧ session.files.removeTree scratch = .ok prior)
    (making : prior.makeDirectories scratch = .ok made) :
    (freshScratch scratch).perform session = (.ok (), { session with files := made }) := by
  have asked : ∀ there, session.files.exists? scratch = .ok there →
      (ask fun files => files.exists? scratch).perform session = (.ok there, session) := by
    intro there found
    rw [perform_ask, found]
    rfl
  rcases cleared with ⟨nothing, rfl⟩ | ⟨there, removed⟩
  · rw [freshScratch, perform_bind_ok _ _ _ _ _ (asked false nothing)]
    simp [perform_rewording, perform_change, making]
  · rw [freshScratch, perform_bind_ok _ _ _ _ _ (asked true there)]
    simp [Action.removeTree, perform_bind, perform_rewording, perform_change, removed, making]

theorem freshScratch_barred (scratch : Path)
    (open_ : session.files.exists? scratch ≠ .ok true)
    (unmade : ∀ made, session.files.makeDirectories scratch ≠ .ok made) :
    ∃ fault, (freshScratch scratch).perform session = (.error fault, session) := by
  rw [freshScratch, perform_bind, perform_ask]
  cases asked : session.files.exists? scratch with
  | error cause => exact ⟨_, rfl⟩
  | ok there =>
      cases there with
      | true => exact absurd asked open_
      | false =>
          cases making : session.files.makeDirectories scratch with
          | ok made => exact absurd making (unmade made)
          | error cause =>
              simp only [Except.mapError, Bool.false_eq_true, if_false, perform_rewording,
                perform_change, making]
              exact ⟨_, rfl⟩

theorem scratchOf_filled (workRoot : Path) (image : Apk.Image) :
    (scratchOf workRoot image).parts ≠ [] := by
  rw [scratchOf, ← attemptName, child_eq _ _ (attemptName_plain image)]
  simp

theorem Yard.makes {prior : Files} {place : Place}
    (yard : Yard images workRoot archive root file files) (member : image ∈ images)
    (reached : files.resolve (scratchOf workRoot image) = .ok place) (sound : prior.Sound)
    (same : SameOutside (root ++ [attemptName image]) files prior)
    (free : prior.node? (root ++ [attemptName image]) = none) :
    NewPlace prior (scratchOf workRoot image) (root ++ [attemptName image]) ∧
      prior.makeDirectories (scratchOf workRoot image) =
        .ok (prior.put (root ++ [attemptName image]) .directory) := by
  have plain := attemptName_plain image
  have leads := yard.leads prior (aside_of member same)
  have there : prior.node? root = some .directory := by
    rw [same.rest _ (not_prefix_above root _ []), yard.there]
  have again : prior.resolve (scratchOf workRoot image) = .ok (root ++ [attemptName image]) :=
    resolve_child_again files prior workRoot (attemptName image) root place plain reached leads there
  exact ⟨⟨sound, scratchOf_filled workRoot image, again, free⟩,
    makeDirectories_done prior workRoot (attemptName image) root plain leads there again free⟩

theorem Yard.unmade {made : Files} (yard : Yard images workRoot archive root file files)
    (barred : ∀ place, files.resolve (scratchOf workRoot image) ≠ .ok place) :
    files.makeDirectories (scratchOf workRoot image) ≠ .ok made := by
  intro making
  have leads := (makeDirectories_child _ _ workRoot _ root (attemptName_plain image) yard.resolved
    yard.there making).1
  exact barred _ leads

theorem Yard.freshScratch (yard : Yard images workRoot archive root file session.files)
    (member : image ∈ images) :
    (∃ prior, session.files.resolve (scratchOf workRoot image) = .ok (root ++ [attemptName image]) ∧
        NewPlace prior (scratchOf workRoot image) (root ++ [attemptName image]) ∧
        SameOutside (root ++ [attemptName image]) session.files prior ∧
        (freshScratch (scratchOf workRoot image)).perform session =
          (.ok (), { session with files := prior.put (root ++ [attemptName image]) .directory })) ∨
      (∀ place, session.files.resolve (scratchOf workRoot image) ≠ .ok place) ∧
        ∃ fault, (freshScratch (scratchOf workRoot image)).perform session =
          (.error fault, session) := by
  have named : root ++ [attemptName image] ≠ [] := by simp
  cases reached : session.files.resolve (scratchOf workRoot image) with
  | ok place =>
      obtain ⟨rfl, _⟩ := resolve_child _ workRoot _ root place (attemptName_plain image)
        yard.resolved reached
      have found := exists_of_resolve _ _ _ reached
      refine Or.inl ?_
      cases there : session.files.node? (root ++ [attemptName image]) with
      | none =>
          obtain ⟨new, making⟩ :=
            yard.makes member reached yard.sound (SameOutside.refl _ _) there
          refine ⟨session.files, rfl, new, SameOutside.refl _ _, ?_⟩
          rw [there] at found
          exact freshScratch_made _ _ _ (Or.inl ⟨found, rfl⟩) making
      | some node =>
          cases node with
          | file content mode => exact absurd there (yard.stale image member content mode)
          | directory =>
              have same := sameOutside_dropUnder session.files _ named
              obtain ⟨new, making⟩ := yard.makes member reached (yard.sound.drop _ named) same (by
                rw [node_dropUnder _ _ _ named, if_pos (List.prefix_refl _)])
              refine ⟨_, rfl, new, same, ?_⟩
              have removed : session.files.removeTree (scratchOf workRoot image) =
                  .ok (session.files.dropUnder (root ++ [attemptName image])) := by
                simp only [Files.removeTree, reached, there, bind, Except.bind]
              rw [there] at found
              exact freshScratch_made _ _ _ (Or.inr ⟨found, removed⟩) making
  | error cause =>
      have barred : ∀ place, session.files.resolve (scratchOf workRoot image) ≠ .ok place := by
        simp [reached]
      refine Or.inr ⟨by simp, freshScratch_barred _ (fun there => ?_) fun _ => yard.unmade barred⟩
      obtain ⟨place, leads⟩ := exists_found _ _ there
      exact barred place leads

theorem Yard.clear {prior : Files} (yard : Yard images workRoot archive root file files)
    (member : image ∈ images)
    (new : NewPlace prior (scratchOf workRoot image) (root ++ [attemptName image]))
    (beside : Aside root images files (prior.put (root ++ [attemptName image]) .directory)) :
    Clear (prior.put (root ++ [attemptName image]) .directory) archive
      (scratchOf workRoot image / imageName image) := by
  intro emptied content written found
  have tidy : Tidy prior (root ++ [attemptName image]) (attemptNames image) _ := tidy_made new
  rcases name_plain image.entry with empty | up | plain
  · exact absurd written (unnamed_target new tidy (Or.inl empty) _ _).1
  · exact absurd written (unnamed_target new tidy (Or.inr up) _ _).1
  · obtain ⟨spot, _, reached, _, _⟩ := write_ok _ _ _ _ written
    obtain rfl := tidy.child new plain reached
    have outside := write_outside _ _ _ _ _ reached written
    cases (yard.archive _ beside).symm.trans found
    exact yard.archive _
      (beside.trans (aside_of member (outside.wider (List.prefix_append _ _))))

end

section

variable {setting : Setting} {prior start files after : Files} {scratch : Path} {place : Place}
  {image : Apk.Image} {archive : Path}

theorem sound_swapped (sound : files.Sound) {spot beside : Place} {old content : Bytes} {mode : Nat}
    (file : files.node? spot = some (.file old mode))
    (swapped : Smali.Swapped files after spot beside content) : after.Sound := by
  intro other name there
  by_cases under : beside <+: other ++ [name]
  · exact absurd (swapped.gone _ under) there
  · have directory : files.node? other = some .directory := by
      refine sound other name ?_
      by_cases filled : other ++ [name] = spot
      · rw [filled, file]
        exact Option.some_ne_none _
      · rwa [swapped.rest _ filled under] at there
    rw [swapped.rest other _ fun upper => under (upper.trans (List.prefix_append _ _)), directory]
    rintro rfl
    rw [directory] at file
    cases file

theorem child_filled (base : Path) (name : String) (plain : PlainName name) :
    (base / name).parts ≠ [] := by
  rw [child_eq _ _ plain]
  simp

theorem child_named (base : Path) (name : String) (plain : PlainName name) (spot : Place)
    (reached : files.resolve (base / name) = .ok spot) : spot ≠ [] := by
  obtain ⟨_, _, _, rfl⟩ := resolve_named files _ spot base.parts name
    (congrArg Path.parts (child_eq base name plain)) plain.down reached
  simp

theorem attempt_sound (archive : Path) (named : PlainName (imageName image))
    (comparable : Comparable setting) (standing : Standing setting.toolbox) :
    Keeps (fun session => session.files.Sound) (fun _ => True)
      (attempt setting archive image scratch) := by
  have filled := child_filled scratch (imageName image) named
  have tree := child_filled scratch "smali" smali_plain
  have rebuilt := child_filled scratch _ (modified_plain named)
  have change : ∀ operation : Files → Except Cause Files,
      (∀ files after, files.Sound → operation files = .ok after → after.Sound) →
        Keeps (fun session => session.files.Sound) (fun _ => True) (Action.change operation) :=
    fun operation each => keeps_change (fun _ => trivial) fun session after sound done =>
      each session.files after sound done
  have removed : ∀ path, Keeps (fun session => session.files.Sound) (fun _ => True)
      (Action.change fun files => files.remove path) := fun path =>
    change _ fun _ _ sound done => sound.remove path done
  have written : ∀ content, Keeps (fun session => session.files.Sound) (fun _ => True)
      (Action.change fun files => files.write (scratch / imageName image) content) := fun content =>
    change _ fun _ _ sound done => sound.write _ content filled done
  refine attempt_keeps_each archive image named comparable.polite.quiet written
    (change _ fun _ _ sound done => sound.makeDirectory _ done)
    (.of_perform fun session sound => ⟨standing.disassemble _ _ _ tree sound, fun _ _ => trivial⟩)
    (fun _ _ _ => .of_perform fun session sound => ⟨?_, fun _ _ => trivial⟩)
    (.of_perform fun session sound => ⟨standing.assemble _ _ _ rebuilt sound, fun _ _ => trivial⟩)
    (promote_keeps (tolerant_files _ comparable.polite.quiet) _ _ (removed _)
      (change _ fun _ _ sound done => sound.rename _ _ filled done) written (removed _))
    (keeps_clearTree fun session sound => ?_)
  · rw [comparable.disk]
    rcases ran : (Smali.replace Smali.Disk.plain
      (scratch / "smali" / Smali.classFile setting.patch.targetClass) setting.patch.signature
      setting.patch.replacement Smali.endMarker).perform session with ⟨result, after⟩
    rcases replace_swaps _ _ _ _ _ _ _ ran with same | ⟨_, _, _, _, _, file, _, swapped⟩
    · rw [same]
      exact sound
    · exact sound_swapped sound file swapped
  · unfold Files.clearTree
    cases done : session.files.removeTree (scratch / "smali") with
    | error cause => exact sound
    | ok after =>
        obtain ⟨spot, reached, _, rfl⟩ := removeTree_ok _ _ _ done
        exact sound.drop spot (child_named _ _ smali_plain spot reached)

theorem fenced_held {own : List String} (new : NewPlace prior scratch place) {name : String}
    (member : name ∈ own) (plain : PlainName name) :
    Held (fun session => Fenced prior place own start session.files) (scratch / name)
      (place ++ [name]) where
  named := by simp
  leads _ _ fenced reached := fenced.tidy.child new plain reached
  under _ _ fenced same := ⟨fenced.tidy.inside new member same,
    fenced.outside.trans (same.wider (List.prefix_append _ _))⟩

/-- An attempt changes nothing but its directory, if the class's path leads into the tree. -/
theorem attempt_outside (new : NewPlace prior scratch place) (archive : Path)
    (named : PlainName (imageName image)) (comparable : Comparable setting) :
    Keeps (fun session => Fenced prior place (attemptNames image) start session.files)
      (fun _ => True) (attempt setting archive image scratch) := by
  obtain ⟨front, up, file, at_⟩ := comparable.target.classAt
  refine attempt_keeps archive image named
    (fun name member => fenced_held new member (attemptNames_plain named name member))
    comparable.polite.quiet
    comparable.confined fun _ _ _ => .of_perform fun session fenced => ⟨?_, fun _ _ => trivial⟩
  rw [comparable.disk]
  rcases ran : (Smali.replace Smali.Disk.plain
    (scratch / "smali" / Smali.classFile setting.patch.targetClass) setting.patch.signature
    setting.patch.replacement Smali.endMarker).perform session with ⟨result, after⟩
  refine ⟨(rewrite_tidy new _ _ _ _ _).after session after result fenced.tidy ran, ?_⟩
  rcases Smali.replace_files _ _ _ _ _ _ _ ran with same | ⟨old, content, read, _, stored⟩
  · rw [same]
    exact fenced.outside
  · rw [at_.path] at read stored
    have swapped := at_.swapped new.filled (fenced.tidy.leads new) read stored
    exact fenced.outside.trans ((at_.outside swapped).wider (List.prefix_append _ _))

end

section

variable {setting : Setting} {images : List Apk.Image} {root : Place} {workRoot archive : Path}
  {file : Bytes} {image : Apk.Image} {session after : Session}

theorem attempt_plain {prior : Files} {scratch : Path} {place : Place}
    (new : NewPlace prior scratch place) (session after : Session)
    (tidy : Tidy prior place (attemptNames image) session.files) (quiet : Quiet setting.progress)
    (result : Attempt)
    (done : (attempt setting archive image scratch).perform session = (.ok result, after)) :
    PlainName (imageName image) := by
  rcases name_plain image.entry with empty | up | name
  · obtain ⟨⟨_, broken⟩, _⟩ := attempt_named new session after _ tidy quiet (Or.inl empty) done
    cases broken
  · obtain ⟨⟨_, broken⟩, _⟩ := attempt_named new session after _ tidy quiet (Or.inr up) done
    cases broken
  · exact name

theorem tryImage_outside (yard : Yard images workRoot archive root file session.files)
    (member : image ∈ images) (comparable : Comparable setting)
    (standing : Standing setting.toolbox) (attempt : Attempt)
    (done : (tryImage setting archive workRoot image).perform session = (.ok attempt, after)) :
    SameOutside (root ++ [attemptName image]) session.files after.files ∧ after.files.Sound ∧
      ∀ content mode,
        after.files.node? (root ++ [attemptName image]) ≠ some (.file content mode) := by
  have quiet := comparable.polite.quiet
  generalize ended : (Except.ok attempt : Except Fault Attempt) = result at done
  cases tryImage_tried _ _ _ _ _ _ _ done with
  | unmade | untold => cases ended
  | tried message answer result made told tried after making telling trying closing =>
      rcases yard.freshScratch member with ⟨prior, _, new, same, ran⟩ | ⟨_, _, barred⟩
      · rw [ran] at making
        cases making
        have start : told.files = prior.put (root ++ [attemptName image]) .directory := by
          have kept := quiet_ok quiet _ _ _ _ telling
          exact kept
        have begun : Fenced prior (root ++ [attemptName image]) (attemptNames image) session.files
            told.files := by
          rw [start]
          exact ⟨tidy_made new, same.trans (sameOutside_put _ _ _ new.named)⟩
        have orderly : told.files.Sound := by
          rw [start]
          exact new.made_sound
        cases closing with
        | patched result won =>
            have named := attempt_plain new told after begun.tidy quiet result trying
            have fenced := (attempt_outside new archive named comparable).after _ _ _ begun trying
            refine ⟨fenced.outside,
              (attempt_sound archive named comparable standing).after _ _ _ orderly trying, ?_⟩
            intro content mode
            rw [fenced.tidy.there]
            exact nofun
        | failed result message tried after lost telling =>
            have named := attempt_plain new told tried begun.tidy quiet result trying
            have fenced := (attempt_outside new archive named comparable).after _ _ _ begun trying
            have kept := quiet_ok quiet _ _ _ _ telling
            have cleared := fenced.tidy.cleared new
            rw [swept_files] at kept
            rw [← kept] at cleared
            rw [clearTree_directory _ _ _ (fenced.tidy.leads new) fenced.tidy.there] at kept
            refine ⟨?_, cleared.1, ?_⟩
            · rw [kept]
              exact fenced.outside.trans (sameOutside_dropUnder _ _ new.named)
            · intro content mode
              rw [kept, node_dropUnder _ _ _ new.named, if_pos (List.prefix_refl _)]
              exact nofun
        | broken | untold => cases ended
      · rw [barred] at making
        cases making

theorem Yard.tried (yard : Yard images workRoot archive root file session.files)
    (member : image ∈ images) (comparable : Comparable setting)
    (standing : Standing setting.toolbox) (attempt : Attempt)
    (done : (tryImage setting archive workRoot image).perform session = (.ok attempt, after)) :
    Yard images workRoot archive root file after.files := by
  obtain ⟨same, sound, open_⟩ := tryImage_outside yard member comparable standing attempt done
  exact yard.step member same sound open_

end

end DexGraft.Search
