import DexGraft.Proofs.Files.Making
import DexGraft.Proofs.Search.Pinned

/-!
What an attempt leaves in its directory. However it goes, it works under names of its
own there and takes no directory away, so that the directory can be removed with all
that is in it; a patched image is the only thing that stays.
-/
namespace DexGraft.Search

open Files DexGraft.Action

theorem replace_swaps (path : Path) (signature replacement marker : String)
    (result : Except Fault Bool) (session after : Session)
    (done : (Smali.replace Smali.Disk.plain path signature replacement marker).perform session =
      (result, after)) :
    after.files = session.files ∨ ∃ spot beside old mode content,
      session.files.node? spot = some (.file old mode) ∧
      session.files.node? beside ≠ some .directory ∧
      Smali.Swapped session.files after.files spot beside content := by
  rcases Smali.replace_files _ _ _ _ _ _ _ done with same |
    ⟨old, content, readable, ⟨temporary, beside, named, found, open_⟩, stored⟩
  · exact Or.inl same
  · obtain ⟨spot, mode, reached, node⟩ := (read_eq_ok ..).mp readable
    obtain ⟨again, other, named', found', swapped⟩ := stored.swapped spot reached
    rw [named] at named'
    cases named'
    rw [found] at found'
    cases found'
    exact Or.inr ⟨spot, beside, old, mode, content, node, open_, swapped⟩

/-- A directory was made at `place` in `prior`: it is there with all the directories of then, it
holds nothing under other names than its `own`, and all else stands in a directory. -/
structure Tidy (prior : Files) (place : Place) (own : List String) (files : Files) : Prop where
  here : files.here = prior.here
  directories : ∀ other, prior.node? other = some .directory →
    files.node? other = some .directory
  there : files.node? place = some .directory
  outside : (files.dropUnder place).Sound
  own : ∀ name more, name ∉ own → files.node? (place ++ name :: more) = none

section

variable {prior files after : Files} {scratch : Path} {place : Place} {own : List String}

theorem dropUnder_outside (named : place ≠ []) (same : SameOutside place files after)
    (other : Place) :
    (after.dropUnder place).node? other = (files.dropUnder place).node? other := by
  rw [node_dropUnder _ _ _ named, node_dropUnder _ _ _ named]
  split
  · rfl
  · rename_i apart
    exact same.rest other apart

theorem tidy_made (new : NewPlace prior scratch place) :
    Tidy prior place own (prior.put place .directory) where
  here := here_put ..
  directories other there := by
    rw [node_put _ _ _ _ new.named]
    split
    · rfl
    · exact there
  there := by rw [node_put _ _ _ _ new.named, if_pos rfl]
  outside := (new.sound.drop place new.named).congr
    (dropUnder_outside new.named (sameOutside_put prior place _ new.named))
  own name more _ := by
    rw [node_put _ _ _ _ new.named, if_neg (by simp)]
    exact new.sound.nothing_under place new.free (name :: more)

namespace Tidy

theorem leads (tidy : Tidy prior place own files) (new : NewPlace prior scratch place) :
    files.resolve scratch = .ok place :=
  new.leads tidy.here tidy.directories

theorem child (tidy : Tidy prior place own files) (new : NewPlace prior scratch place)
    {name : String} (plain : PlainName name) {spot : Place}
    (reached : files.resolve (scratch / name) = .ok spot) : spot = place ++ [name] :=
  (resolve_child files scratch name place spot plain (tidy.leads new) reached).1

theorem inside (tidy : Tidy prior place own files) (new : NewPlace prior scratch place)
    {name : String} (member : name ∈ own) (same : SameOutside (place ++ [name]) files after) :
    Tidy prior place own after where
  here := same.here.trans tidy.here
  directories other there := by
    have apart : ¬place ++ [name] <+: other := fun under =>
      new.apart other there ((List.prefix_append _ _).trans under)
    rw [same.rest other apart, tidy.directories other there]
  there := by rw [same.rest _ (not_prefix_above place name []), tidy.there]
  outside := tidy.outside.congr
    (dropUnder_outside new.named (same.wider (List.prefix_append _ _)))
  own other more foreign := by
    rw [same.rest, tidy.own other more foreign]
    rw [List.prefix_append_right_inj, List.cons_prefix_cons]
    rintro ⟨rfl, _⟩
    exact foreign member

theorem apart (tidy : Tidy prior place own files) (new : NewPlace prior scratch place)
    (other : Place) (open_ : files.node? other ≠ some .directory) : ¬other <+: place := by
  intro covers
  by_cases same : other = place
  · exact open_ (same ▸ tidy.there)
  · exact open_ (tidy.directories other (new.above other covers same))

theorem swapped (tidy : Tidy prior place own files) (new : NewPlace prior scratch place)
    {spot beside : Place} {old content : Bytes} {mode : Nat}
    (file : files.node? spot = some (.file old mode))
    (open_ : files.node? beside ≠ some .directory)
    (swapped : Smali.Swapped files after spot beside content) : Tidy prior place own after := by
  -- A directory is neither the file that was filled nor under the place that was emptied.
  have kept : ∀ other, files.node? other = some .directory → ¬beside <+: other →
      after.node? other = some .directory := by
    intro other there clear
    rw [swapped.rest other _ clear, there]
    rintro rfl
    rw [there] at file
    cases file
  refine ⟨swapped.here.trans tidy.here, fun other there => ?_, ?_, ?_, fun name more foreign => ?_⟩
  · refine kept other (tidy.directories other there) fun covers => open_ ?_
    exact tidy.directories _ (new.sound.above other there beside covers)
  · exact kept place tidy.there (tidy.apart new beside open_)
  · intro other name there
    rw [node_dropUnder _ _ _ new.named] at there ⊢
    split at there
    · exact absurd rfl there
    rename_i outside
    have above : ¬place <+: other := fun under => outside (under.trans (List.prefix_append _ _))
    rw [if_neg above]
    have before : files.node? (other ++ [name]) ≠ none := by
      by_cases same : other ++ [name] = spot
      · simp [same, file]
      · by_cases under : beside <+: other ++ [name]
        · exact absurd (swapped.gone _ under) there
        · rwa [swapped.rest _ same under] at there
    have directory : (files.dropUnder place).node? other = some .directory := by
      refine tidy.outside other name ?_
      rwa [node_dropUnder _ _ _ new.named, if_neg outside]
    refine kept other ?_ fun covers => open_ ?_
    · rwa [node_dropUnder _ _ _ new.named, if_neg above] at directory
    · have upper := tidy.outside.above other directory beside covers
      rwa [node_dropUnder _ _ _ new.named, if_neg fun under => above (under.trans covers)] at upper
  · have free := tidy.own name more foreign
    by_cases under : beside <+: place ++ name :: more
    · exact swapped.gone _ under
    · rw [swapped.rest _ _ under, free]
      rintro rfl
      rw [free] at file
      cases file

theorem swapped_directory (tidy : Tidy prior place own files) (new : NewPlace prior scratch place)
    {spot beside : Place} {name : String} {old content : Bytes} {mode : Nat}
    (there : files.node? (place ++ [name]) = some .directory)
    (file : files.node? spot = some (.file old mode))
    (open_ : files.node? beside ≠ some .directory)
    (swapped : Smali.Swapped files after spot beside content) :
    after.node? (place ++ [name]) = some .directory := by
  have clear : ¬beside <+: place ++ [name] := by
    intro under
    rcases List.prefix_concat_iff.mp under with same | above
    · exact open_ (same ▸ there)
    · exact tidy.apart new beside open_ above
  rw [swapped.rest _ _ clear, there]
  intro same
  rw [← same, there] at file
  cases file

theorem held (new : NewPlace prior scratch place) {name : String} (member : name ∈ own)
    (plain : PlainName name) :
    Held (fun session => Tidy prior place own session.files) (scratch / name) (place ++ [name])
    where
  named := by simp
  leads _ _ tidy reached := tidy.child new plain reached
  under _ _ tidy same := tidy.inside new member same

theorem clear_inside (tidy : Tidy prior place own files) (new : NewPlace prior scratch place)
    {name : String} (plain : PlainName name) :
    SameOutside (place ++ [name]) files (files.clearTree (scratch / name)) := by
  unfold Files.clearTree
  cases removed : files.removeTree (scratch / name) with
  | error cause => exact SameOutside.refl _ _
  | ok after =>
      obtain ⟨spot, reached, _, rfl⟩ := removeTree_ok _ _ _ removed
      obtain rfl := tidy.child new plain reached
      exact sameOutside_dropUnder files _ (by simp)

theorem cleared (tidy : Tidy prior place own files) (new : NewPlace prior scratch place) :
    (files.clearTree scratch).Sound ∧ (files.clearTree scratch).exists? scratch = .ok false := by
  rw [clearTree_directory files scratch place (tidy.leads new) tidy.there]
  refine ⟨tidy.outside, missing_of_resolve _ scratch place ?_ ?_⟩
  · refine new.leads tidy.here fun other there => ?_
    rw [node_dropUnder _ _ _ new.named, if_neg (new.apart other there)]
    exact tidy.directories other there
  · rw [node_dropUnder _ _ _ new.named, if_pos (List.prefix_refl place)]

end Tidy

end

section

variable {setting : Setting} {prior : Files} {scratch : Path} {place : Place} {image : Apk.Image}
  {archive : Path}

theorem rewrite_tidy (new : NewPlace prior scratch place) (own : List String) (path : Path)
    (signature replacement marker : String) :
    Keeps (fun session => Tidy prior place own session.files) (fun _ => True)
      (Smali.replace Smali.Disk.plain path signature replacement marker) := by
  refine .of_perform fun session tidy => ⟨?_, fun _ _ => trivial⟩
  rcases ran : (Smali.replace Smali.Disk.plain path signature replacement marker).perform session
    with ⟨result, after⟩
  rcases replace_swaps _ _ _ _ _ _ _ ran with same | ⟨spot, beside, _, _, _, file, open_, swapped⟩
  · rw [same]
    exact tidy
  · exact tidy.swapped new file open_ swapped

theorem unnamed_target (new : NewPlace prior scratch place) {files : Files}
    (tidy : Tidy prior place (attemptNames image) files)
    (nameless : imageName image = "" ∨ imageName image = "..") (content : Bytes) (after : Files) :
    files.write (scratch / imageName image) content ≠ .ok after ∧
      files.read (scratch / imageName image) ≠ .ok content := by
  have directory : ∀ spot, files.resolve (scratch / imageName image) = .ok spot →
      files.node? spot = some .directory := by
    intro spot reached
    rcases nameless with empty | up
    · have same : scratch / imageName image = scratch := by
        rw [empty]
        change { scratch with parts := scratch.parts ++ [] } = scratch
        rw [List.append_nil]
      rw [same, tidy.leads new] at reached
      cases reached
      exact tidy.there
    · have parts : scratch / imageName image =
          { scratch with parts := scratch.parts ++ [".."] } := by rw [up]; rfl
      rw [parts, resolve_eq_ok] at reached
      have walked := ((resolve_eq_ok ..).mp (tidy.leads new)).2
      obtain ⟨middle, front, back⟩ := (walk_append ..).mp reached.2
      have start : files.start { scratch with parts := scratch.parts ++ [".."] } =
          files.start scratch := rfl
      rw [start, walked] at front
      cases front
      obtain ⟨_, ⟨_, arrived⟩ | ⟨down, _⟩⟩ := (walk_cons ..).mp back
      · cases arrived
        refine tidy.directories _ (new.above _ (List.dropLast_prefix place) fun same => ?_)
        have shorter := congrArg List.length same
        rw [List.length_dropLast] at shorter
        have filled := List.length_pos_iff.mpr new.named
        omega
      · exact absurd rfl down
  constructor
  · intro written
    obtain ⟨spot, _, reached, open_, _⟩ := write_ok _ _ _ _ written
    exact open_ (directory spot reached)
  · intro read
    obtain ⟨spot, _, reached, node⟩ := (read_eq_ok ..).mp read
    rw [directory spot reached] at node
    cases node

theorem attempt_named (new : NewPlace prior scratch place) (session after : Session)
    (result : Except Fault Attempt) (tidy : Tidy prior place (attemptNames image) session.files)
    (quiet : Quiet setting.progress)
    (nameless : imageName image = "" ∨ imageName image = "..")
    (done : (attempt setting archive image scratch).perform session = (result, after)) :
    (∃ fault, result = .error fault) ∧ Tidy prior place (attemptNames image) after.files := by
  have tolerant : Tolerant setting
      (fun session => Tidy prior place (attemptNames image) session.files) (fun _ => True) :=
    tolerant_files _ quiet
  have extracting := extract_keeps tolerant setting.reader archive (scratch / imageName image)
    image.entry fun content => keeps_change (fun _ => trivial) fun session files before written =>
      absurd written (unnamed_target new before nameless content files).1
  rcases extracting.bind_cases session after result tidy done with
    ⟨fault, ended, _, kept⟩ | ⟨size, middle, ran, _, _⟩
  · exact ⟨⟨fault, ended⟩, kept⟩
  · obtain ⟨_, _, _, _, _, _, _, emptied, _, _, _, _, written, _⟩ :=
      Apk.extract_ok _ _ _ _ _ _ _ ran
    exact absurd written (unnamed_target new tidy nameless _ emptied).1

theorem attempt_tidy (new : NewPlace prior scratch place) (session after : Session)
    (result : Except Fault Attempt) (tidy : Tidy prior place (attemptNames image) session.files)
    (plain : setting.disk = Smali.Disk.plain) (quiet : Quiet setting.progress)
    (confined : Confined setting.toolbox)
    (done : (attempt setting archive image scratch).perform session = (result, after)) :
    Tidy prior place (attemptNames image) after.files := by
  have named : ∀ nameless, Tidy prior place (attemptNames image) after.files := fun nameless =>
    (attempt_named new session after result tidy quiet nameless done).2
  rcases name_plain image.entry with empty | up | name
  · exact named (Or.inl empty)
  · exact named (Or.inr up)
  · have keeps := attempt_keeps archive image name
      (fun other member => Tidy.held new member (attemptNames_plain name other member)) quiet
      confined fun _ _ _ => plain ▸ rewrite_tidy new _ _ _ _ _
    exact keeps.after session after result tidy done

end

end DexGraft.Search
