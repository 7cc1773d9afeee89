import DexGraft.Proofs.Apk.Image
import DexGraft.Proofs.Smali.Rewrite
import DexGraft.Search.Pipeline

/-!
What a run asks of its tools and of its patch: tools write to the output they are
given and nowhere else, whoever is told of the progress leaves the files alone, and
the class to patch lies in the tree.
-/
namespace DexGraft.Search

open Files DexGraft.Action

def Quiet (progress : String → Action Unit) : Prop :=
  ∀ message session, ((progress message).perform session).2.files = session.files

/-- Every place that holds the output holds all that changes; if the output's path leads nowhere,
nothing changes. -/
def WritesOnly (action : Action Unit) (output : Path) : Prop :=
  ∀ session place, (∀ spot, session.files.resolve output = .ok spot → place <+: spot) →
    SameOutside place session.files (action.perform session).2.files

/-- Both tools that work on trees write only to the output they are given. -/
structure Confined (toolbox : Toolbox) : Prop where
  disassemble : ∀ image tree, WritesOnly (toolbox.disassemble image tree) tree
  assemble : ∀ tree image, WritesOnly (toolbox.assemble tree image) image

structure WritesFile (action : Action Unit) (output : Path) : Prop where
  here : ∀ session, (action.perform session).2.files.here = session.files.here
  rest : ∀ session other, (∀ spot, session.files.resolve output = .ok spot → other ≠ spot) →
    (action.perform session).2.files.node? other = session.files.node? other

theorem asked_only {Answer : Type} (query : Files → Except Cause Answer)
    (next : Answer → Action Unit) (session : Session) (place : Place)
    (each : ∀ answer, query session.files = .ok answer →
      SameOutside place session.files ((next answer).perform session).2.files) :
    SameOutside place session.files ((ask query >>= next).perform session).2.files := by
  rw [perform_bind, perform_ask]
  cases answered : query session.files with
  | error cause => exact SameOutside.refl _ _
  | ok answer => exact each answer answered

theorem written_only (path : Path) (content : Bytes) (session : Session) (place : Place)
    (within : ∀ spot, session.files.resolve path = .ok spot → place <+: spot) :
    SameOutside place session.files
      ((change fun files => files.write path content).perform session).2.files := by
  rw [perform_change]
  cases written : session.files.write path content with
  | error cause => exact SameOutside.refl _ _
  | ok files =>
      obtain ⟨spot, _, reached, _, _⟩ := write_ok _ _ _ _ written
      exact (write_outside _ _ _ _ _ reached written).wider (within spot reached)

def treeOf (root : Path) (image : Apk.Image) : Path :=
  scratchOf root image / "smali"

/-- In every tree of a run the class's path leads to a place inside the tree. -/
def StaysInside (target : String) : Prop :=
  ∀ (files : Files) (root : Path) (image : Apk.Image) (treePlace place : Place),
    image.Customary → files.resolve (treeOf root image) = .ok treePlace →
      files.resolve (treeOf root image / Smali.classFile target) = .ok place →
        ∃ name more, place = treePlace ++ name :: more

/-- All that a run asks of its setting. -/
structure Orderly (setting : Setting) : Prop where
  disk : setting.disk = Smali.Disk.plain
  progress : Quiet setting.progress
  toolbox : Confined setting.toolbox
  target : StaysInside setting.patch.targetClass

theorem staysInside_of_down (target : String) (parts : List String)
    (relative : Path.ofText (Smali.classFile target) = ⟨0, parts⟩) (filled : parts ≠ [])
    (down : ".." ∉ parts) : StaysInside target := by
  intro files root image treePlace place _ tree reached
  rw [resolve_down files _ _ parts treePlace place relative down tree reached]
  cases parts with
  | nil => exact absurd rfl filled
  | cons name more => exact ⟨name, more, rfl⟩

theorem quiet_ok {progress : String → Action Unit} (quiet : Quiet progress) (message : String)
    (session after : Session) (value : Unit)
    (done : (progress message).perform session = (.ok value, after)) :
    after.files = session.files := by
  have same := quiet message session
  rw [done] at same
  exact same

theorem smali_plain : PlainName "smali" := ⟨by decide +kernel, by decide⟩

theorem input_plain : PlainName "input.apk" := ⟨by decide +kernel, by decide⟩

end DexGraft.Search
