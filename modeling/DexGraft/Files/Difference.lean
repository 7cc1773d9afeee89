import DexGraft.Files.Basic

/-!
What a run did to the files below a place: the files that it wrote, the
directories that it made, and the places where nothing stands any more.
-/
namespace DexGraft.Files

def contentsBelow (files : Files) (place : Place) : List (Place × Bytes) :=
  (files.below place).filterMap fun entry =>
    match entry.2 with
    | .file content _ => some (entry.1, content)
    | .directory => none

def directoriesBelow (files : Files) (place : Place) : List Place :=
  (files.below place).filterMap fun entry =>
    match entry.2 with
    | .file _ _ => none
    | .directory => some entry.1

def writtenBelow (before after : Files) (place : Place) : List (Place × Bytes) :=
  let old := before.contentsBelow place
  (after.contentsBelow place).filter fun entry => !old.contains entry

def madeBelow (before after : Files) (place : Place) : List Place :=
  let old := before.directoriesBelow place
  (after.directoriesBelow place).filter fun directory => !old.contains directory

def removedBelow (before after : Files) (place : Place) : List Place :=
  let left := (after.contentsBelow place).map (·.1)
  ((before.contentsBelow place).map (·.1)).filter fun file => !left.contains file

end DexGraft.Files
