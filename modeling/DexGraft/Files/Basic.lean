import DexGraft.Fault

/-!
A tree of files and directories, kept as a list of places with what stands
there. Directories are listed before what is in them. The root is always a
directory. Every operation either gives the changed tree or says why it cannot.
-/
namespace DexGraft

abbrev Place := List String

inductive Node
  | directory
  | file (content : Bytes) (mode : Nat)
  deriving DecidableEq

structure Files where
  nodes : List (Place × Node)
  /-- Where relative paths begin. -/
  here : Place

namespace Files

def node? (files : Files) (place : Place) : Option Node :=
  if place.isEmpty then some .directory
  else (files.nodes.find? fun entry => entry.1 == place).map (·.2)

def put (files : Files) (place : Place) (node : Node) : Files :=
  if files.nodes.any fun entry => entry.1 == place then
    { files with
      nodes := files.nodes.map fun entry => if entry.1 == place then (place, node) else entry }
  else { files with nodes := files.nodes ++ [(place, node)] }

/-- Removes a place and everything below it. -/
def dropUnder (files : Files) (place : Place) : Files :=
  { files with nodes := files.nodes.filter fun entry => !place.isPrefixOf entry.1 }

def below (files : Files) (place : Place) : List (Place × Node) :=
  files.nodes.filterMap fun entry =>
    if place.isPrefixOf entry.1 && place.length < entry.1.length then
      some (entry.1.drop place.length, entry.2)
    else none

def namesIn (files : Files) (place : Place) : List String :=
  (files.below place).filterMap fun entry =>
    match entry.1 with
    | [name] => some name
    | _ => none

def nameLimit : Nat := 255

def pathLimit : Nat := 4096

/-- Follows names from a place. All but the last have to lead to directories. -/
def walk (files : Files) (place : Place) : List String → Except FileFault.Kind Place
  | [] => .ok place
  | name :: rest =>
      match files.node? place with
      | none => .error .missing
      | some (.file _ _) => .error .notDirectory
      | some .directory =>
          if name = ".." then walk files place.dropLast rest
          else if nameLimit < name.utf8ByteSize then .error .nameTooLong
          else walk files (place ++ [name]) rest

def refuse {α : Type} (kind : FileFault.Kind) (path : Path) : Except Cause α :=
  .error (.file ⟨kind, path.text⟩)

/-- The place a path leads to, whether or not something stands there. -/
def resolve (files : Files) (path : Path) : Except Cause Place :=
  if path.text.toList.any (·.toNat == 0) then .error .nulCharacter
  else if pathLimit ≤ path.text.utf8ByteSize then refuse .nameTooLong path
  else match files.walk (if path.isAbsolute then [] else files.here) path.parts with
    | .ok place => .ok place
    | .error kind => refuse kind path

def find (files : Files) (path : Path) : Except Cause Node := do
  let place ← files.resolve path
  match files.node? place with
  | some node => .ok node
  | none => refuse .missing path

/-- The node a path leads to, if any. Names that cannot be looked up for their length are an
error, other obstacles mean that there is nothing. -/
def find? (files : Files) (path : Path) : Except Cause (Option Node) :=
  match files.find path with
  | .ok node => .ok (some node)
  | .error (.file fault) =>
      if fault.kind = .missing || fault.kind = .notDirectory then .ok none
      else .error (.file fault)
  | .error _ => .ok none

def exists? (files : Files) (path : Path) : Except Cause Bool :=
  return (← files.find? path).isSome

def isFile (files : Files) (path : Path) : Except Cause Bool :=
  return match ← files.find? path with
    | some (.file _ _) => true
    | _ => false

def isDirectory (files : Files) (path : Path) : Except Cause Bool :=
  return match ← files.find? path with
    | some .directory => true
    | _ => false

def read (files : Files) (path : Path) : Except Cause Bytes := do
  match ← files.find path with
  | .file content _ => .ok content
  | .directory => refuse .isDirectory path

/-- What a directory takes itself, if no more than one block of the disk. -/
def directorySize : Nat := 4096

def size (files : Files) (path : Path) : Except Cause Nat := do
  match ← files.find path with
  | .file content _ => .ok content.length
  | .directory => .ok directorySize

def newFileMode : Nat := 0o644

def write (files : Files) (path : Path) (content : Bytes) : Except Cause Files := do
  let place ← files.resolve path
  match files.node? place with
  | some .directory => refuse .isDirectory path
  | some (.file _ mode) => .ok (files.put place (.file content mode))
  | none => .ok (files.put place (.file content newFileMode))

def setMode (files : Files) (path : Path) (mode : Nat) : Except Cause Files := do
  let place ← files.resolve path
  match files.node? place with
  | some (.file content _) => .ok (files.put place (.file content mode))
  | some .directory => .ok files
  | none => refuse .missing path

def makeDirectory (files : Files) (path : Path) : Except Cause Files := do
  let place ← files.resolve path
  match files.node? place with
  | some _ => refuse .occupied path
  | none =>
      if path.parts.isEmpty then refuse .missing path else .ok (files.put place .directory)

def makeMissing (files : Files) (path : Path) : Except Cause Files :=
  match files.find path with
  | .ok _ => .ok files
  | .error (.file fault) =>
      if fault.kind = .missing then files.makeDirectory path else .error (.file fault)
  | .error cause => .error cause

/-- Makes a directory and those above it that are missing; one that is there already is an error
only for the last name. -/
def makeDirectories (files : Files) (path : Path) : Except Cause Files := do
  let above := (List.range path.parts.length).map fun count =>
    { path with parts := path.parts.take count }
  let prepared ← above.foldlM makeMissing files
  prepared.makeDirectory path

def remove (files : Files) (path : Path) : Except Cause Files := do
  let place ← files.resolve path
  match files.node? place with
  | some (.file _ _) => .ok (files.dropUnder place)
  | some .directory => refuse .isDirectory path
  | none => refuse .missing path

/-- Moves a file over another file or to a free place. -/
def rename (files : Files) (source target : Path) : Except Cause Files := do
  let origin ← files.resolve source
  let goal ← files.resolve target
  match files.node? origin, files.node? goal with
  | none, _ => refuse .missing source
  | some (.file _ _), some .directory => refuse .isDirectory source
  | some (.file content mode), _ =>
      if origin = goal then .ok files
      else .ok ((files.dropUnder origin).put goal (.file content mode))
  | some .directory, some (.file _ _) => refuse .notDirectory source
  | some .directory, goalNode =>
      if origin = goal then .ok files
      else if origin.isPrefixOf goal then refuse .invalid source
      else if goalNode.isSome && !(files.below goal).isEmpty then refuse .notEmpty source
      else
        let moved := (files.below origin).map fun entry => (goal ++ entry.1, entry.2)
        let cleared := files.dropUnder origin
        .ok { cleared.put goal .directory with
          nodes := (cleared.put goal .directory).nodes ++ moved }

def removeTree (files : Files) (path : Path) : Except Cause Files := do
  let place ← files.resolve path
  match files.node? place with
  | some .directory => .ok (files.dropUnder place)
  | some (.file _ _) => refuse .notDirectory path
  | none => refuse .missing path

def clearTree (files : Files) (path : Path) : Files :=
  match files.removeTree path with
  | .ok cleared => cleared
  | .error _ => files

end Files
end DexGraft
