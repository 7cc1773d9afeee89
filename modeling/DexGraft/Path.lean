import DexGraft.Text.Split

/-!
Paths as names between slashes. Empty names and single dots vanish, a name of
two dots stays. Exactly two slashes in front make a root of their own.
-/
namespace DexGraft

structure Path where
  /-- Slashes of the root: none for a relative path. -/
  slashes : Nat
  parts : List String
  deriving DecidableEq

namespace Path

def rootSlashes (text : List Char) : Nat :=
  match (text.takeWhile (· == '/')).length with
  | 0 => 0
  | 2 => 2
  | _ => 1

def partsOf (text : List Char) : List String :=
  ((Text.splitAt '/' text).map String.ofList).filter fun part => part != "" && part != "."

def ofText (text : String) : Path :=
  ⟨rootSlashes text.toList, partsOf text.toList⟩

def root : Path := ⟨1, []⟩

def text (path : Path) : String :=
  if path.slashes = 0 && path.parts.isEmpty then "."
  else String.ofList (List.replicate path.slashes '/') ++ "/".intercalate path.parts

def isAbsolute (path : Path) : Bool :=
  path.slashes != 0

/-- An absolute second path replaces the first. -/
def join (path other : Path) : Path :=
  if other.isAbsolute then other else { path with parts := path.parts ++ other.parts }

instance : HDiv Path String Path where
  hDiv path name := path.join (ofText name)

def name (path : Path) : String :=
  path.parts.getLastD ""

/-- The name up to its last dot, unless that dot begins or ends it. -/
def stemOf (name : List Char) : List Char :=
  let ending := (name.reverse.takeWhile (· != '.')).reverse
  let stem := name.take (name.length - (ending.length + 1))
  if ending.length = name.length || ending.isEmpty || stem.isEmpty then name else stem

def stem (path : Path) : String :=
  String.ofList (stemOf path.name.toList)

def withName? (path : Path) (name : String) : Option Path :=
  if path.parts.isEmpty then none else some { path with parts := path.parts.dropLast ++ [name] }

def parent (path : Path) : Path :=
  { path with parts := path.parts.dropLast }

end Path
end DexGraft
