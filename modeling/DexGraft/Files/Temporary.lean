import DexGraft.Session

/-!
Where temporary directories are made: in the first directory of those that the
environment names and those that are customary.
-/
namespace DexGraft

def temporaryVariables : List String := ["TMPDIR", "TEMP", "TMP"]

def customaryPlaces : List String := ["/tmp", "/var/tmp", "/usr/tmp"]

def absolute (files : Files) (path : Path) : Path :=
  let start : Path := ⟨1, files.here⟩
  let whole := start.join path
  { whole with
    parts := whole.parts.foldl
      (fun parts name => if name = ".." then parts.dropLast else parts ++ [name]) [] }

def temporaryRoot (files : Files) (environment : Environment) : Path :=
  let named := temporaryVariables.filterMap fun key =>
    (environment.get? key).filter (· != "")
  let places := ((named ++ customaryPlaces).map Path.ofText).map (absolute files)
  (places.find? fun place =>
    match files.isDirectory place with
    | .ok found => found
    | .error _ => false).getD ⟨1, files.here⟩

end DexGraft
