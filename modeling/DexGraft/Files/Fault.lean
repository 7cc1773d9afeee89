import DexGraft.Path
import DexGraft.Text.Quoted

/-!
Refusals of the file system.
-/
namespace DexGraft

inductive FileFault.Kind
  | missing
  | occupied
  | notDirectory
  | isDirectory
  | invalid
  | nameTooLong
  | notEmpty
  | notPermitted
  | notExecutable
  | invalidFormat
  deriving DecidableEq

structure FileFault where
  kind : FileFault.Kind
  path : String
  deriving DecidableEq

namespace FileFault

def Kind.code : Kind → Nat
  | .missing => 2
  | .invalidFormat => 8
  | .notExecutable => 13
  | .notPermitted => 1
  | .occupied => 17
  | .notDirectory => 20
  | .isDirectory => 21
  | .invalid => 22
  | .nameTooLong => 36
  | .notEmpty => 39

def Kind.text : Kind → String
  | .missing => "No such file or directory"
  | .invalidFormat => "Exec format error"
  | .notExecutable => "Permission denied"
  | .notPermitted => "Operation not permitted"
  | .occupied => "File exists"
  | .notDirectory => "Not a directory"
  | .isDirectory => "Is a directory"
  | .invalid => "Invalid argument"
  | .nameTooLong => "File name too long"
  | .notEmpty => "Directory not empty"

def message (fault : FileFault) : String :=
  s!"[Errno {fault.kind.code}] {fault.kind.text}: {Text.quote fault.path}"

end FileFault
end DexGraft
