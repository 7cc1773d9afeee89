import DexGraft.Session

/-!
The state of a running script, where its output goes, and how it can come to a
stop before its end.
-/
namespace DexGraft.Script

structure Machine where
  files : Files
  bindings : Environment
  /-- The name under which the script was started. -/
  name : String
  arguments : List String
  status : Nat
  /-- What was written, last pieces first. -/
  output : List Bytes
  errors : List Bytes
  /-- Milliseconds that have passed, and how many there are. -/
  elapsed : Nat
  limit : Nat
  /-- Whether a failing command ends the script. -/
  strict : Bool

inductive Target
  | output
  | errors
  | file (place : Place)
  | nowhere

structure Streams where
  input : Bytes
  output : Target
  errors : Target

inductive Stop
  | exit (status : Nat)
  | killed (signal : Nat)
  | timedOut
  /-- Leaves so many loops, the last of them for its next round. -/
  | leave (loops : Nat) (again : Bool)

abbrev Shell := ExceptT Stop (StateM Machine)

def emit (target : Target) (content : Bytes) : Shell Unit :=
  modify fun machine =>
    match target with
    | .output => { machine with output := content :: machine.output }
    | .errors => { machine with errors := content :: machine.errors }
    | .nowhere => machine
    | .file place =>
        match machine.files.node? place with
        | some (.file old mode) =>
            { machine with files := machine.files.put place (.file (old ++ content) mode) }
        | _ => machine

def emitText (target : Target) (text : String) : Shell Unit :=
  emit target (Bytes.ofText text)

def attemptChange (operation : Files → Except Cause Files) : Shell (Option Cause) := do
  match operation (← get).files with
  | .ok files =>
      modify fun machine => { machine with files }
      return none
  | .error cause => return some cause

def valueOf? (name : String) : Shell (Option String) := do
  return (← get).bindings.get? name

def assign (name value : String) : Shell Unit :=
  modify fun machine => { machine with
    bindings := (name, value) :: machine.bindings.filter fun entry => entry.1 != name }

def pass (milliseconds : Nat) : Shell Unit := do
  modify fun machine => { machine with elapsed := machine.elapsed + milliseconds }
  let machine ← get
  if machine.limit ≤ machine.elapsed then throw .timedOut

def collected (pieces : List Bytes) : Bytes :=
  pieces.reverse.flatten

def reasonText : Cause → String
  | .file fault => fault.kind.text
  | cause => cause.message

end DexGraft.Script
