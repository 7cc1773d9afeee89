import DexGraft.Files.Basic
import DexGraft.Zip.Stamp

/-!
A session is the files a run works on and the journal of what it did. An
`Action` runs in a session and may end in a fault; the session goes on from
where the fault arose.
-/
namespace DexGraft

inductive Level
  | debug
  | info
  | success
  | warning
  | error
  deriving DecidableEq

def Level.name : Level → String
  | .debug => "DEBUG"
  | .info => "INFO"
  | .success => "SUCCESS"
  | .warning => "WARNING"
  | .error => "ERROR"

/-- A name with a private key and the certificates that vouch for it. -/
structure Signer where
  name : String
  /-- The key in its serialised form, or why it has none. -/
  key : Except Cause Bytes
  certificates : List Bytes

inductive Event
  | logged (level : Level) (message : String)
  /-- A remark of the reader of environment files. -/
  | remarked (level : Level) (message : String)
  | progressed (message : String)
  | printed (line : String)
  | disassembled (image : String) (content : Bytes)
  | assembled (output : String)
  | signed (unsigned output : Path) (material : List Signer) (minSdk : Int)
  /-- A program was run with these arguments. -/
  | launched (arguments : List String)

abbrev Environment := List (String × String)

def Environment.get? (environment : Environment) (key : String) : Option String :=
  (environment.find? fun entry => entry.1 == key).map (·.2)

structure Session where
  files : Files
  /-- What happened, first things first. -/
  journal : List Event
  /-- The moment that new archive entries bear. -/
  clock : Zip.Stamp
  environment : Environment
  /-- Where temporary directories are made. -/
  temporary : Path

abbrev Action := ExceptT Fault (StateM Session)

namespace Session

def logged (session : Session) : List (Level × String) :=
  session.journal.filterMap fun
    | .logged level message => some (level, message)
    | _ => none

def progressed (session : Session) : List String :=
  session.journal.filterMap fun
    | .progressed message => some message
    | _ => none

end Session

namespace Action

def record (event : Event) : Action Unit :=
  modify fun session => { session with journal := session.journal ++ [event] }

def log (level : Level) (message : String) : Action Unit :=
  record (.logged level message)

def info (message : String) : Action Unit := log .info message

def print (line : String) : Action Unit := record (.printed line)

def progress (message : String) : Action Unit := record (.progressed message)

def raise {α : Type} (cause : Cause) : Action α := throw (.cause cause)

def ofExcept {α : Type} : Except Cause α → Action α
  | .ok value => pure value
  | .error cause => raise cause

def ask {α : Type} (query : Files → Except Cause α) : Action α := do
  ofExcept (query (← get).files)

def change (operation : Files → Except Cause Files) : Action Unit := do
  let changed ← ask operation
  modify fun session => { session with files := changed }

def removeTree (path : Path) : Action Unit :=
  change fun files => files.removeTree path

def clearTree (path : Path) : Action Unit :=
  modify fun session => { session with files := session.files.clearTree path }

/-- Gives causes that `caught` admits the words of a fault. -/
def rewording {α : Type} (caught : Cause → Bool) (words : Cause → Fault) (action : Action α) :
    Action α :=
  tryCatch action fun
    | .cause cause => if caught cause then throw (words cause) else throw (.cause cause)
    | fault => throw fault

/-- Runs `cleanup` after the action, whether or not it ends in a fault. -/
def ensuring {α : Type} (action : Action α) (cleanup : Action Unit) : Action α := do
  let outcome ← tryCatch (Except.ok <$> action) fun fault => pure (.error fault)
  cleanup
  match outcome with
  | .ok value => pure value
  | .error fault => throw fault

def suffix (number : Nat) : String :=
  let digits := toString number
  String.ofList (List.replicate (8 - digits.length) '0') ++ digits

def freeName (files : Files) (root : Path) (stem : String) (tries : Nat) : Path :=
  let paths := (List.range tries).map fun number => root / (stem ++ suffix number)
  (paths.find? fun path =>
    match files.find? path with
    | .ok (some _) => false
    | _ => true).getD (root / (stem ++ suffix tries))

def makeTemporary (root : Path) (stem : String) : Action Path := do
  let files := (← get).files
  let path := freeName files root stem (files.nodes.length + 1)
  change fun files => files.makeDirectory path
  return path

def fileSize (path : Path) : Action Nat :=
  ask fun files => files.size path

end Action
end DexGraft
