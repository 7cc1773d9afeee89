import DexGraft.Script.Runner
import DexGraft.Tool.Program

/-!
Launching programs within the files: a script by the interpreter that its first
line names, a program of the system by its name.
-/
namespace DexGraft.Script

def candidates (environment : Environment) (name : String) : List String :=
  if name.toList.contains '/' then [name]
  else
    let path := (environment.get? "PATH").getD Tool.defaultSearchPath
    (Text.splitAt ':' path.toList).map fun place => Tool.joinText (String.ofList place) name

/-- The programs of the system. They are what their names say, so their files are empty. -/
def systemFiles : List (Place × Node) :=
  ([["usr"], ["usr", "bin"], ["bin"]].map fun place => (place, .directory)) ++
    [["usr", "bin"], ["bin"]].flatMap fun place =>
      programNames.map fun name => (place ++ [name], .file [] 0o755)

/-- What a file that is to be executed turns out to be. -/
inductive Image
  | system (name : String)
  /-- A script, with the words of its first line. -/
  | interpreted (words : List String)

def isLineBlank (c : Char) : Bool := c == ' ' || c == '\t'

/-- The words of a first line that names an interpreter: its path, and at most one argument. -/
def interpreterWords (line : List Char) : List String :=
  let trimmed := ((line.dropWhile isLineBlank).reverse.dropWhile isLineBlank).reverse
  let path := trimmed.takeWhile fun c => !isLineBlank c
  let argument := (trimmed.drop path.length).dropWhile isLineBlank
  [path, argument].filterMap fun word => if word.isEmpty then none else some (String.ofList word)

def imageOf (path : Path) (content : Bytes) : Except Cause Image :=
  let line := content.takeWhile (· != 10)
  match content, line with
  | [], _ => .ok (.system path.name)
  | _, 35 :: 33 :: rest =>
      match interpreterWords ((Bytes.toText? rest).getD "").toList with
      | [] => Files.refuse .invalidFormat path
      | words => .ok (.interpreted words)
  | _, _ => Files.refuse .invalidFormat path

def executable (files : Files) (path : Path) : Except Cause Image := do
  match ← files.find path with
  | .directory => Files.refuse .notExecutable path
  | .file content mode =>
      if mode &&& Tool.executeBits = 0 then Files.refuse .notExecutable path
      else imageOf path content

def interpreterDepth : Nat := 4

def resolveImage (files : Files) : (depth : Nat) → String → List String →
    Except Cause (String × List String)
  | 0, path, _ => Files.refuse .invalidFormat (Path.ofText path)
  | depth + 1, path, arguments => do
      match ← executable files (Path.ofText path) with
      | .system name => .ok (name, arguments)
      | .interpreted [] => Files.refuse .invalidFormat (Path.ofText path)
      | .interpreted (interpreter :: options) =>
          resolveImage files depth interpreter (options ++ path :: arguments)

/-- A refusal that lets the search go on without a trace. -/
def isAbsence : Cause → Bool
  | .file fault => fault.kind = .missing || fault.kind = .notDirectory
  | _ => false

/-- The first of the paths that can be executed, or the first obstacle worth a mention. -/
def firstImage (files : Files) (arguments : List String) (obstacle : Option Cause) :
    List String → Except Cause (String × List String)
  | [] => .error (obstacle.getD (.file ⟨.missing, ""⟩))
  | path :: rest =>
      match resolveImage files interpreterDepth path arguments with
      | .ok found => .ok found
      | .error cause =>
          firstImage files arguments
            (if obstacle.isNone && !isAbsence cause then some cause else obstacle) rest

def runFuel : Nat := 100000

/-- The longest time, in seconds, that can be waited for. -/
def longestTimeout : Int := 2147483

def startMachine (files : Files) (environment : Environment) (name : String) (timeout : Int) :
    Machine where
  files
  bindings := environment
  name
  arguments := []
  status := 0
  output := []
  errors := []
  elapsed := 0
  limit := timeout.toNat * 1000
  strict := false

def launcher : Tool.Launcher := fun command timeout environment files =>
  let name := command.headD ""
  match firstImage files command.tail none (candidates environment name) with
  | .error cause => (.refused cause, files)
  | .ok (program, arguments) =>
      if timeout ≤ 0 then (.timedOut, files)
      else if longestTimeout < timeout then (.refused .unbounded, files)
      else
        let machine := startMachine files environment name timeout
        let running := runSystem ⟨[], .output, .errors⟩ 1 runFuel program arguments
        let (outcome, machine) := running.run machine
        let after := { machine.files with here := files.here }
        let finished (status : Int) : Tool.Run :=
          .finished status (collected machine.output) (collected machine.errors)
        match outcome with
        | .ok status | .error (.exit status) => (finished status, after)
        | .error (.killed signal) => (finished (-(signal : Int)), after)
        | .error (.leave _ _) => (finished 0, after)
        | .error .timedOut => (.timedOut, after)

end DexGraft.Script
