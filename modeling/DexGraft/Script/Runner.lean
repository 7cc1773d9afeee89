import DexGraft.Script.Arithmetic
import DexGraft.Script.Pattern
import DexGraft.Script.Utility
import DexGraft.Tool.Find

/-!
Running scripts: words are expanded, redirections applied, and commands carried
out on the machine. The fuel bounds how often anything is repeated; a script
that uses it up has run out of time.
-/
namespace DexGraft.Script

/-- What an expanded piece contributes to the fields of a word. -/
inductive Part
  | whole (text : List Char)
  /-- Parted at blanks. -/
  | loose (text : List Char)
  | boundary

def isFieldBlank (c : Char) : Bool :=
  c == ' ' || c == '\t' || c == '\n'

/-- Fields under construction: the open one, if any, and those before it, last first. -/
structure Fields where
  current : Option (List Char)
  done : List String

def Fields.close (fields : Fields) : Fields :=
  match fields.current with
  | some text => ⟨none, String.ofList text :: fields.done⟩
  | none => fields

def Fields.extend (fields : Fields) (text : List Char) : Fields :=
  { fields with current := some (fields.current.getD [] ++ text) }

def Fields.add (fields : Fields) : Part → Fields
  | .whole text => fields.extend text
  | .loose text =>
      text.foldl (fun fields c => if isFieldBlank c then fields.close else fields.extend [c]) fields
  | .boundary => fields.close

def fieldsOf (parts : List Part) : List String :=
  ((parts.foldl Fields.add ⟨none, []⟩).close).done.reverse

def textOf (parts : List Part) : List Char :=
  parts.flatMap fun
    | .whole text | .loose text => text
    | .boundary => [' ']

def part (quoted : Bool) (text : List Char) : Part :=
  if quoted then .whole text else .loose text

def parameter? (name : String) : Shell (Option String) := do
  let machine ← get
  match name with
  | "#" => return some (toString machine.arguments.length)
  | "?" => return some (toString machine.status)
  | "$" => return some "4711"
  | "!" => return some ""
  | "-" => return some ""
  | "*" | "@" => return some (" ".intercalate machine.arguments)
  | "0" => return some machine.name
  | _ =>
      match name.toNat? with
      | some number => return machine.arguments[number - 1]?
      | none => valueOf? name

def argumentParts (quoted : Bool) : Shell (List Part) := do
  let arguments := (← get).arguments
  return (arguments.map fun argument => part quoted argument.toList).intersperse .boundary

def trimNewlines (text : List Char) : List Char :=
  (text.reverse.dropWhile (· == '\n')).reverse

/-- The text without what the pattern matches at one of its ends. -/
def shorten (atoms : List Atom) (fromEnd longest : Bool) (text : List Char) : List Char :=
  let sizes := List.range (text.length + 1)
  let sizes := if longest then sizes.reverse else sizes
  if fromEnd then
    match sizes.find? fun size => isMatch atoms (text.drop (text.length - size)) with
    | some size => text.take (text.length - size)
    | none => text
  else
    match sizes.find? fun size => isMatch atoms (text.take size) with
    | some size => text.drop size
    | none => text

def variableNumber (machine : Machine) (name : String) : Int :=
  ((machine.bindings.get? name).bind fun text => text.trimAscii.toString.toInt?).getD 0

def openTarget (direction : Direction) (path : String) : Shell (Except Cause Target) := do
  if path == "/dev/null" then return .ok .nowhere
  let target := Path.ofText path
  let opening (files : Files) : Except Cause Files :=
    match direction, files.find target with
    | .append, .ok (.file _ _) => .ok files
    | _, _ => files.write target []
  match ← attemptChange opening with
  | some cause => return .error cause
  | none =>
      match (← get).files.resolve target with
      | .ok place => return .ok (.file place)
      | .error cause => return .error cause

def openReason : Cause → String
  | .file ⟨.missing, _⟩ => "Directory nonexistent"
  | cause => reasonText cause

def report (streams : Streams) (line : Nat) (text : String) : Shell Unit := do
  let name := (← get).name
  emitText streams.errors (name ++ ": " ++ toString line ++ ": " ++ text ++ "\n")

inductive Found
  | own (utility : Utility)
  | system (name : String)
  | script (path : String)
  | missing
  | forbidden

def findProgram (machine : Machine) (name : String) : Found :=
  match ownUtilities.find? fun entry => entry.1 == name with
  | some entry => .own entry.2
  | none =>
      match Tool.onSearchPath machine.files machine.bindings name with
      | some path =>
          match machine.files.read (Path.ofText path) with
          | .ok [] => .system (Path.ofText path).name
          | _ => .script path
      | none =>
          match machine.files.find (Path.ofText name) with
          | .ok _ => if name.toList.contains '/' then .forbidden else .missing
          | .error _ => .missing

/-- A shell's arguments as a script's name, its text and what is passed to it. -/
def shellScript (machine : Machine) (arguments : List String) :
    Option (String × String × List String) :=
  match arguments with
  | "-c" :: text :: rest => some (rest.headD "sh", text, rest.tail)
  | path :: rest =>
      match machine.files.read (Path.ofText path) with
      | .ok content => (Bytes.toText? content).map fun text => (path, text, rest)
      | .error _ => none
  | [] => none

mutual

def expandPiece (streams : Streams) : (fuel : Nat) → Piece → Shell (List Part)
  | 0, _ => throw .timedOut
  | fuel + 1, piece =>
      match piece with
      | .plain text _ => return [.whole text]
      | .parameter "@" quoted => argumentParts quoted
      | .parameter "*" false => argumentParts false
      | .parameter name quoted => do
          return [part quoted ((← parameter? name).getD "").toList]
      | .size name => do return [.whole (toString ((← parameter? name).getD "").length).toList]
      | .substitute name rule word quoted => do
          let value ← parameter? name
          let isSet := match rule with
            | .ifUnset | .ifSet => value.isSome
            | .ifEmpty | .ifFilled => (value.getD "") != ""
          match rule, isSet with
          | .ifUnset, true | .ifEmpty, true => return [part quoted (value.getD "").toList]
          | .ifSet, false | .ifFilled, false => return [part quoted []]
          | _, _ => return (← word.mapM (expandPiece streams fuel)).flatten
      | .shorten name fromEnd longest pattern quoted => do
          let value := ((← parameter? name).getD "").toList
          let atoms := patternOf (← patternText streams fuel pattern)
          return [part quoted (shorten atoms fromEnd longest value)]
      | .output body quoted => do
          let before := (← get).output
          modify fun machine => { machine with output := [] }
          runInner { streams with output := .output } fuel body
          let written := collected (← get).output
          modify fun machine => { machine with output := before }
          let text := ((Bytes.toText? written).getD "").toList
          return [part quoted (trimNewlines text)]
      | .number expression quoted => do
          let text := textOf (← expression.mapM (expandPiece streams fuel)).flatten
          let machine ← get
          match evalArithmetic (variableNumber machine) text with
          | some value => return [part quoted (toString value).toList]
          | none => throw (.exit 2)
termination_by structural fuel _ => fuel

def patternText (streams : Streams) : (fuel : Nat) → List Piece → Shell (List (Char × Bool))
  | 0, _ => throw .timedOut
  | fuel + 1, pieces => do
      let texts ← pieces.mapM fun piece => do
        let quoted := match piece with
          | .plain _ quoted | .parameter _ quoted | .substitute _ _ _ quoted
          | .shorten _ _ _ _ quoted | .output _ quoted | .number _ quoted => quoted
          | .size _ => true
        return (textOf (← expandPiece streams fuel piece)).map fun c => (c, quoted)
      return texts.flatten
termination_by structural fuel _ => fuel

def expandText (streams : Streams) : (fuel : Nat) → List Piece → Shell String
  | 0, _ => throw .timedOut
  | fuel + 1, word => do
      return String.ofList (textOf (← word.mapM (expandPiece streams fuel)).flatten)
termination_by structural fuel _ => fuel

def expandWords (streams : Streams) : (fuel : Nat) → List (List Piece) → Shell (List String)
  | 0, _ => throw .timedOut
  | fuel + 1, words => do
      let fields ← words.mapM fun word => do
        return fieldsOf (← word.mapM (expandPiece streams fuel)).flatten
      return fields.flatten
termination_by structural fuel _ => fuel

def runInner (streams : Streams) : (fuel : Nat) → List Step → Shell Unit
  | 0, _ => throw .timedOut
  | fuel + 1, body => do
      let before ← get
      tryCatch (runSteps streams false fuel body) fun
        | .exit status => modify fun machine => { machine with status }
        | stop => throw stop
      modify fun machine => { machine with
        bindings := before.bindings, arguments := before.arguments,
        files := { machine.files with here := before.files.here }, strict := before.strict }
termination_by structural fuel _ => fuel

def applyRedirects (streams : Streams) (line : Nat) :
    (fuel : Nat) → List Redirect → Shell (Option Streams)
  | 0, _ => throw .timedOut
  | _ + 1, [] => return some streams
  | fuel + 1, .mk descriptor direction word :: rest => do
      let path ← expandText streams fuel word
      match direction with
      | .duplicate =>
          let target := if path == "1" then streams.output
            else if path == "2" then streams.errors else .nowhere
          let streams := if descriptor = 2 then { streams with errors := target }
            else { streams with output := target }
          applyRedirects streams line fuel rest
      | .read =>
          match ← readFile streams path with
          | .ok content => applyRedirects { streams with input := content } line fuel rest
          | .error cause => do
              let reason := match cause with
                | .file ⟨.missing, _⟩ => "No such file"
                | cause => reasonText cause
              report streams line s!"cannot open {path}: {reason}"
              return none
      | direction =>
          match ← openTarget direction path with
          | .ok target =>
              let streams := if descriptor = 2 then { streams with errors := target }
                else { streams with output := target }
              applyRedirects streams line fuel rest
          | .error cause => do
              let reason := openReason cause
              report streams line s!"cannot create {path}: {reason}"
              return none
termination_by structural fuel _ => fuel

def runText (streams : Streams) : (fuel : Nat) → String → String → List String → Shell Nat
  | 0, _, _, _ => throw .timedOut
  | fuel + 1, name, text, arguments => do
      match read text with
      | none => do
          emitText streams.errors (name ++ ": 1: Syntax error\n")
          return 2
      | some steps => do
          let before ← get
          modify fun machine => { machine with name, arguments, strict := false }
          runInner streams fuel steps
          modify fun machine => { machine with name := before.name, arguments := before.arguments }
          return (← get).status
termination_by structural fuel _ _ _ => fuel

def runSystem (streams : Streams) (line : Nat) :
    (fuel : Nat) → String → List String → Shell Nat
  | 0, _, _ => throw .timedOut
  | fuel + 1, program, arguments => do
      if program == "env" then
        match arguments with
        | inner :: rest => runProgram streams line fuel inner rest
        | [] => return 0
      else if shells.contains program then
        match shellScript (← get) arguments with
        | some (name, text, rest) => runText streams fuel name text rest
        | none => return 127
      else
        match systemUtilities.find? fun entry => entry.1 == program with
        | some entry => entry.2 streams arguments
        | none => return 127
termination_by structural fuel _ _ => fuel

def runProgram (streams : Streams) (line : Nat) :
    (fuel : Nat) → String → List String → Shell Nat
  | 0, _, _ => throw .timedOut
  | fuel + 1, name, arguments => do
      let machine ← get
      match findProgram machine name with
      | .own utility => utility streams arguments
      | .system program => runSystem streams line fuel program arguments
      | .script path =>
          match machine.files.read (Path.ofText path) with
          | .ok content => runText streams fuel path ((Bytes.toText? content).getD "") arguments
          | .error _ => return 126
      | .missing => do
          report streams line s!"{name}: not found"
          return 127
      | .forbidden => do
          report streams line s!"{name}: Permission denied"
          return 126
termination_by structural fuel _ _ => fuel

def runWords (streams : Streams) (line : Nat) : (fuel : Nat) → List String → Shell Nat
  | 0, _ => throw .timedOut
  | fuel + 1, words =>
      match words with
      | [] => return 0
      | "exit" :: rest => do
          let status := (← get).status
          throw (.exit ((rest.head?.bind String.toNat?).getD status % 256))
      | "return" :: rest => do
          let status := (← get).status
          throw (.exit ((rest.head?.bind String.toNat?).getD status % 256))
      | "break" :: rest => throw (.leave ((rest.head?.bind String.toNat?).getD 1) false)
      | "continue" :: rest => throw (.leave ((rest.head?.bind String.toNat?).getD 1) true)
      | "exec" :: [] => return 0
      | "exec" :: rest => do
          let status ← runWords streams line fuel rest
          throw (.exit status)
      | "command" :: rest => runWords streams line fuel rest
      | "eval" :: rest => do
          match read (" ".intercalate rest) with
          | some steps => do
              runSteps streams false fuel steps
              return (← get).status
          | none => throw (.exit 2)
      | "shift" :: rest => do
          let count := (rest.head?.bind String.toNat?).getD 1
          modify fun machine => { machine with arguments := machine.arguments.drop count }
          return 0
      | "set" :: "--" :: rest => do
          modify fun machine => { machine with arguments := rest }
          return 0
      | "set" :: options => do
          if options.any fun option => option.toList.head? == some '-' && option.toList.contains 'e'
          then modify fun machine => { machine with strict := true }
          return 0
      | "unset" :: names => do
          modify fun machine => { machine with
            bindings := machine.bindings.filter fun entry => !names.contains entry.1 }
          return 0
      | "export" :: names => do
          for name in names do
            match assignmentName? name.toList with
            | some (key, value) => assign key (String.ofList value)
            | none => pure ()
          return 0
      | "cd" :: rest => do
          let path := Path.ofText (rest.headD "/")
          match (← get).files.isDirectory path, (← get).files.resolve path with
          | .ok true, .ok place => do
              modify fun machine => { machine with files := { machine.files with here := place } }
              return 0
          | _, _ => do
              let target := rest.headD ""
              report streams line s!"cd: can't cd to {target}"
              return 2
      | "kill" :: signal :: _ :: _ =>
          throw (.killed (if signal == "-TERM" then 15 else if signal == "-KILL" then 9
            else countOf signal))
      | "kill" :: _ => throw (.killed 15)
      | name :: arguments => runProgram streams line fuel name arguments
termination_by structural fuel _ => fuel

def runLoop (streams : Streams) (whileTrue : Bool) (condition body : List Step) :
    (fuel : Nat) → Shell Unit
  | 0 => throw .timedOut
  | fuel + 1 => do
      runSteps streams true fuel condition
      if ((← get).status == 0) == whileTrue then
        let goesOn ← runRound streams fuel body
        if goesOn then runLoop streams whileTrue condition body fuel
      else modify fun machine => { machine with status := 0 }
termination_by structural fuel => fuel

def runRound (streams : Streams) : (fuel : Nat) → List Step → Shell Bool
  | 0, _ => throw .timedOut
  | fuel + 1, body =>
      tryCatch (do runSteps streams false fuel body; return true) fun
        | .leave loops again =>
            if loops ≤ 1 then return again else throw (.leave (loops - 1) again)
        | stop => throw stop
termination_by structural fuel _ => fuel

def runEach (streams : Streams) (name : String) (body : List Step) :
    (fuel : Nat) → List String → Shell Unit
  | 0, _ => throw .timedOut
  | _ + 1, [] => return ()
  | fuel + 1, value :: rest => do
      assign name value
      if ← runRound streams fuel body then runEach streams name body fuel rest
termination_by structural fuel _ => fuel

def runBranches (streams : Streams) (otherwise : List Step) :
    (fuel : Nat) → List (List Step × List Step) → Shell Unit
  | 0, _ => throw .timedOut
  | fuel + 1, [] => do
      modify fun machine => { machine with status := 0 }
      runSteps streams false fuel otherwise
  | fuel + 1, (condition, body) :: rest => do
      runSteps streams true fuel condition
      if (← get).status == 0 then runSteps streams false fuel body
      else runBranches streams otherwise fuel rest
termination_by structural fuel _ => fuel

def runArms (streams : Streams) (text : List Char) :
    (fuel : Nat) → List (List (List Piece) × List Step) → Shell Unit
  | 0, _ => throw .timedOut
  | _ + 1, [] => modify fun machine => { machine with status := 0 }
  | fuel + 1, (patterns, body) :: rest => do
      let atoms ← patterns.mapM fun pattern => do
        return patternOf (← patternText streams fuel pattern)
      if atoms.any fun pattern => isMatch pattern text then do
        modify fun machine => { machine with status := 0 }
        runSteps streams false fuel body
      else runArms streams text fuel rest
termination_by structural fuel _ => fuel

/-- A simple command; assignments in front of a program hold only while it runs. -/
def runSimple (streams : Streams) (line : Nat) (assignments : List (String × List Piece)) :
    (fuel : Nat) → List (List Piece) → Shell Unit
  | 0, _ => throw .timedOut
  | fuel + 1, words => do
      let words ← expandWords streams fuel words
      let before := (← get).bindings
      if words.isEmpty then modify fun machine => { machine with status := 0 }
      for entry in assignments do assign entry.1 (← expandText streams fuel entry.2)
      if !words.isEmpty then
        let status ← runWords streams line fuel words
        modify fun machine => { machine with status }
        if !assignments.isEmpty then
          modify fun machine => { machine with bindings := before }
termination_by structural fuel _ => fuel

def runCommand (streams : Streams) : (fuel : Nat) → Command → Shell Unit
  | 0, _ => throw .timedOut
  | fuel + 1, command =>
      match command with
      | .simple line assignments words => runSimple streams line assignments fuel words
      | .group body => runSteps streams false fuel body
      | .subshell body => runInner streams fuel body
      | .choose branches otherwise => runBranches streams otherwise fuel branches
      | .loop whileTrue condition body => runLoop streams whileTrue condition body fuel
      | .each name words body => do
          let values ← match words with
            | some words => expandWords streams fuel words
            | none => do pure (← get).arguments
          modify fun machine => { machine with status := 0 }
          runEach streams name body fuel values
      | .case word arms => do
          let text ← expandText streams fuel word
          runArms streams text.toList fuel arms
      | .redirected line command redirects => do
          match ← applyRedirects streams line fuel redirects with
          | some inner => runCommand inner fuel command
          | none => modify fun machine => { machine with status := 2 }
termination_by structural fuel _ => fuel

def runPiped (streams : Streams) : (fuel : Nat) → List Command → Shell Unit
  | 0, _ => throw .timedOut
  | _ + 1, [] => return ()
  | fuel + 1, [last] => runCommand streams fuel last
  | fuel + 1, first :: second :: rest => do
      let before := (← get).output
      modify fun machine => { machine with output := [] }
      runCommand { streams with output := .output } fuel first
      let written := collected (← get).output
      modify fun machine => { machine with output := before }
      runPiped { streams with input := written } fuel (second :: rest)
termination_by structural fuel _ => fuel

def runPipeline (streams : Streams) : (fuel : Nat) → Pipeline → Shell Unit
  | 0, _ => throw .timedOut
  | fuel + 1, .mk negated commands => do
      runPiped streams fuel commands
      if negated then
        modify fun machine => { machine with status := if machine.status = 0 then 1 else 0 }
termination_by structural fuel _ => fuel

def runOthers (streams : Streams) : (fuel : Nat) → List (Bool × Pipeline) → Shell Unit
  | 0, _ => throw .timedOut
  | _ + 1, [] => return ()
  | fuel + 1, (afterSuccess, pipeline) :: rest => do
      if ((← get).status == 0) == afterSuccess then runPipeline streams fuel pipeline
      runOthers streams fuel rest
termination_by structural fuel _ => fuel

/-- Step after step. A failing one ends a strict script unless its status is looked at. -/
def runSteps (streams : Streams) (tested : Bool) : (fuel : Nat) → List Step → Shell Unit
  | 0, _ => throw .timedOut
  | _ + 1, [] => return ()
  | fuel + 1, .mk first others :: rest => do
      runPipeline streams fuel first
      runOthers streams fuel others
      let machine ← get
      let isNegated := match first with
        | .mk negated _ => negated
      if machine.strict && !tested && !isNegated && others.isEmpty && machine.status != 0 then
        throw (.exit machine.status)
      runSteps streams tested fuel rest
termination_by structural fuel _ => fuel

end

end DexGraft.Script
