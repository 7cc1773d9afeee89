import DexGraft.Search.Attempt
import DexGraft.Signing.KeyFiles
import DexGraft.Text.Break
import DexGraft.Tool.Find

/-!
The external programs behind a toolbox. A `Launcher` runs a program; its
failures, its exit status and its output are put into the words of the tool
that was to be run.
-/
namespace DexGraft.Tool

open Text

inductive Run
  | refused (cause : Cause)
  | timedOut
  | finished (status : Int) (output errors : Bytes)

abbrev Launcher :=
  (arguments : List String) → (timeout : Int) → Environment → Files → Run × Files

structure Finished where
  status : Int
  output : String
  errors : String

/-- Output as text, its line breaks unified. -/
def outputText (bytes : Bytes) : Action String :=
  match bytes.toText? with
  | some text => return String.ofList (unifyBreaks text.toList)
  | none => Action.raise .notUtf8

def launch (launcher : Launcher) (arguments : List String) (timeout : Int) :
    Action Finished := do
  if arguments.any fun argument => argument.toList.any (·.toNat == 0) then
    Action.raise .nulCharacter
  let session ← get
  let (run, files) := launcher arguments timeout session.environment session.files
  set { session with files, journal := session.journal ++ [Event.launched arguments] }
  match run with
  | .refused cause => Action.raise cause
  | .timedOut => Action.raise (.timedOut (arguments.headD "") timeout)
  | .finished status output errors =>
      return { status, output := ← outputText output, errors := ← outputText errors }

def isNotRun : Cause → Bool
  | .timedOut _ _ => true
  | cause => cause.isRefusal

def tailLength : Nat := 400

/-- The end of what a program wrote, its output before its errors. -/
def tailText (output errors : String) : String :=
  let parts := [output, errors].filter (· != "")
  let text := trim ("\n".intercalate parts).toList
  let tail := text.drop (text.length - tailLength)
  if tail.isEmpty then "No output" else String.ofList tail

def runTool (launcher : Launcher) (tool : String) (fault : String → Fault)
    (arguments : List String) (timeout : Int) : Action Finished :=
  (launch launcher arguments timeout).rewording isNotRun fun cause =>
    fault (s!"{tool} could not run: " ++ cause.message)

def failureText (tool : String) (finished : Finished) : String :=
  s!"{tool} failed (rc=" ++ toString finished.status ++ "):\n" ++
    tailText finished.output finished.errors

def smaliSuffix : List Char := ".smali".toList

/-- How many names below a directory end in the extension of disassembled classes. All directories
below have to be listed, by their paths. -/
def countSmali (files : Files) (directory : Path) : Except Cause Nat := do
  if !(← files.isDirectory directory) then return 0
  let below := files.below (← files.resolve directory)
  let inner := below.filterMap fun entry =>
    if entry.2 = .directory then some { directory with parts := directory.parts ++ entry.1 }
    else none
  match inner.find? fun path => Files.pathLimit ≤ path.text.utf8ByteSize with
  | some path => Files.refuse .nameTooLong path
  | none =>
      return (below.filter fun entry =>
        smaliSuffix.isSuffixOf (entry.1.getLastD "").toList).length

def jarCommand (settings : Settings) (jar : Path) (verb : String) (source output : Path) :
    List String :=
  [settings.java, "-jar", jar.text, verb, "-a", settings.api, "-j", toString settings.jobs,
    source.text, "-o", output.text]

def disassemble (launcher : Launcher) (settings : Settings) (image output : Path) :
    Action Unit := do
  let command := jarCommand settings settings.baksmaliJar "d" image output
  let finished ← runTool launcher "baksmali" .disassembly command settings.timeout
  if finished.status ≠ 0 then throw (.disassembly (failureText "baksmali" finished))
  let count ← Action.ask fun files => countSmali files output
  Action.info ("    baksmali: " ++ toString count ++ " smali files")

def assemble (launcher : Launcher) (settings : Settings) (source output : Path) :
    Action Unit := do
  let command := jarCommand settings settings.smaliJar "a" source output
  let finished ← runTool launcher "smali" .assembly command settings.timeout
  let isMade ← if finished.status ≠ 0 then pure false
    else Action.ask fun files => files.isFile output
  if !isMade then throw (.assembly (failureText "smali" finished))
  let size := Apk.kilobytes (← Action.fileSize output)
  Action.info s!"    smali output: {size}"

def isUnwritableKey : Cause → Bool
  | .file _ | .nulCharacter | .notUtf8 | .numeral _ | .noFileName | .badData _ | .wrongKind _ =>
      true
  | _ => false

/-- The arguments that name a signer, after a mark that parts it from the one before. -/
def signerArguments (directory : Path) (entry : Signer) (index : Nat) : Action (List String) := do
  let writing := Signing.writeFiles entry directory index
  let (key, certificates) ← writing.rewording isUnwritableKey fun cause =>
    .signing ("cannot write key material for " ++ entry.name ++ ": " ++ cause.message)
  let mark := if index = 0 then [] else ["--next-signer"]
  return mark ++
    ["--v1-signer-name", entry.name, "--key", key.text, "--cert", certificates.text]

def signWith (launcher : Launcher) (settings : Settings) (program : String) (directory : Path)
    (unsigned output : Path) (material : List Signer) (minSdk : Int) : Action Unit := do
  let signers ← material.zipIdx.mapM fun entry => signerArguments directory entry.1 entry.2
  let command := [program, "sign", "--min-sdk-version", toString minSdk] ++ signers.flatten ++
    ["--out", output.text, unsigned.text]
  let finished ← runTool launcher signerName .signing command settings.timeout
  if finished.status ≠ 0 then throw (.signing (failureText signerName finished))

def sign (launcher : Launcher) (settings : Settings) (unsigned output : Path)
    (material : List Signer) (minSdk : Int) : Action Unit := do
  if material.isEmpty then throw (.signing "no signer material supplied")
  let environment := (← get).environment
  match ← Action.ask fun files => signerProgram files environment settings with
  | none => throw (.signing "apksigner not found (set APKSIGNER or ANDROID_HOME)")
  | some program =>
      let making := Action.makeTemporary (← get).temporary "apksurgeon_keys_"
      let directory ← making.rewording Cause.isRefusal fun cause =>
        .signing ("cannot create key directory: " ++ cause.message)
      (signWith launcher settings program directory unsigned output material minSdk).ensuring
        (Action.clearTree directory)

def toolbox (launcher : Launcher) (settings : Settings) : Search.Toolbox where
  disassemble := disassemble launcher settings
  assemble := assemble launcher settings
  sign := sign launcher settings

end DexGraft.Tool
