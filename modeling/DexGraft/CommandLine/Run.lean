import DexGraft.CommandLine.Console
import DexGraft.CommandLine.Invocation
import DexGraft.CommandLine.Table
import DexGraft.Deflate.Encoder
import DexGraft.Files.Temporary
import DexGraft.Search.Pipeline
import DexGraft.Signing.Load
import DexGraft.Tool.Program

/-!
Carrying out a command. It tells whether it succeeded; faults that it has words
for go to the journal, all others end the run.
-/
namespace DexGraft.CommandLine

structure Surroundings where
  launcher : Tool.Launcher
  host : Host
  /-- Where temporary directories are made, if the environment is not to be asked. -/
  temporary : Option Path

def isOwn : Fault → Bool
  | .cause _ => false
  | _ => true

def isConfig : Fault → Bool
  | .config _ => true
  | _ => false

def reporting {α : Type} (caught : Fault → Bool) (action : Action α) : Action (Option α) :=
  tryCatch (some <$> action) fun fault =>
    if caught fault then do
      Action.log .error fault.message
      return none
    else throw fault

/-! Signing material: a key with certificates before a keystore, arguments before settings. -/

def material (order : PatchOrder) (settings : Settings) : Action Signer :=
  let given (text : Option String) := text.filter (· != "")
  match given order.key, given order.certificate with
  | some key, some certificate =>
      Signing.loadPair (Path.ofText key) (Path.ofText certificate) order.keyPass order.signerName
  | none, none =>
      match ((given order.keystore).map Path.ofText) <|> settings.keystore with
      | none => throw (.config .noMaterial)
      | some keystore =>
          let password := order.keystorePass <|> settings.keystorePass
          let wanted := given order.keyAlias <|> settings.keyAlias
          Signing.loadKeystore keystore password wanted order.signerName
  | _, _ => throw (.config .keyWithoutCertificate)

/-- Settings, patch and signing material of an order. -/
def prepare (surroundings : Surroundings) (envFile : Option String) (order : PatchOrder) :
    Action (Settings × Patch × Signer) := do
  let settings ← Settings.load surroundings.host envFile
  let patch ← match order.spec.filter (· != "") with
    | some spec => Patch.ofFile (Path.ofText spec)
    | none => pure Patch.builtin
  return (settings, patch, ← material order settings)

def pipeline (surroundings : Surroundings) (order : PatchOrder) (settings : Settings)
    (patch : Patch) : Search.Pipeline where
  setting :=
    { toolbox := Tool.toolbox surroundings.launcher settings, disk := Smali.Disk.plain, patch
      progress := Action.info }
  minSdk := order.minSdk.getD settings.minSdk
  temporaryRoot := settings.tempRoot
  keepUnsigned := order.keepUnsigned
  deflate := Deflate.deflate

def conclude (report : Search.Report) : Action Bool := do
  let message := report.message
  match report.output? with
  | some output =>
      if report.isSuccess then
        Action.log .success (s!"{message}: " ++ output.text)
  | none => pure ()
  if !report.isSuccess then
    let cause := (report.cause?.map (·.name)).getD "failed"
    Action.log .error s!"{cause}: {message}"
    match report.unsignedOutput? with
    | some kept => Action.info ("Unsigned output: " ++ kept.text)
    | none => pure ()
  return report.isSuccess

def patch (surroundings : Surroundings) (envFile : Option String) (order : PatchOrder) :
    Action Bool := do
  let apk := Path.ofText order.apk
  if !(← Action.ask fun files => files.isFile apk) then
    Action.log .error ("APK not found: " ++ apk.text)
    return false
  match ← reporting isConfig (prepare surroundings envFile order) with
  | none => return false
  | some (settings, patch, signer) =>
      let size := Apk.kilobytes (← Action.fileSize apk)
      Action.info ("Archive : " ++ apk.name ++ s!"  ({size})")
      Action.info ("Class   : " ++ patch.targetClass)
      Action.info ("Method  : " ++ patch.signature)
      modify fun session => { session with
        temporary := surroundings.temporary.getD
          (temporaryRoot session.files session.environment) }
      let work := pipeline surroundings order settings patch
      conclude (← work.run apk (Path.ofText order.output) [signer])

def images (apk : Path) : Action Bool := do
  match ← reporting isOwn (Apk.select apk) with
  | none => return false
  | some images =>
      for image in images do
        Action.print ("  " ++ left 20 image.entry ++ " priority " ++ toString image.priority)
      return true

def inspect (apk : Path) : Action Bool := do
  let reading := do
    let entries ← Apk.layout apk Apk.defaultAlignment
    return (entries, ← Apk.names apk)
  match ← reporting isOwn reading with
  | none => return false
  | some (entries, names) =>
      let size ← Action.fileSize apk
      for line in table apk.name size names.length entries do Action.print line
      for issue in ← Apk.verify apk Apk.defaultAlignment do
        Action.log .warning s!"  ✗ {issue}"
      return true

def verify (surroundings : Surroundings) (envFile : Option String) : Action Bool := do
  match ← reporting isConfig (Settings.load surroundings.host envFile) with
  | none => return false
  | some settings =>
      let session ← get
      let tools ← Action.ofExcept (Tool.checkTools session.files session.environment settings)
      for (name, place) in tools do
        match place.filter (· != "") with
        | some place => Action.log .success (left 10 name ++ s!" at {place}")
        | none => Action.log .error (left 10 name ++ " not found")
      return tools.all fun tool => (tool.2.filter (· != "")).isSome

def carryOut (surroundings : Surroundings) (invocation : Invocation) : Action Bool :=
  match invocation.command with
  | .patch order => patch surroundings invocation.envFile order
  | .images apk => images (Path.ofText apk)
  | .inspect apk => inspect (Path.ofText apk)
  | .verify => verify surroundings invocation.envFile

end DexGraft.CommandLine
