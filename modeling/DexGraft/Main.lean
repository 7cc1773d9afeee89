import DexGraft.CommandLine.Run
import DexGraft.CommandLine.Usage
import DexGraft.Files.Difference
import DexGraft.Script.Launch
import Std.Time.Zoned

/-!
The program on a real system: the files that a run may look at are read, the
run is carried out on them, and what it wrote, made and removed is done again
outside.
-/
namespace DexGraft.Main

def depthLimit : Nat := 64

def modeOf (content : Bytes) : Nat :=
  if content.take 2 == [35, 33] then 0o755 else 0o644

/-- What stands at a place and below it; what cannot be read is left out. -/
def nodesAt (place : Place) : (depth : Nat) → IO (List (Place × Node))
  | 0 => return []
  | depth + 1 =>
      let reading : IO (List (Place × Node)) := do
        let path ← IO.FS.realPath (Path.mk 1 place).text
        match (← path.metadata).type with
        | .dir =>
            let below ← (← path.readDir).toList.mapM fun entry =>
              nodesAt (place ++ [entry.fileName]) depth
            return (place, .directory) :: below.flatten
        | .file =>
            let content := (← IO.FS.readBinFile path).toList
            return [(place, .file content (modeOf content))]
        | _ => return []
      tryCatch reading fun _ => return []

def nodeAt (place : Place) : IO (List (Place × Node)) := do
  let path ← tryCatch (some <$> IO.FS.realPath (Path.mk 1 place).text) fun _ => return none
  match path with
  | some path => if ← path.isDir then return [(place, .directory)] else nodesAt place 1
  | none => return []

def variableNames : List String :=
  ["MIN_SDK", "JOBS", "TOOL_TIMEOUT", "BIN_DIR", "BAKSMALI_JAR", "SMALI_JAR", "JAVA", "APKSIGNER",
    "DEX_API", "KEYSTORE", "KEYSTORE_PASS", "KEY_ALIAS", "KEY_PASS", "APKSURGEON_TMP", "PATH"] ++
    Tool.sdkVariables ++ temporaryVariables ++ [EnvFile.switch]

def environment : IO Environment := do
  let found ← variableNames.mapM fun name => do
    return (← IO.getEnv name).map fun text => (name, text)
  return found.filterMap id

def mentioned (here : Place) (texts : List String) : List Place :=
  let values := texts.flatMap fun text => [text, String.ofList ((text.toList.dropWhile
    (· != '=')).drop 1)]
  (values.filter (· != "")).map fun text => (absolute ⟨[], here⟩ (Path.ofText text)).parts

def programPlaces (environment : Environment) : List Place :=
  (Tool.searchPlaces environment).flatMap fun place =>
    [defaultJava, Tool.signerName].map fun name => (Path.ofText (Tool.joinText place name)).parts

def addNodes (files : Files) (nodes : List (Place × Node)) : Files :=
  nodes.foldl (fun files entry => files.put entry.1 entry.2) files

def above (place : Place) : List Place :=
  ((List.range place.length).map fun count => place.take count).filter (· != [])

/-- The files that a run with these arguments may look at. -/
def gather (arguments : List String) (environment : Environment) (here home : Place) :
    IO Files := do
  let start : Files := addNodes ⟨[], here⟩ Script.systemFiles
  let spoken := mentioned here (arguments ++ environment.map (·.2))
  let whole := here :: (home ++ ["bin"]) :: spoken.filter (1 < ·.length)
  let single := (here :: whole).flatMap above ++ spoken ++ programPlaces environment ++
    (above here).map (· ++ [EnvFile.fileName]) ++ customaryPlaces.map fun place =>
      (Path.ofText place).parts
  let nodes ← single.mapM nodeAt
  let below ← whole.mapM fun place => nodesAt place depthLimit
  return addNodes start (nodes.flatten ++ below.flatten)

def store (before after : Files) : IO Unit := do
  for place in before.removedBelow after [] do IO.FS.removeFile (Path.mk 1 place).text
  for place in before.madeBelow after [] do IO.FS.createDirAll (Path.mk 1 place).text
  for (place, content) in before.writtenBelow after [] do
    IO.FS.writeBinFile (Path.mk 1 place).text content.toByteArray

def calendar (now : Std.Time.PlainDateTime) : Zip.Calendar where
  year := now.date.year
  month := now.date.month.val
  day := now.date.day.val
  hour := now.time.hour.val
  minute := now.time.minute.val
  second := now.time.second.val

def padded (width : Nat) (value : Int) : String :=
  let digits := toString value
  String.ofList (List.replicate (width - digits.length) '0') ++ digits

def timeText (moment : Zip.Calendar) (milliseconds : Int) : String :=
  "-".intercalate [padded 4 moment.year, padded 2 moment.month, padded 2 moment.day] ++ " " ++
    ":".intercalate [padded 2 moment.hour, padded 2 moment.minute, padded 2 moment.second] ++
    "," ++ padded 3 milliseconds

def processors : Nat := 4

def run (arguments : List String) (invocation : CommandLine.Invocation) : IO UInt32 := do
  let here := (Path.ofText (← IO.currentDir).toString).parts
  let home := (Path.ofText (← IO.appPath).toString).parent
  let environment ← environment
  let files ← gather arguments environment here home.parts
  let now ← Std.Time.PlainDateTime.now
  let moment := calendar now
  let session : Session := { files, journal := [], clock := moment.toStamp, environment,
                             temporary := temporaryRoot files environment }
  let surroundings : CommandLine.Surroundings := ⟨Script.launcher, ⟨home, processors⟩, none⟩
  let (outcome, after) := (CommandLine.carryOut surroundings invocation).run session
  store files after.files
  let time := timeText moment (now.time.nanosecond.val / 1000000)
  IO.print (CommandLine.printedText after)
  IO.eprint (CommandLine.journalText invocation.verbose time after)
  match outcome with
  | .ok true => return 0
  | .ok false => return 1
  | .error fault => do
      IO.eprintln fault.message
      return 1

end DexGraft.Main

def main (arguments : List String) : IO UInt32 :=
  match DexGraft.CommandLine.Request.ofArguments arguments with
  | .run invocation => DexGraft.Main.run arguments invocation
  | .usage status => do
      IO.print DexGraft.CommandLine.usageText
      return status.toUInt32
  | .misuse => do
      IO.eprint DexGraft.CommandLine.usageText
      return 2
