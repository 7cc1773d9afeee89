import DexGraft.Settings.Basic
import DexGraft.Tool.Version

/-!
Where the tools are: on the search path, in the bin directory, or among the
build tools of an Android SDK, the newest version first.
-/
namespace DexGraft.Tool

open Text

def executeBits : Nat := 0o111

def isProgram (files : Files) (path : String) : Bool :=
  match files.find (Path.ofText path) with
  | .ok (.file _ mode) => mode &&& executeBits != 0 && path.toList.getLast? != some '/'
  | _ => false

def defaultSearchPath : String := "/bin:/usr/bin"

/-- The search path as the places it names; an empty one names none. -/
def searchPlaces (environment : Environment) : List String :=
  let path := (environment.get? "PATH").getD defaultSearchPath
  if path == "" then [] else (splitAt ':' path.toList).map String.ofList

def joinText (place name : String) : String :=
  if place == "" || place.toList.getLast? == some '/' then place ++ name
  else place ++ "/" ++ name

/-- A program by its name on the search path; a name with a slash is looked up as it is. -/
def onSearchPath (files : Files) (environment : Environment) (name : String) : Option String :=
  if name.toList.contains '/' then if isProgram files name then some name else none
  else
    ((searchPlaces environment).map fun place => joinText place name).find? (isProgram files)

def isExecutableFile (files : Files) (path : Path) : Except Cause Bool := do
  return (← files.isFile path) && isProgram files path.text

def firstExecutable (files : Files) : List Path → Except Cause (Option String)
  | [] => .ok none
  | path :: rest => do
      if ← isExecutableFile files path then return some path.text
      firstExecutable files rest

def buildTools (files : Files) (sdk : Path) : Except Cause (List Path) := do
  let root := sdk / "build-tools"
  if !(← files.isDirectory root) then return []
  let place ← files.resolve root
  let names := files.namesIn place
  let keyed ← names.mapM fun name => do return (← versionKey name, name)
  return (newestFirst Prod.fst keyed).map fun version => root / version.2

def inSdks (files : Files) (name : String) : List Path → Except Cause (Option String)
  | [] => .ok none
  | sdk :: rest => do
      let versions ← buildTools files sdk
      match ← firstExecutable files (versions.map (· / name)) with
      | some found => return some found
      | none => inSdks files name rest

def sdkVariables : List String := ["ANDROID_HOME", "ANDROID_SDK_ROOT"]

def sdks (environment : Environment) (binDir : Option Path) : List Path :=
  (binDir.map (· / "android-sdk")).toList ++
    sdkVariables.filterMap fun key => (Settings.filled? environment key).map Path.ofText

def findTool (files : Files) (environment : Environment) (name : String)
    (binDir : Option Path) : Except Cause (Option String) := do
  match onSearchPath files environment name with
  | some found => return some found
  | none =>
      match ← firstExecutable files (binDir.map (· / name)).toList with
      | some found => return some found
      | none => inSdks files name (sdks environment binDir)

def signerName : String := "apksigner"

def signerProgram (files : Files) (environment : Environment) (settings : Settings) :
    Except Cause (Option String) :=
  match settings.apksigner.filter (· != "") with
  | some program => .ok (some program)
  | none => findTool files environment signerName (some settings.binDir)

def jarIfPresent (files : Files) (path : Path) : Except Cause (Option String) := do
  return if ← files.isFile path then some path.text else none

def checkTools (files : Files) (environment : Environment) (settings : Settings) :
    Except Cause (List (String × Option String)) := do
  let baksmali ← jarIfPresent files settings.baksmaliJar
  let smali ← jarIfPresent files settings.smaliJar
  let signer ← signerProgram files environment settings
  return [("java", onSearchPath files environment settings.java), ("baksmali", baksmali),
    ("smali", smali), (signerName, signer)]

end DexGraft.Tool
