import DexGraft.Patch
import DexGraft.Settings.EnvFile
import DexGraft.Text.Number

/-!
Where the tools are, how they are run, and how the result is signed, as far as
the environment says so. An empty value counts as none, except for passwords
and the alias.
-/
namespace DexGraft

structure Settings where
  binDir : Path
  baksmaliJar : Path
  smaliJar : Path
  java : String
  apksigner : Option String
  api : String
  minSdk : Int
  jobs : Int
  timeout : Int
  keystore : Option Path
  keystorePass : Option String
  keyAlias : Option String
  keyPass : Option String
  tempRoot : Option Path

/-- What the environment does not say: where the program is and on how many processors it runs. -/
structure Host where
  home : Path
  processors : Nat

def defaultApi : String := "35"
def defaultMinSdk : Int := 21
def defaultTimeout : Int := 600
def defaultJava : String := "java"

def Host.binDir (host : Host) : Path :=
  host.home / "bin"

namespace Settings

def baksmaliIn (binDir : Path) : Path := binDir / "baksmali.jar"
def smaliIn (binDir : Path) : Path := binDir / "smali.jar"

def filled? (environment : Environment) (key : String) : Option String :=
  (environment.get? key).filter (· != "")

def integer (environment : Environment) (key : String) (default : Int) : Except ConfigFault Int :=
  match filled? environment key with
  | none => .ok default
  | some text =>
      match Text.readInteger text.toList with
      | some value => .ok value
      | none => .error (.notInteger key text)

def ofEnvironment (host : Host) (environment : Environment) : Except ConfigFault Settings := do
  let path? (key : String) := (filled? environment key).map Path.ofText
  let minSdk ← integer environment "MIN_SDK" defaultMinSdk
  let jobs ← integer environment "JOBS" host.processors
  let timeout ← integer environment "TOOL_TIMEOUT" defaultTimeout
  let binDir := (path? "BIN_DIR").getD host.binDir
  return {
    binDir
    baksmaliJar := (path? "BAKSMALI_JAR").getD (baksmaliIn binDir)
    smaliJar := (path? "SMALI_JAR").getD (smaliIn binDir)
    java := (filled? environment "JAVA").getD defaultJava
    apksigner := filled? environment "APKSIGNER"
    api := (filled? environment "DEX_API").getD defaultApi
    minSdk, jobs, timeout
    keystore := path? "KEYSTORE"
    keystorePass := environment.get? "KEYSTORE_PASS"
    keyAlias := environment.get? "KEY_ALIAS"
    keyPass := environment.get? "KEY_PASS"
    tempRoot := path? "APKSURGEON_TMP" }

def load (host : Host) (envFile : Option String) : Action Settings := do
  EnvFile.load envFile
  Patch.configured (ofEnvironment host (← get).environment)

end Settings
end DexGraft
