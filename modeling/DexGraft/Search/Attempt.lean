import DexGraft.Apk.Archive
import DexGraft.Patch
import DexGraft.Smali.ClassPath
import DexGraft.Smali.Rewrite

/-!
One image tried: extracted, disassembled, its class patched, and assembled
again. An attempt either ends with the patched image in the place of the
extracted one, or says why the image is not the one to patch.
-/
namespace DexGraft.Search

structure Toolbox where
  disassemble : (image output : Path) → Action Unit
  assemble : (source output : Path) → Action Unit
  sign : (unsigned output : Path) → (material : List Signer) → (minSdk : Int) → Action Unit

inductive Reason
  | classNotFound
  | methodNotFound
  | disassemblyError
  | assemblyError
  deriving DecidableEq

def Reason.name : Reason → String
  | .classNotFound => "ClassNotFound"
  | .methodNotFound => "MethodNotFound"
  | .disassemblyError => "DisassemblyError"
  | .assemblyError => "AssemblyError"

inductive Outcome
  | promoted (path : Path)
  | failed (reason : Reason) (detail : String)
  deriving DecidableEq

structure Attempt where
  image : Apk.Image
  outcome : Outcome
  deriving DecidableEq

def Attempt.isPatched (attempt : Attempt) : Bool :=
  match attempt.outcome with
  | .promoted _ => true
  | .failed _ _ => false

def Attempt.reason? (attempt : Attempt) : Option Reason :=
  match attempt.outcome with
  | .promoted _ => none
  | .failed reason _ => some reason

/-- What an attempt depends on besides the image. -/
structure Setting where
  toolbox : Toolbox
  reader : Zip.Reader := Zip.plainReader
  disk : Smali.Disk
  patch : Patch
  /-- Tells the user how far the work is. -/
  progress : String → Action Unit

/-- Moves a file, by copying if it cannot be moved. -/
def moveFile (source target : Path) : Action Unit :=
  tryCatch (Action.change fun files => files.rename source target) fun
    | .cause (.file _) => do
        let content ← Action.ask fun files => files.read source
        Action.change fun files => files.write target content
        Action.change fun files => files.remove source
    | fault => throw fault

def promote (source target : Path) : Action Unit := do
  match ← Action.ask fun files => files.find? target with
  | some _ => Action.change fun files => files.remove target
  | none => pure ()
  moveFile source target

def imageName (image : Apk.Image) : String :=
  (Path.ofText image.entry).name

/-- Runs the disassembler; its refusal is an outcome and no fault. -/
def disassembled (setting : Setting) (image : Apk.Image) (extracted tree : Path) :
    Action (Option Outcome) := do
  let name := image.entry
  setting.progress s!"Disassembling {name}"
  let content ← Action.ask fun files => files.read extracted
  Action.record (.disassembled extracted.name content)
  tryCatch (do setting.toolbox.disassemble extracted tree; return none) fun
    | .disassembly text => do
        Action.log .error s!"  {name}: disassembly failed: {text}"
        setting.progress s!"Error disassembling {name}: {text}"
        return some (.failed .disassemblyError text)
    | fault => throw fault

def isUnwritable : Cause → Bool
  | .notUtf8 => true
  | cause => cause.isRefusal

def patched (setting : Setting) (image : Apk.Image) (tree : Path) : Action (Option Outcome) := do
  let name := image.entry
  let target := setting.patch.targetClass
  match ← Action.ask fun files => Smali.locate files tree target with
  | none =>
      Action.info s!"  {name}: target class {target} not present"
      setting.progress s!"Target class not found in {name}"
      return some (.failed .classNotFound "")
  | some file =>
      let fileName := file.name
      setting.progress s!"Found target class file: {fileName}"
      let rewriting := Smali.replace setting.disk file setting.patch.signature
        setting.patch.replacement Smali.endMarker
      let replaced ← rewriting.rewording isUnwritable fun cause => .io (.rewrite file.text cause)
      if replaced then
        setting.progress s!"Method replaced in {fileName}"
        return none
      else
        setting.progress s!"Target method not found in class {fileName} ({name})"
        return some (.failed .methodNotFound "")

def reassembled (setting : Setting) (image : Apk.Image) (tree rebuilt : Path) :
    Action (Option Outcome) := do
  let name := image.entry
  let rebuiltName := rebuilt.name
  setting.progress s!"Reassembling smali to {rebuiltName}"
  Action.record (.assembled rebuiltName)
  tryCatch (do setting.toolbox.assemble tree rebuilt; return none) fun
    | .assembly text => do
        Action.log .error s!"  {name}: reassembly failed: {text}"
        setting.progress s!"Error reassembling {name}: {text}"
        return some (.failed .assemblyError text)
    | fault => throw fault

def promoted (setting : Setting) (image : Apk.Image) (tree rebuilt extracted : Path) :
    Action Outcome := do
  let name := image.entry
  let moving : Action Unit := do
    promote rebuilt extracted
    Action.clearTree tree
  moving.rewording Cause.isRefusal fun cause => .io (.replaceImage extracted.name cause)
  let size := Apk.kilobytes (← Action.fileSize extracted)
  Action.log .success s!"  ✓ {name} patched ({size})"
  setting.progress s!"{name} successfully modified"
  return .promoted extracted

/-- Tries one image inside a scratch directory that is there and empty. -/
def attempt (setting : Setting) (archive : Path) (image : Apk.Image) (scratch : Path) :
    Action Attempt := do
  let name := image.entry
  let extracted := scratch / imageName image
  let size := Apk.kilobytes (← Apk.extract archive name extracted setting.reader)
  Action.info s!"  {name}: {size} extracted"
  let tree := scratch / "smali"
  let making := Action.change fun files => files.makeDirectory tree
  making.rewording Cause.isRefusal fun cause => .io (.createDirectory tree.text cause)
  if let some outcome ← disassembled setting image extracted tree then return ⟨image, outcome⟩
  if let some outcome ← patched setting image tree then return ⟨image, outcome⟩
  let rebuilt := scratch / ("modified_" ++ extracted.name)
  if let some outcome ← reassembled setting image tree rebuilt then return ⟨image, outcome⟩
  return ⟨image, ← promoted setting image tree rebuilt extracted⟩

end DexGraft.Search
