import DexGraft.Apk.Image
import DexGraft.Apk.Rebuild
import DexGraft.Session
import DexGraft.Zip.Layout

/-!
Archives in files: their entries, the extraction of one, the layout of all, and
the rebuilding of one archive into another file. By default there are decoders
for stored and deflated entries only.
-/
namespace DexGraft.Apk

def isUnreadable : Cause → Bool
  | .zip (.malformed _) => true
  | cause => cause.isRefusal

/-- The same, or an archive that ends inside a local header. -/
def isUnreadableLayout : Cause → Bool
  | .zip .layoutCut => true
  | cause => isUnreadable cause

def zipResult {α : Type} : Except Zip.Fault α → Action α
  | .ok value => pure value
  | .error fault => Action.raise (.zip fault)

def readArchive (path : Path) (decoders : Zip.Decoders := Zip.noDecoders) :
    Action Zip.Archive := do
  zipResult (Zip.readWith decoders (← Action.ask fun files => files.read path))

def openArchive (path : Path) (decoders : Zip.Decoders := Zip.noDecoders) : Action Zip.Archive :=
  (readArchive path decoders).rewording isUnreadable fun cause =>
    .io (.openArchive path.text cause)

def entries (path : Path) (decoders : Zip.Decoders := Zip.noDecoders) :
    Action (List Zip.Entry) := do
  return (← openArchive path decoders).entries

def names (path : Path) (decoders : Zip.Decoders := Zip.noDecoders) : Action (List String) := do
  return (← openArchive path decoders).names

def select (path : Path) (decoders : Zip.Decoders := Zip.noDecoders) : Action (List Image) := do
  match selectImages (← names path decoders) defaultBase defaultExtension with
  | .ok images => return images
  | .error fault => throw fault

def copyWindow : Nat := 65536

/-- An entry with its index; of several entries with one name the last counts. -/
def findEntry? (archive : Zip.Archive) (name : String) : Option (Zip.Entry × Nat) :=
  archive.entries.zipIdx.reverse.find? fun found => found.1.name == name

/-- The target is emptied before the data are read: it may be the archive's own file. -/
def copyEntry (reader : Zip.Reader) (path : Path) (archive : Zip.Archive) (entry : Zip.Entry)
    (index : Nat) (target : Path) : Action Unit := do
  let data ← zipResult (archive.openEntry index entry)
  Action.change fun files => files.write target []
  let left ← Action.ask fun files => files.read path
  let content ← zipResult (archive.contentOf copyWindow entry
    (reader.dataAfter archive entry data left))
  Action.change fun files => files.write target content

def extract (path : Path) (name : String) (target : Path)
    (reader : Zip.Reader := Zip.plainReader) : Action Nat := do
  let archive ← openArchive path reader.decoders
  match findEntry? archive name with
  | none => throw (.entryNotFound path.name name)
  | some (entry, index) =>
      (copyEntry reader path archive entry index target).rewording isUnreadable fun cause =>
        .io (.extract name target.text cause)
      Action.fileSize target

structure EntryLayout where
  name : String
  method : Zip.Method
  dataOffset : Int
  aligned : Bool
  mustStore : Bool
  signing : Bool

def entryLayout (archive : Zip.Archive) (alignment : Int) (entry : Zip.Entry) :
    Except Zip.Fault EntryLayout := do
  let dataOffset ← archive.dataStart entry
  if alignmentFor entry.name alignment = 0 then throw .zeroAlignment
  return {
    name := entry.name
    method := entry.method
    dataOffset
    aligned := dataOffset % alignmentFor entry.name alignment == 0
    mustStore := mustStore entry.name
    signing := isSigningMetadata entry.name }

def layout (path : Path) (alignment : Int) (decoders : Zip.Decoders := Zip.noDecoders) :
    Action (List EntryLayout) :=
  let reading := do
    let archive ← readArchive path decoders
    zipResult (archive.byOffset.mapM (entryLayout archive alignment))
  reading.rewording isUnreadableLayout fun cause => .io (.layout path.text cause)

def EntryLayout.issue? (entry : EntryLayout) (alignment : Int) : Option String :=
  if !entry.mustStore then none
  else if entry.method ≠ .stored then some s!"{entry.name}: DEFLATE (must be STORE)"
  else if !entry.aligned then
    some (s!"{entry.name}: data@" ++ toString entry.dataOffset ++
      s!" not {alignment}-byte aligned")
  else none

def verify (path : Path) (alignment : Int) (decoders : Zip.Decoders := Zip.noDecoders) :
    Action (List String) := do
  return (← layout path alignment decoders).filterMap fun entry => entry.issue? alignment

def kilobytes (size : Nat) : String :=
  toString (size / 1024) ++ "K"

/-- The entries are read one by one after the output was emptied, which may be the source. -/
def rebuiltArchive (decoders : Zip.Decoders) (deflate : Bytes → Bytes) (source : Path)
    (change : Replacement) (output : Path) : Action Rebuilt := do
  let archive ← readArchive source decoders
  Action.change fun files => files.write output []
  let left ← Action.ask fun files => files.read source
  match rebuild deflate { archive with file := left } change with
  | .error (.fault fault) => Action.raise (.zip fault)
  | .error (.excess excess) => throw (.io (.excess excess))
  | .ok rebuilt =>
      Action.change fun files => files.write output rebuilt.bytes
      return rebuilt

/-- Rebuilds the archive at `source` into the file `output`. -/
def rebuildFile (deflate : Bytes → Bytes) (source : Path) (name : String) (content : Bytes)
    (output : Path) (alignment : Int) (decoders : Zip.Decoders := Zip.noDecoders) :
    Action Rebuilt := do
  let change : Replacement := { name, content, alignment, clock := (← get).clock }
  let rebuilt ← (rebuiltArchive decoders deflate source change output).rewording isUnreadable
    fun cause => .io (.rebuild source.name cause)
  let dropped := if rebuilt.dropped.isEmpty then "none" else ", ".intercalate rebuilt.dropped
  Action.info s!"  dropped signing metadata: {dropped}"
  let size := kilobytes (← Action.fileSize output)
  Action.log .success (s!"  ZIP rebuilt: {size}  (" ++ toString rebuilt.written.length ++
    " entries, aligned " ++ toString rebuilt.aligned.length ++ ")")
  return rebuilt

end DexGraft.Apk
