import DexGraft.Session
import DexGraft.Smali.Method

/-!
The patch of a method in a file. The new text is written beside the file and
then moved over it, so that the file holds at every moment either its old text
or its new one.
-/
namespace DexGraft.Smali

/-- The operations on which a rewrite depends, any of which may fail. -/
structure Disk where
  read : Path → Action Bytes
  write : Path → Bytes → Action Unit
  move : Path → Path → Action Unit

def Disk.plain : Disk where
  read path := Action.ask fun files => files.read path
  write path content := Action.change fun files => files.write path content
  move source target := Action.change fun files => files.rename source target

def discard (path : Path) : Action Unit := do
  if ← Action.ask fun files => files.exists? path then
    Action.change fun files => files.remove path

/-- Where the new text of a file is written before it takes the file's place. -/
def temporaryOf? (path : Path) : Option Path :=
  path.withName? s!".{path.name}.tmp"

/-- Replaces a file's content at one stroke; nothing is left of the temporary file. -/
def store (disk : Disk) (path : Path) (content : Bytes) : Action Unit :=
  match temporaryOf? path with
  | none => Action.raise .noFileName
  | some temporary =>
      Action.ensuring (do disk.write temporary content; disk.move temporary path)
        (discard temporary)

def replacedMessage (name : String) (patched : Patched) : String :=
  let lines := toString (patched.first + 1) ++ "-" ++ toString (patched.last + 1)
  let before := toString (patched.last - patched.first + 1)
  s!"    replaced lines {lines} of {name} ({before} → {patched.size} lines)"

/-- Whether the file had such a method; a file without it is left alone. -/
def replace (disk : Disk) (path : Path) (signature replacement marker : String) :
    Action Bool := do
  match Bytes.toText? (← disk.read path) with
  | none => Action.raise .notUtf8
  | some text =>
      match patch text.toList signature.toList replacement.toList marker.toList with
      | none =>
          let wanted := Text.quote (Text.trimmed signature)
          Action.info s!"    method block not found in {path.name}: {wanted}"
          return false
      | some patched =>
          store disk path (Bytes.ofText (String.ofList patched.text))
          Action.info (replacedMessage path.name patched)
          return true

end DexGraft.Smali
