import DexGraft.Signing.KeyFiles
import DexGraft.Signing.Keystore

/-!
Signers from files: from a key file with a certificate file, or from a
keystore. What is loaded is passed on as bytes.
-/
namespace DexGraft.Signing

/-- A password; an empty one is none. -/
def givenPassword (password : Option String) : Option String := password.filter (· != "")

def keyLabels : List String :=
  ["PRIVATE KEY", "ENCRYPTED PRIVATE KEY", "RSA PRIVATE KEY", "EC PRIVATE KEY", "DSA PRIVATE KEY"]

def unusableKey : Cause := .badData "the private key cannot be read"

def readKey (content : Bytes) (password : Option String) : Except Cause PrivateKey := do
  if password.isSome then
    throw (.wrongKind "a password was given, but the key cannot be opened with it")
  let key? := if Section.isArmoured content then do
      let found ← (← Section.readAll content).find? fun found => keyLabels.contains found.label
      if found.headers.isEmpty then PrivateKey.ofLabelled? found.label found.content else none
    else PrivateKey.ofAny? content
  match key? with
  | some key => .ok key
  | none => .error unusableKey

def readCertificates (content : Bytes) : Except Cause (List Certificate) :=
  match Certificate.readAll content with
  | some (first :: rest) => .ok (first :: rest)
  | _ => .error (.badData "the file holds no readable certificates")

def isLoadingCause : Cause → Bool
  | .zip _ => false
  | _ => true

def readPair (keyPath certificatePath : Path) (password : Option String) :
    Action (PrivateKey × List Certificate) := do
  let key ← Action.ofExcept (readKey (← Action.ask fun files => files.read keyPath) password)
  let content ← Action.ask fun files => files.read certificatePath
  return (key, ← Action.ofExcept (readCertificates content))

def signerOf (name : String) (key : PrivateKey) (certificates : List Certificate) :
    Action Signer :=
  match signer name (.ok key.encode) (certificates.map (·.write)) with
  | .ok found => return found
  | .error fault => throw (.config fault)

def loadPair (keyPath certificatePath : Path) (password : Option String) (name : String) :
    Action Signer := do
  let reading := readPair keyPath certificatePath (givenPassword password)
  let (key, certificates) ← reading.rewording isLoadingCause fun cause =>
    .config (.unreadableKey cause)
  signerOf name key certificates

def readKeystore (path : Path) (password : Option String) : Action Keystore := do
  match Keystore.read (← Action.ask fun files => files.read path) password with
  | some store => return store
  | none => Action.raise (.badData "wrong password or damaged keystore")

/-- A signer from a keystore. A wanted alias has to be that of the key's certificate, if that one
has any. -/
def loadKeystore (path : Path) (password wanted : Option String) (name : String) :
    Action Signer := do
  let reading := readKeystore path (givenPassword password)
  let store ← reading.rewording isLoadingCause fun cause =>
    .config (.unreadableKeystore path.text cause)
  match store.key, store.own with
  | some key, some own =>
      match wanted.filter (· != ""), own.nickname with
      | some wanted, some present =>
          if wanted.toList != present then
            throw (.config (.otherAlias wanted path.text (String.ofList present)))
      | _, _ => pure ()
      signerOf name key ((own :: store.others).map (·.certificate))
  | _, _ => throw (.config (.keystoreWithoutKey path.text))

end DexGraft.Signing
