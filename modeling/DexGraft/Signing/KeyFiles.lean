import DexGraft.Session

/-!
Signing material as files: a key in its serialised form, readable only by its
owner, and the certificates one after the other.
-/
namespace DexGraft.Signing

def defaultName : String := "CERT"

def signer (name : String) (key : Except Cause Bytes) (certificates : List Bytes) :
    Except ConfigFault Signer :=
  if certificates.isEmpty then .error (.noCertificate name) else .ok ⟨name, key, certificates⟩

def keyFile (directory : Path) (index : Int) : Path :=
  directory / ("signer" ++ toString index ++ ".pk8")

def certificateFile (directory : Path) (index : Int) : Path :=
  directory / ("signer" ++ toString index ++ ".x509.pem")

def keyFileMode : Nat := 0o600

def writeFiles (entry : Signer) (directory : Path) (index : Int) : Action (Path × Path) := do
  let keyPath := keyFile directory index
  let certificatePath := certificateFile directory index
  let key ← Action.ofExcept entry.key
  Action.change fun files => files.write keyPath key
  Action.change fun files => files.setMode keyPath keyFileMode
  Action.change fun files => files.write certificatePath entry.certificates.flatten
  return (keyPath, certificatePath)

end DexGraft.Signing
