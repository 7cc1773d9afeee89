import DexGraft.Files.Fault
import DexGraft.Zip.Writer

/-!
Everything that can go wrong. A `Cause` comes from below: files, archives, text
and numbers. A `Fault` is what the program reports in its own words, or a cause
that nothing has put into words on its way up.
-/
namespace DexGraft

inductive Cause
  | file (fault : FileFault)
  | zip (fault : Zip.Fault)
  | notUtf8
  /-- A NUL in a path or an argument. -/
  | nulCharacter
  /-- Digits that make no number, or more of them than a number may have. -/
  | numeral (text : String)
  /-- A number without a whole part, such as infinity, or one too large for its use. -/
  | unbounded
  | noFileName
  | lineOutOfRange
  | timedOut (program : String) (seconds : Int)
  | badData (what : String)
  /-- A value of another kind than the one asked for. -/
  | wrongKind (what : String)

def Cause.message : Cause → String
  | .file fault => fault.message
  | .zip fault => fault.message
  | .notUtf8 => "the text is not valid UTF-8"
  | .nulCharacter => "embedded null byte"
  | .numeral text => s!"invalid number: {text}"
  | .unbounded => "cannot convert the number to an integer"
  | .noFileName => "the path has an empty name"
  | .lineOutOfRange => "list index out of range"
  | .timedOut program seconds => s!"{program} timed out after {seconds} seconds"
  | .badData what => what
  | .wrongKind what => what

def Cause.isRefusal : Cause → Bool
  | .file _ => true
  | .zip .beforeStart | .zip (@Zip.Fault.corruptStream .bzip2) => true
  | _ => false

inductive ConfigFault
  | emptyField (field : String)
  | missingFields (fields : List String)
  | unreadableSpec (path : String) (cause : Cause)
  | specNotObject (path : String)
  | notInteger (key value : String)
  | noCertificate (signer : String)
  | unreadableKeystore (path : String) (cause : Cause)
  | keystoreWithoutKey (path : String)
  | otherAlias (wanted path present : String)
  | unreadableKey (cause : Cause)
  | keyWithoutCertificate
  | noMaterial

def ConfigFault.message : ConfigFault → String
  | .emptyField field => s!"PatchSpec.{field} must be a non-empty string"
  | .missingFields fields =>
      let listed := ", ".intercalate fields
      s!"patch spec missing field(s): {listed}"
  | .unreadableSpec path cause => s!"cannot read patch spec {path}: " ++ cause.message
  | .specNotObject path => s!"patch spec {path} must be a JSON object"
  | .notInteger key value => s!"{key} must be an integer, got " ++ Text.quote value
  | .noCertificate signer => "signer " ++ Text.quote signer ++ " has no certificate"
  | .unreadableKeystore path cause => s!"cannot load keystore {path}: " ++ cause.message
  | .keystoreWithoutKey path => s!"keystore {path} holds no private key entry"
  | .otherAlias wanted path present =>
      "alias " ++ Text.quote wanted ++ s!" not found in keystore {path} (has " ++
        Text.quote present ++ ")"
  | .unreadableKey cause => "cannot load signing key/cert: " ++ cause.message
  | .keyWithoutCertificate => "--key and --cert must be given together"
  | .noMaterial =>
      "no signing material: pass --keystore or --key/--cert (or set KEYSTORE)"

inductive IoFault
  | openArchive (path : String) (cause : Cause)
  | extract (entry path : String) (cause : Cause)
  | rebuild (name : String) (cause : Cause)
  | layout (path : String) (cause : Cause)
  | excess (excess : Zip.Excess)
  | createDirectory (path : String) (cause : Cause)
  | rewrite (path : String) (cause : Cause)
  | replaceImage (name : String) (cause : Cause)
  | copyInput (path : String) (cause : Cause)
  | readPatched (entry : String) (cause : Cause)

def IoFault.message : IoFault → String
  | .openArchive path cause => s!"cannot open archive {path}: " ++ cause.message
  | .extract entry path cause => s!"cannot extract {entry} -> {path}: " ++ cause.message
  | .rebuild name cause => s!"rebuild of {name} failed: " ++ cause.message
  | .layout path cause => s!"cannot read layout of {path}: " ++ cause.message
  | .excess found => found.message
  | .createDirectory path cause => s!"cannot create {path}: " ++ cause.message
  | .rewrite path cause => s!"cannot rewrite {path}: " ++ cause.message
  | .replaceImage name cause =>
      s!"cannot replace {name} with reassembled image: " ++ cause.message
  | .copyInput path cause => s!"cannot copy {path}: " ++ cause.message
  | .readPatched entry cause => s!"cannot read patched {entry}: " ++ cause.message

inductive Fault
  | cause (cause : Cause)
  | config (fault : ConfigFault)
  | noImages (base extension : String)
  | entryNotFound (archive entry : String)
  | io (fault : IoFault)
  | disassembly (text : String)
  | assembly (text : String)
  | signing (text : String)

def Fault.message : Fault → String
  | .cause found => found.message
  | .config found => found.message
  | .noImages base extension => s!"no {base}*{extension} images found in archive"
  | .entryNotFound archive entry => s!"entry not found in {archive}: {entry}"
  | .io found => found.message
  | .disassembly text => text
  | .assembly text => text
  | .signing text => text

end DexGraft
