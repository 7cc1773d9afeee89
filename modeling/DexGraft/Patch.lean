import DexGraft.Fault
import DexGraft.Json.Reader
import DexGraft.Session
import DexGraft.Text.Blank

/-!
What to patch: one class, the line that opens one of its methods, and the text
that takes the method's place. None of the three is ever blank.
-/
namespace DexGraft

structure Patch where
  targetClass : String
  signature : String
  replacement : String
  class_filled : Text.isAllBlank targetClass = false
  signature_filled : Text.isAllBlank signature = false
  replacement_filled : Text.isAllBlank replacement = false

namespace Patch

def filled? (field : String) :
    Json → Except ConfigFault { text : String // Text.isAllBlank text = false }
  | .string text =>
      if blank : Text.isAllBlank text = false then .ok ⟨text, blank⟩
      else .error (.emptyField field)
  | _ => .error (.emptyField field)

def ofValues (targetClass signature replacement : Json) : Except ConfigFault Patch := do
  let targetClass ← filled? "target_class" targetClass
  let signature ← filled? "target_signature" signature
  let replacement ← filled? "replacement_body" replacement
  return {
    targetClass := targetClass.val
    signature := signature.val
    replacement := replacement.val
    class_filled := targetClass.property
    signature_filled := signature.property
    replacement_filled := replacement.property }

def requiredKeys : List String := ["targetClass", "targetSignature", "replacementBody"]

def trimmedText : Json → Json
  | .string text => .string (Text.trimmed text)
  | other => other

/-- Reads the members of an object; blanks around the signature do not count. -/
def ofObject (data : Json) : Except ConfigFault Patch :=
  match data.member? "targetClass", data.member? "targetSignature",
      data.member? "replacementBody" with
  | some targetClass, some signature, some replacement =>
      ofValues targetClass (trimmedText signature) replacement
  | _, _, _ =>
      .error (.missingFields (requiredKeys.filter fun key => (data.member? key).isNone))

def configured {α : Type} : Except ConfigFault α → Action α
  | .ok value => pure value
  | .error fault => throw (.config fault)

def isUnreadableSpec : Cause → Bool
  | .file _ | .notUtf8 | .nulCharacter | .badData _ => true
  | _ => false

def readSpec (path : Path) : Action Json := do
  match Bytes.toText? (← Action.ask fun files => files.read path) with
  | none => Action.raise .notUtf8
  | some text =>
      match Json.read text with
      | none => Action.raise (.badData "the text is not JSON")
      | some data => return data

def ofFile (path : Path) : Action Patch := do
  let data ← (readSpec path).rewording isUnreadableSpec fun cause =>
    .config (.unreadableSpec path.text cause)
  if !data.isObject then throw (.config (.specNotObject path.text))
  configured (ofObject data)

def builtinClass : String := "com/applisto/appcloner/classes/DefaultProvider"

def builtinSignature : String := ".method public onCreate(Landroid/content/Context;)Z"

def builtinBody : String :=
  "\n".intercalate
    ["",
     "    .registers 3",
     "",
     "    if-eqz p1, :cond_e",
     "",
     "    sget-boolean v0, Lcom/applisto/appcloner/classes/DefaultProvider;->sCreated:Z",
     "",
     "    if-nez v0, :cond_c",
     "",
     "    const/4 v0, 0x1",
     "",
     "    sput-boolean v0, Lcom/applisto/appcloner/classes/DefaultProvider;->sCreated:Z",
     "",
     "    invoke-virtual \x7bp0, p1, p1\x7d, Lcom/applisto/appcloner/classes/DefaultProvider;->onCreate(Landroid/content/Context;Landroid/content/Context;)V",
     "",
     "    :cond_c",
     "",
     "    const/4 v0, 0x1",
     "",
     "    return v0",
     "",
     "    :cond_e",
     "",
     "    const/4 v0, 0x0",
     "",
     "    return v0",
     ".end method"]

def builtinReplacement : String := builtinSignature ++ builtinBody

theorem builtinSignature_filled : Text.isAllBlank builtinSignature = false := by
  decide +kernel

theorem builtinReplacement_filled : Text.isAllBlank builtinReplacement = false := by
  rw [builtinReplacement, Text.isAllBlank_append, builtinSignature_filled, Bool.false_and]

def builtin : Patch where
  targetClass := builtinClass
  signature := builtinSignature
  replacement := builtinReplacement
  class_filled := by decide +kernel
  signature_filled := builtinSignature_filled
  replacement_filled := builtinReplacement_filled

end Patch
end DexGraft
