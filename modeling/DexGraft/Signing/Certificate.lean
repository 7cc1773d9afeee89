import DexGraft.Signing.Der
import DexGraft.Signing.Pem

/-!
Certificates: their encoded form and the public key that they vouch for.
-/
namespace DexGraft.Signing

open Item

structure Certificate where
  encoded : Bytes
  /-- The public key with its algorithm, in encoded form. -/
  publicInfo : Bytes
  deriving DecidableEq

namespace Certificate

def label : String := "CERTIFICATE"

def labels : List String := [label, "X509 CERTIFICATE"]

def isName (item : Item) : Bool :=
  match item.sequence? with
  | none => false
  | some sets => sets.all fun set =>
      match set.row? setTag with
      | none | some [] => false
      | some attributes => attributes.all fun entry =>
          match entry.sequence? with
          | some [id, _] => id.tag == objectTag
          | _ => false

def isValidity (item : Item) : Bool :=
  match item.sequence? with
  | some [first, last] => [first, last].all fun time => time.tag == 0x17 || time.tag == 0x18
  | _ => false

def isPublicInfo (item : Item) : Bool :=
  match item.sequence? with
  | some [algorithm, key] => algorithm.algorithm?.isSome && key.tag == bitsTag
  | _ => false

def isExtension (item : Item) : Bool :=
  match item.sequence? with
  | some [id, value] => id.tag == objectTag && value.tag == octetsTag
  | some [id, critical, value] =>
      id.tag == objectTag && critical.tag == booleanTag && value.tag == octetsTag
  | _ => false

def isExtensions (item : Item) : Bool :=
  match (item.marked? 3).bind sequence? with
  | some extensions => extensions.all isExtension
  | none => false

def areOptions (items : List Item) : Bool :=
  let rest := if items.head?.any (·.tag == plainMarkedTag 1) then items.tail else items
  let rest := if rest.head?.any (·.tag == plainMarkedTag 2) then rest.tail else rest
  match rest with
  | [] => true
  | [extensions] => isExtensions extensions
  | _ => false

/-- The version, which the first one leaves out, and the other members. -/
def splitVersion (items : List Item) : Option (Nat × List Item) :=
  match items with
  | first :: rest =>
      if first.tag = markedTag 0 then do return (← (← first.marked? 0).natural?, rest)
      else some (0, items)
  | [] => none

def publicInfo? (signed : Item) : Option Bytes := do
  let (version, members) ← splitVersion (← signed.sequence?)
  match members with
  | serial :: algorithm :: issuer :: validity :: subject :: info :: options =>
      let isSound := (version == 0 || version == 2) && serial.tag == integerTag &&
        algorithm.algorithm?.isSome && isName issuer && isValidity validity && isName subject &&
        isPublicInfo info && areOptions options
      if isSound then some info.bytes else none
  | _ => none

def ofItem? (item : Item) : Option Certificate := do
  match ← item.sequence? with
  | [signed, algorithm, signature] =>
      let info ← publicInfo? signed
      if algorithm.algorithm?.isSome && signature.tag == bitsTag then
        some ⟨item.bytes, info⟩
      else none
  | _ => none

def ofBytes? (bytes : Bytes) : Option Certificate := (readOnly bytes).bind ofItem?

def readAll (bytes : Bytes) : Option (List Certificate) := do
  let sections ← Section.readAll bytes
  (sections.filter fun found => labels.contains found.label).mapM fun found =>
    ofBytes? found.content

def write (certificate : Certificate) : Bytes := Section.write label certificate.encoded

end Certificate
end DexGraft.Signing
