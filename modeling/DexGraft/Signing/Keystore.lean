import DexGraft.Signing.Certificate
import DexGraft.Signing.PrivateKey
import DexGraft.Signing.Seal

/-!
Keystores: nested bags of keys and certificates under a seal. Of the keys the
first counts. Its certificate is the first that holds its public key; the
others are further certificates, in order.
-/
namespace DexGraft.Signing

open Crypto Item

structure Named where
  certificate : Certificate
  nickname : Option (List Char)

structure Contents where
  key : Option PrivateKey
  certificates : List Named

structure Keystore where
  key : Option PrivateKey
  /-- The certificate of the key. -/
  own : Option Named
  others : List Named

namespace Keystore

def plainId : List Nat := [1, 2, 840, 113549, 1, 7, 1]

def encryptedId : List Nat := [1, 2, 840, 113549, 1, 7, 6]

def bagId (number : Nat) : List Nat := [1, 2, 840, 113549, 1, 12, 10, 1, number]

def x509Id : List Nat := [1, 2, 840, 113549, 1, 9, 22, 1]

def friendlyNameId : List Nat := [1, 2, 840, 113549, 1, 9, 20]

def localKeyId : List Nat := [1, 2, 840, 113549, 1, 9, 21]

def wideText? : Bytes → Option (List Char)
  | [] => some []
  | high :: low :: rest => do
      let value := high.toNat * 256 + low.toNat
      if 0xd800 ≤ value && value < 0xe000 then none
      return Char.ofNat value :: (← wideText? rest)
  | _ => none

def attribute? (id : List Nat) (attributes : List Item) : Option (Option Item) :=
  match attributes with
  | [] => some none
  | first :: rest => do
      match ← first.sequence? with
      | [name, values] =>
          let values ← values.row? setTag
          if name.isObject id then some values.head? else attribute? id rest
      | _ => none

/-- The name among the attributes of a bag. The outer option tells whether they are sound. -/
def aliasOf (attributes : List Item) : Option (Option (List Char)) := do
  let keyId ← attribute? localKeyId attributes
  if keyId.any (·.tag != octetsTag) then none
  match ← attribute? friendlyNameId attributes with
  | none => some none
  | some name =>
      if name.tag != wideTextTag || name.content.length % 2 = 1 then none
      else some (wideText? name.content)

def certificateIn (value : Item) : Option (Option Item) := do
  match ← value.sequence? with
  | [id, content] =>
      if id.isObject x509Id then
        return some (← readOnly (← (← content.marked? 0).content? octetsTag))
      else some none
  | _ => none

def takeBag : (limit : Nat) → Contents → Item → Option Contents
  | 0, _, _ => none
  | limit + 1, contents, bag => do
      let (id, value, attributes) ← match ← bag.sequence? with
        | [id, value] => some (id, value, [])
        | [id, value, attributes] => do some (id, value, ← attributes.row? setTag)
        | _ => none
      let name ← aliasOf attributes
      let value ← value.marked? 0
      if id.isObject (bagId 1) then
        if contents.key.isSome then some contents
        else return { contents with key := some (← PrivateKey.ofGeneral? value) }
      else if id.isObject (bagId 2) then
        if contents.key.isSome then some contents else none
      else if id.isObject (bagId 3) then
        match ← certificateIn value with
        | none => some contents
        | some item =>
            let named := ⟨← Certificate.ofItem? item, name⟩
            return { contents with certificates := contents.certificates ++ [named] }
      else if id.isObject (bagId 6) then
        (← value.sequence?).foldlM (takeBag limit) contents
      else some contents

def plainContent? (content : Item) : Option Bytes := do
  (← content.marked? 0).content? octetsTag

/-- Takes a group of bags into the contents. Encrypted groups cannot be read. -/
def takeGroup (contents : Contents) (group : Item) : Option Contents := do
  match ← group.sequence? with
  | id :: rest =>
      if id.isObject plainId then
        match rest with
        | [content] =>
            let bytes ← plainContent? content
            (← (← readOnly bytes).sequence?).foldlM (takeBag bytes.length) contents
        | _ => none
      else if id.isObject encryptedId then none
      else some contents
  | [] => none

def holds (key : PrivateKey) (named : Named) : Bool :=
  key.publicInfo? == some named.certificate.publicInfo

/-- The first certificate that holds the key's public key, and the others. -/
def pick (key : PrivateKey) : List Named → Option Named × List Named
  | [] => (none, [])
  | first :: rest =>
      if holds key first then (some first, rest)
      else
        let (own, others) := pick key rest
        (own, first :: others)

def ofContents (contents : Contents) : Keystore :=
  match contents.key with
  | some key =>
      let (own, others) := pick key contents.certificates
      ⟨some key, own, others⟩
  | none => ⟨none, none, contents.certificates⟩

def read (bytes : Bytes) (password : Option String) : Option Keystore := do
  let (item, _) ← Item.read bytes
  let (version, groups, mark) ← match ← item.sequence? with
    | [version, groups] => some (version, groups, none)
    | [version, groups, mark] => do some (version, groups, some (← Seal.ofItem? mark))
    | _ => none
  match ← groups.sequence? with
  | [id, content] =>
      if !(id.isObject plainId) || version.natural? != some 3 then none
      let bytes ← plainContent? content
      if mark.any fun found => !found.opens bytes password then none
      let contents ← (← (← readOnly bytes).sequence?).foldlM takeGroup ⟨none, []⟩
      return ofContents contents
  | _ => none

end Keystore
end DexGraft.Signing
