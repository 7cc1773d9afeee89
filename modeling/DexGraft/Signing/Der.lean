import DexGraft.Crypto.Modular

/-!
Values in the distinguished encoding: each is a tag, the size of its content in
the shortest form, and the content, which may be a row of values itself.
-/
namespace DexGraft.Signing

structure Item where
  tag : Nat
  content : Bytes
  deriving DecidableEq

namespace Item

open Crypto

def booleanTag : Nat := 0x01
def integerTag : Nat := 0x02
def bitsTag : Nat := 0x03
def octetsTag : Nat := 0x04
def nullTag : Nat := 0x05
def objectTag : Nat := 0x06
def wideTextTag : Nat := 0x1e
def sequenceTag : Nat := 0x30
def setTag : Nat := 0x31

def markedTag (number : Nat) : Nat := 0xa0 + number

def plainMarkedTag (number : Nat) : Nat := 0x80 + number

/-! Writing. -/

def byteCount (value : Nat) : Nat :=
  if value = 0 then 0 else byteCount (value / 256) + 1
termination_by value
decreasing_by omega

def sizeBytes (size : Nat) : Bytes :=
  if size < 0x80 then [UInt8.ofNat size]
  else UInt8.ofNat (0x80 + byteCount size) :: bigEndian (byteCount size) size

def encode (tag : Nat) (content : Bytes) : Bytes :=
  UInt8.ofNat tag :: sizeBytes content.length ++ content

def bytes (item : Item) : Bytes := encode item.tag item.content

def sequence (items : List Bytes) : Bytes := encode sequenceTag items.flatten

def octets (content : Bytes) : Bytes := encode octetsTag content

def bits (content : Bytes) : Bytes := encode bitsTag (0 :: content)

def null : Bytes := encode nullTag []

def integer (value : Nat) : Bytes :=
  encode integerTag (bigEndian (byteCount (value / 128) + 1) value)

def openSeptets (value : Nat) : Bytes :=
  if value = 0 then []
  else openSeptets (value / 128) ++ [UInt8.ofNat (128 + value % 128)]
termination_by value
decreasing_by omega

def septets (value : Nat) : Bytes :=
  openSeptets (value / 128) ++ [UInt8.ofNat (value % 128)]

def objectContent : List Nat → Bytes
  | first :: second :: rest => septets (first * 40 + second) ++ rest.flatMap septets
  | _ => []

def object (id : List Nat) : Bytes := encode objectTag (objectContent id)

/-! Reading. -/

def readSize : Bytes → Option (Nat × Bytes)
  | [] => none
  | first :: rest =>
      if first < 0x80 then some (first.toNat, rest)
      else
        let width := first.toNat - 0x80
        let size := ofBigEndian (rest.take width)
        if sizeBytes size = first :: rest.take width then some (size, rest.drop width) else none

def read : Bytes → Option (Item × Bytes)
  | [] => none
  | tag :: rest => do
      if tag &&& 0x1f = 0x1f then none
      let (size, rest) ← readSize rest
      if rest.length < size then none
      return (⟨tag.toNat, rest.take size⟩, rest.drop size)

/-- A row of values that fills the bytes; there are no more of them than bytes. -/
def readRow : (limit : Nat) → Bytes → Option (List Item)
  | _, [] => some []
  | 0, _ => none
  | limit + 1, bytes => do
      let (item, rest) ← read bytes
      return item :: (← readRow limit rest)

def readAll (bytes : Bytes) : Option (List Item) := readRow bytes.length bytes

def readOnly (bytes : Bytes) : Option Item := do
  let (item, rest) ← read bytes
  if rest.isEmpty then some item else none

def row? (tag : Nat) (item : Item) : Option (List Item) :=
  if item.tag = tag then readAll item.content else none

def sequence? (item : Item) : Option (List Item) := item.row? sequenceTag

def content? (tag : Nat) (item : Item) : Option Bytes :=
  if item.tag = tag then some item.content else none

def marked? (number : Nat) (item : Item) : Option Item :=
  (item.content? (markedTag number)).bind readOnly

def natural? (item : Item) : Option Nat :=
  if item.bytes = integer (ofBigEndian item.content) then some (ofBigEndian item.content) else none

def bits? (item : Item) : Option Bytes :=
  match item.content? bitsTag with
  | some (0 :: content) => some content
  | _ => none

def isObject (item : Item) (id : List Nat) : Bool :=
  item.tag == objectTag && item.content == objectContent id

/-- An algorithm's identifier and its parameters, if any. -/
def algorithm? (item : Item) : Option (Item × Option Item) := do
  match ← item.sequence? with
  | [id] => if id.tag = objectTag then some (id, none) else none
  | [id, parameters] => if id.tag = objectTag then some (id, some parameters) else none
  | _ => none

end Item
end DexGraft.Signing
