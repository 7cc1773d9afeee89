import DexGraft.Crc32
import DexGraft.Deflate.Inflate
import DexGraft.Text.Quoted
import DexGraft.Zip.Archive

/-!
The bytes of an entry. Its local header has to agree with the directory on the
name, and its data has to end before the next entry begins; size, method and
checksum are those of the directory.
-/
namespace DexGraft.Zip

def positionLimit : Nat := Nat.pow 2 63

/-- The file from a place on. Before the file there is nothing to read, and a place has to fit into
a signed word of 64 bits to be looked for at all. -/
def Archive.fromPlace (archive : Archive) (place : Int) : Except Fault Bytes :=
  if place < -Int.ofNat positionLimit then .error .farOffset
  else if place < 0 then .error .beforeStart
  else if Int.ofNat positionLimit ≤ place then .error .farOffset
  else .ok (archive.file.drop place.toNat)

def Archive.decodes (archive : Archive) : Method → Bool
  | .other number => (archive.decoders number).isSome
  | _ => true

def Archive.openEntry (archive : Archive) (index : Nat) (entry : Entry) :
    Except Fault Bytes := do
  let header ← archive.fromPlace entry.offset
  if header.length < localHeaderSize then throw (.malformed .headerCut)
  if !localMark.isPrefixOf header then throw (.malformed .headerMark)
  if entry.flag patchedBit then throw (.unsupported "compressed patched data (flag bit 5)")
  if entry.flag strongEncryptionBit then throw (.unsupported "strong encryption (flag bit 6)")
  let nameSize := header.field 26 2
  let name ← decodeName ((header.field 6 2).testBit unicodeBit)
    ((header.drop localHeaderSize).take nameSize)
  if name ≠ entry.recordedName then
    throw (.malformed (.otherName (Text.quote entry.recordedName)))
  let data : Bytes := header.drop (localHeaderSize + nameSize + header.field 28 2)
  let place := archive.file.length - data.length
  if archive.bound index entry < place + entry.packedSize then
    throw (.malformed (.overlap (Text.quote entry.recordedName)))
  if entry.flag encryptedBit then throw (.encrypted (Text.quote entry.name))
  if !archive.decodes entry.method then
    throw (.unsupported "That compression method is not supported")
  return data

def storedData (entry : Entry) (data : Bytes) : Except Fault Bytes :=
  let needed := min entry.packedSize entry.size
  if entry.packedSize = 0 then .ok []
  else if data.isEmpty then .error .earlyEnd
  else if data.length < needed then .error .earlyEnd
  else .ok (data.take needed)

/-- Decompresses window by window until the size is reached; a fault beyond the last window that
is needed goes unnoticed. -/
def deflatedData (window : Nat) (entry : Entry) (data : Bytes) : Except Fault Bytes :=
  if entry.packedSize = 0 then .ok []
  else if data.isEmpty then .error .earlyEnd
  else
    let windows := max 1 ((entry.size + window - 1) / window)
    let result := Deflate.inflate (window * windows) (data.take entry.packedSize)
    let made := result.output.take entry.size
    match result.ending with
    | .corrupt => .error (@Fault.corruptStream .zlib)
    | .starved =>
        if data.length < entry.packedSize && result.output.length < entry.size then
          .error .earlyEnd
        else .ok made
    | _ => .ok made

def Archive.unpack (archive : Archive) (window : Nat) (entry : Entry) (data : Bytes) :
    Except Fault Bytes :=
  match entry.method with
  | .stored => storedData entry data
  | .deflated => deflatedData window entry data
  | .other number =>
      match archive.decoders number with
      | some decode => decode window entry data
      | none => .error (.unsupported "That compression method is not supported")

def Archive.contentOf (archive : Archive) (window : Nat) (entry : Entry) (data : Bytes) :
    Except Fault Bytes := do
  let content ← archive.unpack window entry data
  if Crc32.checksum content ≠ entry.crc then
    throw (.malformed (.checksum (Text.quote entry.name)))
  return content

def Archive.contentAt (archive : Archive) (window : Nat) (index : Nat) (entry : Entry) :
    Except Fault Bytes := do
  let data ← archive.openEntry index entry
  archive.contentOf window entry data

/-- How archives are read. -/
structure Reader where
  decoders : Decoders
  /-- Files are read in blocks of so many bytes, the first of them from where an entry begins. -/
  block : Nat

def plainReader : Reader := ⟨noDecoders, 4096⟩

/-- How many bytes behind a local header of this size were read together with it. -/
def Reader.atHand (reader : Reader) (headerSize : Nat) : Nat :=
  (reader.block - headerSize % reader.block) % reader.block

/-- An entry's data once the archive's file has changed: what was at hand, and behind that what is
in the file now. -/
def Reader.dataAfter (reader : Reader) (archive : Archive) (entry : Entry) (data left : Bytes) :
    Bytes :=
  let place := archive.file.length - data.length
  let atHand := reader.atHand (place - entry.offset.toNat)
  data.take atHand ++ left.drop (place + atHand)

end DexGraft.Zip
