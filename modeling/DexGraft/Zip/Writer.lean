import DexGraft.Crc32
import DexGraft.Zip.Archive

/-!
Archives written entry by entry. `place` decides everything that depends on
where an entry comes to stand, `Placed` keeps the result, and `archiveBytes`
lays out all local records, the directory and the end record.
-/
namespace DexGraft.Zip

structure Item where
  name : String
  flags : Nat
  /-- Whether the data is to be compressed. -/
  packed : Bool
  stamp : Stamp
  attributes : Nat
  content : Bytes

structure Placed where
  name : String
  flags : Nat
  method : Method
  stamp : Stamp
  attributes : Nat
  crc : Nat
  size : Nat
  data : Bytes
  /-- Bytes of padding in front of the data. -/
  padding : Nat
  /-- Whether the data would have been out of line without padding. -/
  padded : Bool
  offset : Nat

def formatVersion : Nat := 20

def madeBy : Nat := 3 * 256 + formatVersion

def Placed.nameBytes (placed : Placed) : Bytes :=
  Bytes.ofText placed.name

def Placed.sharedFields (placed : Placed) : List (Nat × Nat) :=
  [(2, formatVersion), (2, placed.flags), (2, placed.method.number),
    (2, placed.stamp.time.toNat), (2, placed.stamp.date.toNat), (4, placed.crc),
    (4, placed.data.length), (4, placed.size), (2, placed.nameBytes.length)]

def Placed.localHeader (placed : Placed) : Bytes :=
  localMark ++ Bytes.fields (placed.sharedFields ++ [(2, placed.padding)])

def Placed.localRecord (placed : Placed) : Bytes :=
  placed.localHeader ++ placed.nameBytes ++ List.replicate placed.padding 0 ++ placed.data

/-- Extra field, comment, disk number and internal attributes are empty or nought. -/
def Placed.centralRecord (placed : Placed) : Bytes :=
  centralMark ++ Bytes.fields ((2, madeBy) :: placed.sharedFields ++
    [(2, 0), (2, 0), (2, 0), (2, 0), (4, placed.attributes), (4, placed.offset)]) ++
    placed.nameBytes

def endRecord (count size offset : Nat) : Bytes :=
  endMark ++ Bytes.fields [(2, 0), (2, 0), (2, count), (2, count), (4, size), (4, offset), (2, 0)]

def localBytes (placed : List Placed) : Bytes :=
  placed.flatMap Placed.localRecord

def directoryBytes (placed : List Placed) : Bytes :=
  placed.flatMap Placed.centralRecord

def archiveBytes (placed : List Placed) : Bytes :=
  localBytes placed ++ directoryBytes placed ++
    endRecord placed.length (directoryBytes placed).length (localBytes placed).length

/-- All flags but those for encryption and for sizes that follow the data. -/
def keptFlags : Nat := 0xFFF6

/-- Neither encrypted nor with sizes after the data; names outside ASCII are UTF-8. -/
def writtenFlags (name : String) (flags : Nat) : Nat :=
  let kept := flags &&& keptFlags
  if name.toList.all (·.toNat < 128) then kept else kept ||| 1 <<< unicodeBit

inductive Excess
  | entry (name : String)
  | archive
  | count (entries : Nat)

def Excess.message : Excess → String
  | .entry name => s!"{name}: entries over 4 GiB (zip64) are not supported"
  | .archive => "archive over 4 GiB (zip64) is not supported"
  | .count entries => s!"{entries} entries (zip64) are not supported"

inductive WriteFault
  | fault (fault : Fault)
  | excess (excess : Excess)

/-- Bytes needed to bring `start` to a multiple of the alignment, and whether it is off now. -/
def paddingFor (alignment : Int) (start : Nat) : Nat × Bool :=
  let rest := Int.fmod start alignment
  if rest = 0 then (0, false) else ((alignment - rest).toNat, true)

def fits (width value : Nat) : Bool :=
  value < Nat.pow 256 width

def stampFits (stamp : Stamp) : Bool :=
  0 ≤ stamp.time && stamp.time < 65536 && 0 ≤ stamp.date && stamp.date < 65536

/-- Puts an item at `offset`. Stored data is brought to a multiple of `alignment`. -/
def place (deflate : Bytes → Bytes) (alignment : Int) (offset : Nat) (item : Item) :
    Except WriteFault Placed := do
  let data := if item.packed then deflate item.content else item.content
  if !fits 4 item.content.length || !fits 4 data.length then
    throw (.excess (.entry item.name))
  if !fits 4 offset then throw (.excess .archive)
  if !item.packed && alignment == 0 then throw (.fault .zeroAlignment)
  let nameSize := (Bytes.ofText item.name).length
  let (padding, padded) :=
    if item.packed then (0, false)
    else paddingFor alignment (offset + localHeaderSize + nameSize)
  if !fits 2 nameSize || !fits 2 padding || !stampFits item.stamp then throw (.fault .fieldOverflow)
  return {
    name := item.name
    flags := writtenFlags item.name item.flags
    method := if item.packed then .deflated else .stored
    stamp := item.stamp
    attributes := item.attributes % 0x100000000
    crc := Crc32.checksum item.content
    size := item.content.length
    data, padding, padded, offset }

def entryLimit : Nat := 65535

end DexGraft.Zip
