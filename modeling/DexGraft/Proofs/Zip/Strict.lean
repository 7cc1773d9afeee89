import DexGraft.Deflate.Inflate
import DexGraft.Zip.Writer
import Mathlib.Tactic.Common

/-!
A strict reading of archives. Other than a reader that looks for the end record,
it goes through the file from its first byte on: local entries one right behind
the other, then the directory, then an end record that closes the file. Nothing
may stand between these parts, and what is said twice has to agree.
-/
namespace DexGraft.Zip

/-- What a local header and its directory record both say. -/
structure Header where
  version : Nat
  flags : Nat
  method : Nat
  time : Nat
  date : Nat
  crc : Nat
  packedSize : Nat
  size : Nat
  deriving DecidableEq

def Header.ofBytes (bytes : Bytes) : Header :=
  { version := bytes.field 0 2, flags := bytes.field 2 2, method := bytes.field 4 2,
    time := bytes.field 6 2, date := bytes.field 8 2, crc := bytes.field 10 4,
    packedSize := bytes.field 14 4, size := bytes.field 18 4 }

structure LocalEntry where
  place : Nat
  header : Header
  name : Bytes
  extra : Bytes
  data : Bytes
  deriving DecidableEq

def LocalEntry.dataPlace (entry : LocalEntry) : Nat :=
  entry.place + localHeaderSize + entry.name.length + entry.extra.length

def LocalEntry.stop (entry : LocalEntry) : Nat :=
  entry.dataPlace + entry.data.length

/-- The local entry at a place, all of which has to be in the file. -/
def localAt? (file : Bytes) (place : Nat) : Option LocalEntry :=
  let bytes : Bytes := file.drop place
  let nameSize := bytes.field 26 2
  let extraSize := bytes.field 28 2
  let header := Header.ofBytes (bytes.drop 4)
  let rest := bytes.drop localHeaderSize
  if localMark.isPrefixOf bytes &&
      localHeaderSize + nameSize + extraSize + header.packedSize ≤ bytes.length then
    some { place, header, name := rest.take nameSize, extra := (rest.drop nameSize).take extraSize,
           data := (rest.drop (nameSize + extraSize)).take header.packedSize }
  else none

structure CentralEntry where
  place : Nat
  madeBy : Nat
  header : Header
  name : Bytes
  attributes : Nat
  /-- Where the local entry is said to be. -/
  offset : Nat
  deriving DecidableEq

def CentralEntry.stop (entry : CentralEntry) : Nat :=
  entry.place + centralHeaderSize + entry.name.length

/-- The directory record at a place. It has neither extra field nor comment, and names the first
disk and no internal attributes. -/
def centralAt? (file : Bytes) (place : Nat) : Option CentralEntry :=
  let bytes : Bytes := file.drop place
  let nameSize := bytes.field 28 2
  if centralMark.isPrefixOf bytes && centralHeaderSize + nameSize ≤ bytes.length &&
      bytes.field 30 8 == 0 then
    some { place, madeBy := bytes.field 4 2, header := Header.ofBytes (bytes.drop 6),
           name := (bytes.drop centralHeaderSize).take nameSize,
           attributes := bytes.field 38 4, offset := bytes.field 42 4 }
  else none

/-- Entries that follow one another from `start` to `finish`, each found in the file. -/
inductive Row {Entry : Type} (at? : Nat → Option Entry) (stop : Entry → Nat) :
    (start : Nat) → List Entry → (finish : Nat) → Prop
  | done (place : Nat) : Row at? stop place [] place
  | next {start finish : Nat} {entry : Entry} {rest : List Entry} (found : at? start = some entry)
      (after : Row at? stop (stop entry) rest finish) : Row at? stop start (entry :: rest) finish

/-- The end record, which closes the file and counts what stands before it. -/
structure Closed (file : Bytes) (place count directoryStart : Nat) : Prop where
  size : place + endRecordSize = file.length
  mark : endMark <+: file.drop place
  disks : file.field (place + 4) 4 = 0
  here : file.field (place + 8) 2 = count
  total : file.field (place + 10) 2 = count
  extent : file.field (place + 12) 4 = place - directoryStart
  offset : file.field (place + 16) 4 = directoryStart
  comment : file.field (place + 20) 2 = 0

/-- A file that is local entries, their directory and the end record, without gaps, where each
directory record names the place of its local entry and agrees with it. -/
structure Laid (file : Bytes) (locals : List LocalEntry) (directory : List CentralEntry) :
    Prop where
  parts : ∃ directoryStart finish, Row (localAt? file) LocalEntry.stop 0 locals directoryStart ∧
    Row (centralAt? file) CentralEntry.stop directoryStart directory finish ∧
    Closed file finish locals.length directoryStart
  agree : List.Forall₂ (fun (entry : LocalEntry) (record : CentralEntry) =>
    record.offset = entry.place ∧ record.header = entry.header ∧ record.name = entry.name)
    locals directory

/-- A local entry holds a content under a name: its name reads as that text, its data are the
content or inflate to it, and checksum and sizes are those of the content and the data. -/
structure LocalEntry.Holds (entry : LocalEntry) (name : String) (content : Bytes) : Prop where
  name : decodeName (entry.header.flags.testBit unicodeBit) entry.name = .ok name
  data : entry.header.method = Method.stored.number ∧ entry.data = content ∨
    entry.header.method = Method.deflated.number ∧
      Deflate.inflate content.length entry.data = ⟨content, .complete⟩
  crc : entry.header.crc = Crc32.checksum content
  packedSize : entry.header.packedSize = entry.data.length
  size : entry.header.size = content.length

/-- The data begin at a multiple of the alignment, behind the least padding that brings them there,
all of it zeros. -/
structure LocalEntry.InLine (entry : LocalEntry) (alignment : Int) : Prop where
  aligned : alignment ∣ (entry.dataPlace : Int)
  zeros : ∀ byte ∈ entry.extra, byte = 0
  short : (entry.extra.length : Int) < alignment
  least : ∀ fewer : Nat,
    alignment ∣ ((entry.place + localHeaderSize + entry.name.length + fewer : Nat) : Int) →
      entry.extra.length ≤ fewer

/-- The archive in a file consists of these named contents in this order. -/
def Consists (file : Bytes) (members : List (String × Bytes)) : Prop :=
  ∃ locals directory, Laid file locals directory ∧
    List.Forall₂ (fun (entry : LocalEntry) member => entry.Holds member.1 member.2) locals members

end DexGraft.Zip
