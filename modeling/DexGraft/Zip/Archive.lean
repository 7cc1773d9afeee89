import DexGraft.Bytes
import DexGraft.Text.CodePage
import DexGraft.Zip.Entry
import DexGraft.Zip.Fault

/-!
Archives read from bytes. The end record is searched from the end of the file,
a record of the 64-bit form in front of it takes precedence, and whatever stands
before the archive shifts all recorded offsets.
-/
namespace DexGraft.Zip

def localMark : Bytes := [0x50, 0x4b, 3, 4]
def centralMark : Bytes := [0x50, 0x4b, 1, 2]
def endMark : Bytes := [0x50, 0x4b, 5, 6]
def wideEndMark : Bytes := [0x50, 0x4b, 6, 6]
def wideLocatorMark : Bytes := [0x50, 0x4b, 6, 7]

def localHeaderSize : Nat := 30
def centralHeaderSize : Nat := 46
def endRecordSize : Nat := 22
def wideEndRecordSize : Nat := 56
def wideLocatorSize : Nat := 20

/-- How far before the last possible end record the search starts. -/
def longestComment : Nat := 65536

structure EndRecord where
  place : Nat
  directorySize : Nat
  directoryOffset : Nat
  wide : Bool

def lastMark (mark : Bytes) (found : Option Nat) (place : Nat) : Bytes → Option Nat
  | [] => found
  | byte :: rest =>
      lastMark mark (if mark.isPrefixOf (byte :: rest) then some place else found) (place + 1) rest

def narrowEndRecord (file : Bytes) (place : Nat) : EndRecord :=
  { place, directorySize := file.field (place + 12) 4, directoryOffset := file.field (place + 16) 4,
    wide := false }

/-- An end record without a comment at the very end, else the last one in reach. -/
def findEndRecord? (file : Bytes) : Option EndRecord :=
  if file.length < endRecordSize then none
  else
    let final := file.length - endRecordSize
    let tail : Bytes := file.drop final
    if endMark.isPrefixOf tail && tail.field 20 2 == 0 then some (narrowEndRecord file final)
    else
      let start := file.length - (longestComment + endRecordSize)
      match lastMark endMark none start (file.drop start) with
      | none => none
      | some place =>
          if place + endRecordSize ≤ file.length then some (narrowEndRecord file place) else none

/-- Replaces the sizes by those of a 64-bit record, if a locator announces one. -/
def widen (file : Bytes) (narrow : EndRecord) : Except Fault EndRecord :=
  if narrow.place < wideLocatorSize then .ok narrow
  else
    let locator : Bytes := file.drop (narrow.place - wideLocatorSize)
    if !wideLocatorMark.isPrefixOf locator then .ok narrow
    else if locator.field 4 4 ≠ 0 ∨ 1 < locator.field 16 4 then
      .error (.malformed .severalDisks)
    else if narrow.place < wideLocatorSize + wideEndRecordSize then
      .error (.malformed .noEndRecord)
    else
      let record : Bytes := file.drop (narrow.place - wideLocatorSize - wideEndRecordSize)
      if !wideEndMark.isPrefixOf record then .ok narrow
      else .ok { narrow with
        directorySize := record.field 40 8, directoryOffset := record.field 48 8, wide := true }

structure Extent where
  size : Nat
  packedSize : Nat
  offset : Nat

def narrowLimit : Nat := 0xFFFFFFFF
def wideLimit : Nat := 0xFFFFFFFFFFFFFFFF

def takeWide (name : String) (needed : Bool) (current : Nat) (data : Bytes) :
    Except Fault (Nat × Bytes) :=
  if !needed then .ok (current, data)
  else if data.length < 8 then .error (.malformed (.extraNumber name))
  else .ok (data.field 0 8, data.drop 8)

def widenExtent (extent : Extent) (data : Bytes) : Except Fault Extent := do
  let wideSize := extent.size == narrowLimit || extent.size == wideLimit
  let (size, data) ← takeWide "File size" wideSize extent.size data
  let widePacked := extent.packedSize == narrowLimit
  let (packedSize, data) ← takeWide "Compress size" widePacked extent.packedSize data
  let (offset, _) ← takeWide "Header offset" (extent.offset == narrowLimit) extent.offset data
  return { size, packedSize, offset }

/-- Goes through the extra fields, each of which takes at least four bytes of the fuel. -/
def readExtra : (fuel : Nat) → (extra : Bytes) → Extent → Except Fault Extent
  | 0, _, extent => .ok extent
  | fuel + 1, extra, extent =>
      if extra.length < 4 then .ok extent
      else do
        let id := extra.field 0 2
        let size := extra.field 2 2
        if extra.length < size + 4 then throw (.malformed (.extraField id size))
        let extent ← if id = 1 then widenExtent extent ((extra.drop 4).take size) else pure extent
        readExtra fuel (extra.drop (size + 4)) extent

def decodeName (unicode : Bool) (name : Bytes) : Except Fault String :=
  if unicode then
    match name.toText? with
    | some text => .ok text
    | none => .error .nameNotText
  else .ok (Text.ofCodePage name)

def newestVersion : Nat := 63

def readEntry (shift : Int) (directory : Bytes) : Except Fault (Entry × Bytes) := do
  if directory.length < centralHeaderSize then throw (.malformed .directoryCut)
  if !centralMark.isPrefixOf directory then throw (.malformed .directoryMark)
  let flags := directory.field 8 2
  let afterHeader := directory.drop centralHeaderSize
  let recordedName ←
    decodeName (flags.testBit unicodeBit) (afterHeader.take (directory.field 28 2))
  let version := directory.field 6 1
  if newestVersion < version then throw (.unsupported s!"zip file version {version}")
  let afterName := afterHeader.drop (directory.field 28 2)
  let extra := afterName.take (directory.field 30 2)
  let extent ← readExtra extra.length extra
    { size := directory.field 24 4, packedSize := directory.field 20 4,
      offset := directory.field 42 4 }
  let entry : Entry :=
    { name := cutAtNul recordedName
      recordedName
      flags
      method := Method.ofNumber (directory.field 10 2)
      stamp := ⟨directory.field 12 2, directory.field 14 2⟩
      crc := directory.field 16 4
      packedSize := extent.packedSize
      size := extent.size
      attributes := directory.field 38 4
      offset := extent.offset + shift }
  return (entry, (afterName.drop (directory.field 30 2)).drop (directory.field 32 2))

def readEntries (shift : Int) : (fuel : Nat) → (directory : Bytes) → Except Fault (List Entry)
  | 0, _ => .ok []
  | fuel + 1, directory =>
      if directory.isEmpty then .ok []
      else do
        let (entry, rest) ← readEntry shift directory
        return entry :: (← readEntries shift fuel rest)

/-- By its number, how a method other than stored and deflated is undone: from the window, the entry
and what follows its local header. -/
abbrev Decoders := Nat → Option (Nat → Entry → Bytes → Except Fault Bytes)

def noDecoders : Decoders := fun _ => none

structure Archive where
  file : Bytes
  entries : List Entry
  /-- Where the central directory begins. -/
  directoryStart : Int
  decoders : Decoders

def readWith (decoders : Decoders) (file : Bytes) : Except Fault Archive := do
  let some narrow := findEndRecord? file | throw (.malformed .noEndRecord)
  let record ← widen file narrow
  let gap : Nat := if record.wide then wideEndRecordSize + wideLocatorSize else 0
  let start : Int := record.place - record.directorySize - gap
  if start < 0 then throw (.malformed .directoryBeforeStart)
  let directory := (file.drop start.toNat).take record.directorySize
  let entries ← readEntries (start - record.directoryOffset) directory.length directory
  return { file, entries, directoryStart := start, decoders }

def Archive.names (archive : Archive) : List String :=
  archive.entries.map Entry.name

/-- Where the data of the entry at `index` has to end. Entries at one place, the first of them
apart, have no room at all; else the next place in the file or the directory is the bound. -/
def Archive.bound (archive : Archive) (index : Nat) (entry : Entry) : Int :=
  let offsets := archive.entries.map Entry.offset
  if (offsets.take index).contains entry.offset then entry.offset
  else (offsets.filter (entry.offset < ·)).min?.getD archive.directoryStart

end DexGraft.Zip
