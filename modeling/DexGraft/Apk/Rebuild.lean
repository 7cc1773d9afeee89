import DexGraft.Apk.Name
import DexGraft.Fault
import DexGraft.Zip.Content

/-!
An archive written anew with one entry replaced and earlier signatures left out.
All other entries keep their order, content and metadata; the replaced entry
comes last and is stored.
-/
namespace DexGraft.Apk

open Zip

structure Replacement where
  name : String
  content : Bytes
  alignment : Int
  /-- The moment that a new entry bears when it replaces none. -/
  clock : Stamp

structure Rebuilt where
  placed : List Placed
  dropped : List String
  replacedExisting : Bool

def Rebuilt.bytes (rebuilt : Rebuilt) : Bytes :=
  archiveBytes rebuilt.placed

def Rebuilt.written (rebuilt : Rebuilt) : List String :=
  rebuilt.placed.map Placed.name

def Rebuilt.aligned (rebuilt : Rebuilt) : List String :=
  (rebuilt.placed.filter Placed.padded).map Placed.name

/-- The window in which a whole entry is decompressed. -/
def wholeWindow : Nat := Nat.pow 2 30

/-- Of the methods only deflate is kept, and not for entries that must be stored. -/
def keptItem (entry : Entry) (content : Bytes) : Item :=
  { name := entry.name
    flags := entry.flags
    packed := entry.method == .deflated && !mustStore entry.name
    stamp := (Calendar.ofStamp entry.stamp).toStamp
    attributes := entry.attributes
    content }

def newItem (change : Replacement) (replaced : Option Entry) : Item :=
  { name := cutAtNul change.name
    flags := (replaced.map Entry.flags).getD 0
    packed := false
    stamp := ((replaced.map fun entry => (Calendar.ofStamp entry.stamp).toStamp).getD change.clock)
    attributes := (replaced.map Entry.attributes).getD 0
    content := change.content }

def isReplaced (change : Replacement) (entry : Entry) : Bool :=
  entry.name == change.name

def isDropped (change : Replacement) (entry : Entry) : Bool :=
  !isReplaced change entry && isSigningMetadata entry.name

def isKept (change : Replacement) (entry : Entry) : Bool :=
  !isReplaced change entry && !isSigningMetadata entry.name

def placeItem (deflate : Bytes → Bytes) (alignment : Int) (offset : Nat) (item : Item) :
    Except WriteFault Placed :=
  place deflate (alignmentFor item.name alignment) offset item

/-- Reads and places the kept entries one by one, then the new one. -/
def placeAll (deflate : Bytes → Bytes) (archive : Archive) (change : Replacement) (last : Item)
    (offset : Nat) : List (Entry × Nat) → Except WriteFault (List Placed)
  | [] => do
      let placed ← placeItem deflate change.alignment offset last
      return [placed]
  | (entry, index) :: rest =>
      if isKept change entry then do
        let content ← match archive.contentAt wholeWindow index entry with
          | .ok content => pure content
          | .error fault => throw (.fault fault)
        let placed ← placeItem deflate change.alignment offset (keptItem entry content)
        let after := offset + placed.localRecord.length
        return placed :: (← placeAll deflate archive change last after rest)
      else placeAll deflate archive change last offset rest

def rebuild (deflate : Bytes → Bytes) (archive : Archive) (change : Replacement) :
    Except WriteFault Rebuilt := do
  let replaced := (archive.entries.filter (isReplaced change)).getLast?
  let placed ← placeAll deflate archive change (newItem change replaced) 0 archive.entries.zipIdx
  if entryLimit < placed.length then throw (.excess (.count placed.length))
  -- The end record names the size and the place of the directory in four bytes each.
  if !fits 4 (directoryBytes placed).length || !fits 4 (localBytes placed).length then
    throw (.fault .fieldOverflow)
  return {
    placed
    dropped := (archive.entries.filter (isDropped change)).map Entry.name
    replacedExisting := replaced.isSome }

end DexGraft.Apk
