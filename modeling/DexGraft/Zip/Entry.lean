import DexGraft.Zip.Stamp

/-!
Entries as the central directory of an archive describes them.
-/
namespace DexGraft.Zip

inductive Method
  | stored
  | deflated
  | other (number : Nat)
  deriving DecidableEq

def Method.ofNumber : Nat → Method
  | 0 => .stored
  | 8 => .deflated
  | number => .other number

def Method.number : Method → Nat
  | .stored => 0
  | .deflated => 8
  | .other number => number

structure Entry where
  /-- The recorded name up to its first NUL. -/
  name : String
  recordedName : String
  flags : Nat
  method : Method
  stamp : Stamp
  crc : Nat
  packedSize : Nat
  size : Nat
  attributes : Nat
  /-- Where the local header is said to be, counted from the start of the file. -/
  offset : Int

def Entry.flag (entry : Entry) (place : Nat) : Bool :=
  entry.flags.testBit place

def encryptedBit : Nat := 0
def patchedBit : Nat := 5
def strongEncryptionBit : Nat := 6
def unicodeBit : Nat := 11

def cutAtNul (name : String) : String :=
  String.ofList (name.toList.takeWhile fun c => c.toNat != 0)

end DexGraft.Zip
