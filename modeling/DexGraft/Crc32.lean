import DexGraft.Bytes

/-!
The cyclic redundancy check of archive entries: reflected, with all ones before
and after.
-/
namespace DexGraft.Crc32

def polynomial : UInt32 := 0xEDB88320

def bitStep (register : UInt32) : UInt32 :=
  if register &&& 1 == 1 then (register >>> 1) ^^^ polynomial else register >>> 1

def byteStep (register : UInt32) (byte : UInt8) : UInt32 :=
  Nat.repeat bitStep 8 (register ^^^ byte.toUInt32)

def checksum (bytes : Bytes) : Nat :=
  (bytes.foldl byteStep 0xFFFFFFFF ^^^ 0xFFFFFFFF).toNat

theorem checksum_lt (bytes : Bytes) : checksum bytes < Nat.pow 256 4 :=
  UInt32.toNat_lt _

end DexGraft.Crc32
