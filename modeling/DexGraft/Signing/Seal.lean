import DexGraft.Crypto.Sha2
import DexGraft.Signing.Der

/-!
The seal of a keystore: a keyed digest of its content, with a key that is drawn
from a password, some salt, and many rounds of the digest.
-/
namespace DexGraft.Signing

open Crypto Item

structure Seal where
  sha : Sha2
  digest : Bytes
  salt : Bytes
  rounds : Nat

namespace Seal

def digests : List (List Nat × Sha2) :=
  [([2, 16, 840, 1, 101, 3, 4, 2, 1], sha256), ([2, 16, 840, 1, 101, 3, 4, 2, 3], sha512)]

def ofDigestInfo? (info : Item) : Option (Sha2 × Bytes) := do
  match ← info.sequence? with
  | [algorithm, digest] =>
      let (id, _) ← algorithm.algorithm?
      let (_, sha) ← digests.find? fun entry => id.isObject entry.1
      return (sha, ← digest.content? octetsTag)
  | _ => none

def ofItem? (item : Item) : Option Seal := do
  let (info, salt, rounds) ← match ← item.sequence? with
    | [info, salt] => some (info, salt, 1)
    | [info, salt, rounds] => do some (info, salt, ← rounds.natural?)
    | _ => none
  let (sha, digest) ← ofDigestInfo? info
  return ⟨sha, digest, ← salt.content? octetsTag, rounds⟩

def fill (block : Nat) (content : Bytes) : Bytes :=
  let blocks := (content.length + block - 1) / block
  (List.replicate (blocks * block) content).flatten.take (blocks * block)

def purpose : UInt8 := 3

def key (s : Seal) (password : Bytes) : Bytes :=
  let block := s.sha.blockSize
  let start := List.replicate block purpose ++ fill block s.salt ++ fill block password
  Nat.repeat s.sha.digest s.rounds start

/-- Two bytes for each character, high byte first, and two of zero at the end. -/
def wide (password : String) : Bytes :=
  (password.toList.flatMap fun c =>
    if c.toNat < 0x10000 then bigEndian 2 c.toNat
    else bigEndian 2 (0xd800 + (c.toNat - 0x10000) / 1024) ++
      bigEndian 2 (0xdc00 + (c.toNat - 0x10000) % 1024)) ++ [0, 0]

def fits (s : Seal) (content password : Bytes) : Bool :=
  keyedDigest s.sha (s.key password) content == s.digest

/-- Whether the seal is that of a content with a password. Without a password, it may have been
made with none or with an empty one. -/
def opens (s : Seal) (content : Bytes) : Option String → Bool
  | some password => s.fits content (wide password)
  | none => s.fits content (wide "") || s.fits content []

end Seal
end DexGraft.Signing
