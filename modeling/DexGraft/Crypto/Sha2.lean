import DexGraft.Crypto.Modular

/-!
The digests of the second secure hash family, for words of any width. Their
constants are fractional parts of roots of the first primes.
-/
namespace DexGraft.Crypto

def rootFloor (power bound : Nat) : (bits : Nat) → Nat
  | 0 => 0
  | bits + 1 =>
      let above := rootFloor power (bound >>> power) bits * 2
      if Nat.pow (above + 1) power ≤ bound then above + 1 else above

def isPrime (n : Nat) : Bool :=
  2 ≤ n && (List.range n).all fun d => d < 2 || n % d != 0

def primes (count : Nat) : List Nat := ((List.range 410).filter isPrime).take count

def fractionBits (power width prime : Nat) : Nat :=
  rootFloor power (prime <<< (power * width)) (width + 9) % 1 <<< width

/-- A member of the family: its sizes, and by how much words are turned and shifted. -/
structure Sha2 where
  width : Nat
  /-- The greatest word. -/
  mask : Nat := 1 <<< width - 1
  rounds : List Nat
  start : List Nat
  bigFirst : Nat × Nat × Nat
  bigSecond : Nat × Nat × Nat
  smallFirst : Nat × Nat × Nat
  smallSecond : Nat × Nat × Nat

namespace Sha2

def wordBytes (sha : Sha2) : Nat := sha.width / 8

def blockSize (sha : Sha2) : Nat := 16 * sha.wordBytes

def turn (sha : Sha2) (count word : Nat) : Nat :=
  (word >>> count) ||| ((word <<< (sha.width - count)) &&& sha.mask)

def bigMix (sha : Sha2) (amounts : Nat × Nat × Nat) (word : Nat) : Nat :=
  sha.turn amounts.1 word ^^^ sha.turn amounts.2.1 word ^^^ sha.turn amounts.2.2 word

def smallMix (sha : Sha2) (amounts : Nat × Nat × Nat) (word : Nat) : Nat :=
  sha.turn amounts.1 word ^^^ sha.turn amounts.2.1 word ^^^ (word >>> amounts.2.2)

def schedule (sha : Sha2) : (more : Nat) → List Nat → List Nat
  | 0, words => words
  | more + 1, words =>
      let next := (sha.smallMix sha.smallSecond (words.getD 1 0) + words.getD 6 0 +
        sha.smallMix sha.smallFirst (words.getD 14 0) + words.getD 15 0) &&& sha.mask
      schedule sha more (next :: words)

structure Registers where
  a : Nat
  b : Nat
  c : Nat
  d : Nat
  e : Nat
  f : Nat
  g : Nat
  h : Nat

def Registers.toList (r : Registers) : List Nat := [r.a, r.b, r.c, r.d, r.e, r.f, r.g, r.h]

def Registers.ofList : List Nat → Registers
  | [a, b, c, d, e, f, g, h] => ⟨a, b, c, d, e, f, g, h⟩
  | _ => ⟨0, 0, 0, 0, 0, 0, 0, 0⟩

def round (sha : Sha2) (r : Registers) (input : Nat × Nat) : Registers :=
  let choice := r.g ^^^ (r.e &&& (r.f ^^^ r.g))
  let majority := (r.a &&& r.b) ^^^ (r.a &&& r.c) ^^^ (r.b &&& r.c)
  let first := r.h + sha.bigMix sha.bigSecond r.e + choice + input.1 + input.2
  let second := sha.bigMix sha.bigFirst r.a + majority
  { a := (first + second) &&& sha.mask, b := r.a, c := r.b, d := r.c
    e := (r.d + first) &&& sha.mask, f := r.e, g := r.f, h := r.g }

def compress (sha : Sha2) (state : List Nat) (words : List Nat) : List Nat :=
  let all := (sha.schedule (sha.rounds.length - 16) words).reverse
  let after := (sha.rounds.zip all).foldl sha.round (Registers.ofList state)
  (state.zip after.toList).map fun pair => (pair.1 + pair.2) &&& sha.mask

def takeWords (sha : Sha2) : (count : Nat) → List Nat → Bytes → List Nat × Bytes
  | 0, words, rest => (words, rest)
  | count + 1, words, bytes =>
      takeWords sha count (ofBigEndian (bytes.take sha.wordBytes) :: words)
        (bytes.drop sha.wordBytes)

def absorb (sha : Sha2) : (blocks : Nat) → List Nat → Bytes → List Nat
  | 0, state, _ => state
  | blocks + 1, state, bytes =>
      let (words, rest) := sha.takeWords 16 [] bytes
      absorb sha blocks (sha.compress state words) rest

/-- The message with a mark, noughts and its length in bits, up to a whole number of blocks. -/
def pad (sha : Sha2) (message : Bytes) : Bytes :=
  let used := (message.length + 1 + 2 * sha.wordBytes) % sha.blockSize
  message ++ 0x80 :: List.replicate ((sha.blockSize - used) % sha.blockSize) 0 ++
    bigEndian (2 * sha.wordBytes) (8 * message.length)

def digest (sha : Sha2) (message : Bytes) : Bytes :=
  let padded := sha.pad message
  (sha.absorb (padded.length / sha.blockSize) sha.start padded).flatMap
    (bigEndian sha.wordBytes)

end Sha2

def sha256 : Sha2 where
  width := 32
  rounds := (primes 64).map (fractionBits 3 32)
  start := (primes 8).map (fractionBits 2 32)
  bigFirst := (2, 13, 22)
  bigSecond := (6, 11, 25)
  smallFirst := (7, 18, 3)
  smallSecond := (17, 19, 10)

def sha512 : Sha2 where
  width := 64
  rounds := (primes 80).map (fractionBits 3 64)
  start := (primes 8).map (fractionBits 2 64)
  bigFirst := (28, 34, 39)
  bigSecond := (14, 18, 41)
  smallFirst := (1, 8, 7)
  smallSecond := (19, 61, 6)

def keyedDigest (sha : Sha2) (key message : Bytes) : Bytes :=
  let short := if sha.blockSize < key.length then sha.digest key else key
  let block := short ++ List.replicate (sha.blockSize - short.length) 0
  let inner := sha.digest (block.map (· ^^^ 0x36) ++ message)
  sha.digest (block.map (· ^^^ 0x5c) ++ inner)

end DexGraft.Crypto
