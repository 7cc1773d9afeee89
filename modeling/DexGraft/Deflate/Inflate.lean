import DexGraft.Bytes
import DexGraft.Deflate.Code

/-!
Decompression. `inflate` makes at most `limit` bytes and says how it ended:
with the last block, for want of input, for want of room, or at something that
no compressor writes. What was made before the end is kept in every case.
-/
namespace DexGraft.Deflate

inductive Ending
  | complete
  | starved
  | full
  | corrupt
  deriving DecidableEq

structure Inflated where
  output : Bytes
  ending : Ending
  deriving DecidableEq

structure Progress where
  ahead : Bytes
  /-- Bits already taken from the first byte ahead, fewer than eight. -/
  taken : Nat
  output : Array UInt8
  limit : Nat

abbrev Reading := ExceptT Ending (StateM Progress)

def takeBit : Reading Nat := do
  let now ← get
  match now.ahead with
  | [] => throw .starved
  | byte :: rest =>
      if now.taken < 7 then set { now with taken := now.taken + 1 }
      else set { now with ahead := rest, taken := 0 }
      return byte.toNat >>> now.taken % 2

def takeBits : (width : Nat) → Reading Nat
  | 0 => pure 0
  | width + 1 => do
      let low ← takeBit
      let high ← takeBits width
      return low + 2 * high

def alignToByte : Reading Unit :=
  modify fun now => if now.taken = 0 then now else { now with ahead := now.ahead.tail, taken := 0 }

def takeByte : Reading UInt8 := do
  let now ← get
  match now.ahead with
  | [] => throw .starved
  | byte :: rest =>
      set { now with ahead := rest }
      return byte

def emit (byte : UInt8) : Reading Unit := do
  let now ← get
  if now.output.size < now.limit then set { now with output := now.output.push byte }
  else throw .full

/-- `code` is the prefix read so far, `first` the first code of its length, `index` that code's
symbol. -/
def takeCodeFrom (symbols : Array Nat) (code first index : Nat) : List Nat → Reading (Option Nat)
  | [] => pure none
  | count :: rest => do
      let code := 2 * code + (← takeBit)
      if code < first + count then return symbols[index + (code - first)]?
      else takeCodeFrom symbols code (2 * (first + count)) (index + count) rest

/-- The next symbol, or none when the bits are an unused code. -/
def takeCode (code : Code) : Reading (Option Nat) :=
  takeCodeFrom code.symbols 0 0 0 code.counts

def fixedLengths : List Nat :=
  List.replicate 144 8 ++ List.replicate 112 9 ++ List.replicate 24 7 ++ List.replicate 8 8

def fixedLiterals : Code := Code.ofLengths fixedLengths

def fixedDistances : Code := Code.ofLengths (List.replicate 32 5)

def lengthBases : List (Nat × Nat) :=
  [(3, 0), (4, 0), (5, 0), (6, 0), (7, 0), (8, 0), (9, 0), (10, 0), (11, 1), (13, 1), (15, 1),
    (17, 1), (19, 2), (23, 2), (27, 2), (31, 2), (35, 3), (43, 3), (51, 3), (59, 3), (67, 4),
    (83, 4), (99, 4), (115, 4), (131, 5), (163, 5), (195, 5), (227, 5), (258, 0)]

def distanceBases : List (Nat × Nat) :=
  [(1, 0), (2, 0), (3, 0), (4, 0), (5, 1), (7, 1), (9, 2), (13, 2), (17, 3), (25, 3), (33, 4),
    (49, 4), (65, 5), (97, 5), (129, 6), (193, 6), (257, 7), (385, 7), (513, 8), (769, 8),
    (1025, 9), (1537, 9), (2049, 10), (3073, 10), (4097, 11), (6145, 11), (8193, 12), (12289, 12),
    (16385, 13), (24577, 13)]

def takeExtended (bases : List (Nat × Nat)) (symbol : Nat) : Reading Nat := do
  match bases[symbol]? with
  | none => throw .corrupt
  | some (base, extra) => return base + (← takeBits extra)

def copyBack (distance : Nat) : (length : Nat) → Reading Unit
  | 0 => pure ()
  | length + 1 => do
      let now ← get
      if now.output.size = now.limit then throw .full
      if now.output.size < distance then throw .corrupt
      emit (now.output.getD (now.output.size - distance) 0)
      copyBack distance length

/-- Literals and matches up to the end of the block; each takes at least one bit of the fuel. -/
def inflateSymbols (literals distances : Code) : (fuel : Nat) → Reading Unit
  | 0 => throw .starved
  | fuel + 1 => do
      match ← takeCode literals with
      | none => throw .corrupt
      | some symbol =>
          if symbol = 256 then return ()
          if symbol < 256 then emit (UInt8.ofNat symbol)
          else
            let length ← takeExtended lengthBases (symbol - 257)
            match ← takeCode distances with
            | none => throw .corrupt
            | some far => copyBack (← takeExtended distanceBases far) length
          inflateSymbols literals distances fuel

def copyStored : (length : Nat) → Reading Unit
  | 0 => pure ()
  | length + 1 => do
      let now ← get
      if now.ahead.isEmpty then throw .starved
      if now.output.size = now.limit then throw .full
      emit (← takeByte)
      copyStored length

def inflateStored : Reading Unit := do
  alignToByte
  let length ← takeBits 16
  let check ← takeBits 16
  if length + check = 65535 then copyStored length else throw .corrupt

def lengthOrder : List Nat :=
  [16, 17, 18, 0, 8, 7, 9, 6, 10, 5, 11, 4, 12, 3, 13, 2, 14, 1, 15]

def takeLengthLengths : (count : Nat) → Reading (List Nat)
  | 0 => pure []
  | count + 1 => do
      let length ← takeBits 3
      return length :: (← takeLengthLengths count)

def lengthCode (given : List Nat) : Code :=
  Code.ofLengths ((List.range 19).map fun symbol => given.getD (lengthOrder.idxOf symbol) 0)

/-- Code lengths, last first, until `wanted` are there; a code for lengths without symbols reads as
nought. -/
def takeLengths (code : Code) (wanted : Nat) : (fuel : Nat) → List Nat → Reading (List Nat)
  | 0, _ => throw .starved
  | fuel + 1, sofar => do
      if sofar.length = wanted then return sofar.reverse
      let symbol := (← takeCode code).getD 0
      if symbol < 16 then takeLengths code wanted fuel (symbol :: sofar)
      else
        let (length, count) ←
          if symbol = 16 then do
            let count ← takeBits 2
            match sofar with
            | [] => throw .corrupt
            | previous :: _ => pure (previous, 3 + count)
          else if symbol = 17 then do pure (0, 3 + (← takeBits 3))
          else do pure (0, 11 + (← takeBits 7))
        if wanted < sofar.length + count then throw .corrupt
        takeLengths code wanted fuel (List.replicate count length ++ sofar)

def inflateDynamic (fuel : Nat) : Reading Unit := do
  let literalCount := 257 + (← takeBits 5)
  let distanceCount := 1 + (← takeBits 5)
  let lengthCount := 4 + (← takeBits 4)
  if 286 < literalCount || 30 < distanceCount then throw .corrupt
  let given ← takeLengthLengths lengthCount
  let code := lengthCode given
  if code.fit ≠ .exact && !code.symbols.isEmpty then throw .corrupt
  let lengths ← takeLengths code (literalCount + distanceCount) fuel []
  if lengths.getD 256 0 = 0 then throw .corrupt
  let literals := Code.ofLengths (lengths.take literalCount)
  let distances := Code.ofLengths (lengths.drop literalCount)
  if literals.usable && distances.usable then inflateSymbols literals distances fuel
  else throw .corrupt

def inflateBlocks (budget : Nat) : (fuel : Nat) → Reading Unit
  | 0 => throw .starved
  | fuel + 1 => do
      let last ← takeBit
      let kind ← takeBits 2
      if kind = 0 then inflateStored
      else if kind = 1 then inflateSymbols fixedLiterals fixedDistances budget
      else if kind = 2 then inflateDynamic budget
      else throw .corrupt
      if last = 1 then return ()
      inflateBlocks budget fuel

def inflate (limit : Nat) (packed : Bytes) : Inflated :=
  let fuel := 8 * packed.length + 400
  let (outcome, done) :=
    (inflateBlocks fuel fuel).run ⟨packed, 0, #[], limit⟩
  { output := done.output.toList
    ending := match outcome with
      | .ok _ => .complete
      | .error ending => ending }

end DexGraft.Deflate
