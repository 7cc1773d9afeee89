import DexGraft.Deflate.Huffman
import DexGraft.Deflate.Inflate
import DexGraft.Deflate.Token

/-!
Compression. The tokens are cut into blocks, and each block is written in the
shortest of three forms: with codes of its own, with the fixed codes, or stored
as it is.
-/
namespace DexGraft.Deflate

/-- Parts of the output: numbers of some bits, and bytes from the next byte boundary on. -/
inductive Piece
  | bits (width value : Nat)
  | bytes (content : Bytes)

structure Sink where
  /-- Whole bytes, last one first. -/
  done : Bytes
  held : Nat
  count : Nat

def Sink.flush : (fuel : Nat) → Sink → Sink
  | 0, sink => sink
  | fuel + 1, sink =>
      if sink.count < 8 then sink
      else
        flush fuel ⟨UInt8.ofNat (sink.held % 256) :: sink.done, sink.held / 256, sink.count - 8⟩

def Sink.align (sink : Sink) : Sink :=
  if sink.count = 0 then sink else ⟨UInt8.ofNat sink.held :: sink.done, 0, 0⟩

def Sink.add (sink : Sink) : Piece → Sink
  | .bits width value =>
      Sink.flush (width / 8 + 1)
        ⟨sink.done, sink.held + value <<< sink.count, sink.count + width⟩
  | .bytes content => ⟨content.reverse ++ sink.align.done, 0, 0⟩

def bytesOf (pieces : List Piece) : Bytes :=
  (pieces.foldl Sink.add ⟨[], 0, 0⟩).align.done.reverse

def reverseBits : (width value : Nat) → Nat
  | 0, _ => 0
  | width + 1, value => (value % 2) <<< width + reverseBits width (value / 2)

def codesOf (lengths : List Nat) : Array Piece :=
  let longest := lengths.foldl max 0
  let firsts := (List.range longest).foldl (fun firsts short =>
    let count := (lengths.filter (· == short)).length
    let before := if short = 0 then 0 else count
    firsts.push ((firsts.getD short 0 + before) * 2)) #[0]
  (lengths.foldl (fun (state : Array Nat × Array Piece) length =>
    let code := state.1.getD length 0
    (state.1.modify length (· + 1), state.2.push (.bits length (reverseBits length code))))
    (firsts, #[])).2

def symbolFor (bases : List (Nat × Nat)) (value : Nat) : Nat :=
  (bases.takeWhile fun base => base.1 ≤ value).length - 1

/-- The greatest length has a symbol of its own, though the one before could reach it. -/
def lengthSymbol (length : Nat) : Nat := 257 + symbolFor lengthBases length

def distanceSymbol (distance : Nat) : Nat := symbolFor distanceBases distance

def endSymbol : Nat := 256

def frequenciesOf (count : Nat) (symbols : List Nat) : List Nat :=
  (symbols.foldl (fun counts symbol => counts.modify symbol (· + 1))
    (Array.replicate count 0)).toList

def literalSymbols (tokens : List Token) : List Nat :=
  tokens.map (fun
    | .literal byte => byte.toNat
    | .copy length _ => lengthSymbol length) ++ [endSymbol]

def distanceSymbols (tokens : List Token) : List Nat :=
  tokens.filterMap fun
    | .literal _ => none
    | .copy _ distance => some (distanceSymbol distance)

def extraBits (bases : List (Nat × Nat)) (symbol : Nat) : Nat :=
  (bases.getD symbol (0, 0)).2

def costOf (lengths frequencies : List Nat) (extra : Nat → Nat) : Nat :=
  let costs := (lengths.zip frequencies).zipIdx.map fun entry =>
    entry.1.2 * (entry.1.1 + extra entry.2)
  costs.foldr (· + ·) 0

def literalExtra (symbol : Nat) : Nat :=
  if symbol < 257 then 0 else extraBits lengthBases (symbol - 257)

structure LengthRun where
  symbol : Nat
  extra : Nat
  value : Nat

def repeatSymbol : Nat := 16
def shortZerosSymbol : Nat := 17
def longZerosSymbol : Nat := 18

def runOf (before : Option Nat) (length count : Nat) : List LengthRun :=
  let least := if length = 0 || before = some length then 3 else 4
  if count < least then List.replicate count ⟨length, 0, 0⟩
  else if length ≠ 0 then
    if before = some length then [⟨repeatSymbol, 2, count - 3⟩]
    else [⟨length, 0, 0⟩, ⟨repeatSymbol, 2, count - 4⟩]
  else if count ≤ 10 then [⟨shortZerosSymbol, 3, count - 3⟩]
  else [⟨longZerosSymbol, 7, count - 11⟩]

def longestRun (before : Option Nat) (length : Nat) : Nat :=
  if length = 0 then 138 else if before = some length then 6 else 7

def runsFrom (before : Option Nat) (count : Nat) : List Nat → List LengthRun
  | [] => []
  | [last] => runOf before last (count + 1)
  | length :: next :: rest =>
      if length = next && count + 1 < longestRun before length then
        runsFrom before (count + 1) (next :: rest)
      else runOf before length (count + 1) ++ runsFrom (some length) 0 (next :: rest)

def dropZeros (lengths : List Nat) : List Nat :=
  (lengths.reverse.dropWhile (· == 0)).reverse

/-- The codes of a block and how they are announced. -/
structure BlockCodes where
  literals : List Nat
  distances : List Nat
  announcement : List Piece
  bits : Nat

def ownCodes (tokens : List Token) : BlockCodes :=
  let literalCounts := frequenciesOf 286 (literalSymbols tokens)
  let distanceCounts := frequenciesOf 30 (distanceSymbols tokens)
  let literals := codeLengths longestCode literalCounts
  let distances := codeLengths longestCode distanceCounts
  let literalPart := dropZeros literals
  let distancePart := dropZeros distances
  let runs := runsFrom none 0 literalPart ++ runsFrom none 0 distancePart
  let runCounts := frequenciesOf 19 (runs.map LengthRun.symbol)
  let runLengths := codeLengths 7 runCounts
  let ordered := lengthOrder.map fun symbol => runLengths.getD symbol 0
  let announced := ordered.take (max 4 (dropZeros ordered).length)
  let runCodes := codesOf runLengths
  let announcement :=
    [.bits 5 (literalPart.length - 257), .bits 5 (distancePart.length - 1),
      .bits 4 (announced.length - 4)] ++
    announced.map (.bits 3 ·) ++
    runs.flatMap fun run =>
      [runCodes.getD run.symbol (.bits 0 0), .bits run.extra run.value]
  let extraOfRun (symbol : Nat) : Nat :=
    if symbol = repeatSymbol then 2 else if symbol = shortZerosSymbol then 3
    else if symbol = longZerosSymbol then 7 else 0
  { literals, distances, announcement
    bits := costOf literals literalCounts literalExtra +
      costOf distances distanceCounts (extraBits distanceBases) +
      costOf runLengths runCounts extraOfRun + 3 * announced.length + 14 }

def fixedCodes (tokens : List Token) : BlockCodes :=
  { literals := fixedLengths
    distances := List.replicate 30 5
    announcement := []
    bits := costOf fixedLengths (frequenciesOf 288 (literalSymbols tokens)) literalExtra +
      costOf (List.replicate 30 5) (frequenciesOf 30 (distanceSymbols tokens))
        (extraBits distanceBases) }

def extendedPieces (bases : List (Nat × Nat)) (symbol value : Nat) : List Piece :=
  let (base, extra) := bases.getD symbol (0, 0)
  [.bits extra (value - base)]

def tokenPieces (literals distances : Array Piece) : Token → List Piece
  | .literal byte => [literals.getD byte.toNat (.bits 0 0)]
  | .copy length distance =>
      let far := distanceSymbol distance
      literals.getD (lengthSymbol length) (.bits 0 0) ::
        extendedPieces lengthBases (lengthSymbol length - 257) length ++
        distances.getD far (.bits 0 0) :: extendedPieces distanceBases far distance

def storedKind : Nat := 0
def fixedKind : Nat := 1
def ownKind : Nat := 2

def codedBlock (final kind : Nat) (codes : BlockCodes) (tokens : List Token) : List Piece :=
  let literals := codesOf codes.literals
  let distances := codesOf codes.distances
  .bits 1 final :: .bits 2 kind :: codes.announcement ++
    tokens.flatMap (tokenPieces literals distances) ++ [literals.getD endSymbol (.bits 0 0)]

/-- Bits of a block rounded up to bytes, with the three bits of its header. -/
def wholeBytes (bits : Nat) : Nat := (bits + 10) / 8

def blockPieces (final : Nat) (tokens : List Token) (content : Bytes) : List Piece :=
  let own := ownCodes tokens
  let fixed := fixedCodes tokens
  let shortest := min (wholeBytes own.bits) (wholeBytes fixed.bits)
  if content.length + 4 ≤ shortest then
    [.bits 1 final, .bits 2 storedKind,
      .bytes (Bytes.fields [(2, content.length), (2, 65535 - content.length)] ++ content)]
  else if wholeBytes fixed.bits ≤ wholeBytes own.bits then codedBlock final fixedKind fixed tokens
  else codedBlock final ownKind own tokens

def blockLimit : Nat := 16383

def blocksFrom : (fuel : Nat) → List Token → Bytes → List Piece
  | 0, _, _ => []
  | fuel + 1, tokens, content =>
      let block := tokens.take blockLimit
      let size := (block.map Token.size).foldr (· + ·) 0
      if block.length < blockLimit then blockPieces 1 block content
      else
        blockPieces 0 block (content.take size) ++
          blocksFrom fuel (tokens.drop blockLimit) (content.drop size)

def deflate (content : Bytes) : Bytes :=
  let tokens := tokensOf content
  bytesOf (blocksFrom (tokens.length + 1) tokens content)

end DexGraft.Deflate
