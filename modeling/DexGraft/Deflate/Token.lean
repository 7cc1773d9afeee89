import DexGraft.Bytes

/-!
The tokens of compressed data, found by a search that puts off a match for one
byte in case a longer one begins there. Candidates are the earlier places with
the same hash of three bytes, the nearest first.
-/
namespace DexGraft.Deflate

inductive Token
  | literal (byte : UInt8)
  | copy (length distance : Nat)
  deriving DecidableEq

def shortestMatch : Nat := 3
def longestMatch : Nat := 258

def niceMatch : Nat := 128

def chainLimit : Nat := 128

/-- After a match of this length only a quarter of the candidates is looked at. -/
def goodMatch : Nat := 8

def lazyLimit : Nat := 16

/-- A shortest match from farther away than this is worth less than literals. -/
def farAway : Nat := 4096

def farthest : Nat := 32768 - 262

def hashSize : Nat := 32768

structure Chains where
  /-- The last place with each hash; nought for none, so the first byte begins no match. -/
  last : Array Nat
  /-- For each place the one before it with the same hash. -/
  previous : Array Nat

structure Search where
  data : Array UInt8
  chains : Chains
  place : Nat
  matchLength : Nat
  matchStart : Nat
  /-- Whether the byte before `place` still awaits its token. -/
  pending : Bool
  tokens : Array Token

def byteAt (data : Array UInt8) (place : Nat) : Nat :=
  (data.getD place 0).toNat

def hashAt (data : Array UInt8) (place : Nat) : Nat :=
  (byteAt data place * 1024 ^^^ byteAt data (place + 1) * 32 ^^^ byteAt data (place + 2)) % hashSize

/-- The nearest earlier place with the same hash, and the chains with this place added. -/
def Chains.insert (chains : Chains) (data : Array UInt8) (place : Nat) : Nat × Chains :=
  let hash := hashAt data place
  let head := chains.last.getD hash 0
  (head, { last := chains.last.setIfInBounds hash place,
           previous := chains.previous.setIfInBounds place head })

def Chains.insertMany (data : Array UInt8) : (count : Nat) → (place : Nat) → Chains → Chains
  | 0, _, chains => chains
  | count + 1, place, chains =>
      if place + shortestMatch ≤ data.size then
        insertMany data count (place + 1) (chains.insert data place).2
      else chains

def commonLength (data : Array UInt8) (first second : Nat) : (limit : Nat) → Nat
  | 0 => 0
  | limit + 1 =>
      if data.getD first 0 == data.getD second 0 then
        commonLength data (first + 1) (second + 1) limit + 1
      else 0

def longestAlong (data : Array UInt8) (previous : Array Nat) (place limit : Nat) :
    (fuel : Nat) → (candidate : Nat) → (best : Nat × Nat) → Nat × Nat
  | 0, _, best => best
  | fuel + 1, candidate, best =>
      let length := commonLength data candidate place limit
      let better := if best.1 < length then (length, candidate) else best
      if best.1 < length && min niceMatch limit ≤ length then better
      else
        let next := previous.getD candidate 0
        if next ≤ place - farthest then better
        else longestAlong data previous place limit fuel next better

/-- The match at the current place, if it beats the one before; its length is at least two. -/
def Search.findMatch (search : Search) (candidate : Nat) (chains : Chains) : Nat × Nat :=
  let idle := (shortestMatch - 1, search.matchStart)
  if candidate = 0 || lazyLimit ≤ search.matchLength || farthest < search.place - candidate then
    idle
  else
    let ahead := search.data.size - search.place
    let links := if goodMatch ≤ search.matchLength then chainLimit / 4 else chainLimit
    let (length, start) := longestAlong search.data chains.previous search.place
      (min longestMatch ahead) links candidate (search.matchLength, search.matchStart)
    let length := min length ahead
    if length = shortestMatch && farAway < search.place - start then (shortestMatch - 1, start)
    else (length, start)

/-- Looks at one place: takes the match before it, or the byte before it, or waits. -/
def Search.step (search : Search) : Search :=
  let place := search.place
  let (candidate, chains) :=
    if place + shortestMatch ≤ search.data.size then search.chains.insert search.data place
    else (0, search.chains)
  let (length, start) := search.findMatch candidate chains
  if shortestMatch ≤ search.matchLength && length ≤ search.matchLength then
    { search with
      chains := chains.insertMany search.data (search.matchLength - 2) (place + 1)
      place := place + search.matchLength - 1
      matchLength := shortestMatch - 1
      matchStart := start
      pending := false
      tokens := search.tokens.push
        (.copy search.matchLength (place - 1 - search.matchStart)) }
  else
    { search with
      chains
      place := place + 1
      matchLength := length
      matchStart := start
      pending := true
      tokens := if search.pending then
          search.tokens.push (.literal (search.data.getD (place - 1) 0))
        else search.tokens }

/-- Every step moves on by at least one place. -/
def Search.run : (fuel : Nat) → Search → Search
  | 0, search => search
  | fuel + 1, search =>
      if search.data.size ≤ search.place then search else run fuel search.step

def tokensOf (bytes : Bytes) : List Token :=
  let data := bytes.toArray
  let start : Search :=
    { data, chains := ⟨Array.replicate hashSize 0, Array.replicate data.size 0⟩, place := 0,
      matchLength := shortestMatch - 1, matchStart := 0, pending := false, tokens := #[] }
  let done := start.run (data.size + 1)
  let tokens := if done.pending then done.tokens.push (.literal (data.getD (data.size - 1) 0))
    else done.tokens
  tokens.toList

def Token.size : Token → Nat
  | .literal _ => 1
  | .copy length _ => length

end DexGraft.Deflate
