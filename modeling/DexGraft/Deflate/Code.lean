/-!
Canonical prefix codes given by one code length per symbol, a length of nought
meaning that the symbol does not occur. `Fit` compares a set of lengths with
the room that codes of these lengths have.
-/
namespace DexGraft.Deflate

def longestCode : Nat := 15

structure Code where
  /-- How many symbols have each length, from length one upwards. -/
  counts : List Nat
  /-- The symbols that occur, by length and then by value. -/
  symbols : Array Nat

def symbolsOfLength (lengths : List Nat) (length : Nat) : List Nat :=
  (lengths.zipIdx.filter fun entry => entry.1 == length).map (·.2)

/-- Codes no longer than the longest length in use; a code without symbols still has one bit. -/
def Code.ofLengths (lengths : List Nat) : Code :=
  let longest := max 1 (lengths.foldl max 0)
  let groups := (List.range longest).map fun short => symbolsOfLength lengths (short + 1)
  { counts := groups.map List.length, symbols := groups.flatten.toArray }

inductive Fit
  | exact
  | spare
  | crowded
  deriving DecidableEq

/-- `room` is the number of codes of the current length that no shorter code has taken. -/
def fitFrom (room : Nat) : List Nat → Fit
  | [] => if room = 0 then .exact else .spare
  | count :: rest =>
      if 2 * room < count then .crowded else fitFrom (2 * room - count) rest

def Code.fit (code : Code) : Fit :=
  fitFrom 1 code.counts

/-- A code without symbols, or whose only symbol has one bit, may leave codes unused. -/
def Code.usable (code : Code) : Bool :=
  match code.fit with
  | .exact => true
  | .spare => code.counts.length == 1
  | .crowded => false

end DexGraft.Deflate
