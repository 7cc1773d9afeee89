/-!
Code lengths for symbols of given frequencies. A heap joins the two rarest
groups until one is left; of equally frequent groups the shallower one is rarer,
and lengths beyond the limit are cut back at the expense of the next shorter ones.
-/
namespace DexGraft.Deflate

structure Forest where
  frequency : Array Nat
  depth : Array Nat
  parent : Array Nat
  /-- Nodes from index one on, each at most as frequent as those at twice its index. -/
  heap : Array Nat
  size : Nat
  /-- Nodes taken off the heap, the last one first. -/
  taken : List Nat

namespace Forest

def smaller (forest : Forest) (first second : Nat) : Bool :=
  let one := forest.frequency.getD first 0
  let two := forest.frequency.getD second 0
  one < two || (one == two && forest.depth.getD first 0 ≤ forest.depth.getD second 0)

def sink (forest : Forest) (node : Nat) : (fuel : Nat) → (index : Nat) → Array Nat → Array Nat
  | 0, index, heap => heap.setIfInBounds index node
  | fuel + 1, index, heap =>
      let left := 2 * index
      if forest.size < left then heap.setIfInBounds index node
      else
        let child :=
          if left < forest.size &&
              forest.smaller (heap.getD (left + 1) 0) (heap.getD left 0) then left + 1
          else left
        if forest.smaller node (heap.getD child 0) then heap.setIfInBounds index node
        else sink forest node fuel child (heap.setIfInBounds index (heap.getD child 0))

def settle (forest : Forest) (index : Nat) : Forest :=
  let node := forest.heap.getD index 0
  { forest with heap := forest.sink node forest.size index forest.heap }

def join (forest : Forest) (node : Nat) : Forest :=
  let first := forest.heap.getD 1 0
  let popped := { forest with
    heap := forest.heap.setIfInBounds 1 (forest.heap.getD forest.size 0), size := forest.size - 1 }
  let popped := popped.settle 1
  let second := popped.heap.getD 1 0
  let joined := { popped with
    frequency := popped.frequency.setIfInBounds node
      (popped.frequency.getD first 0 + popped.frequency.getD second 0)
    depth := popped.depth.setIfInBounds node
      (max (popped.depth.getD first 0) (popped.depth.getD second 0) + 1)
    parent := (popped.parent.setIfInBounds first node).setIfInBounds second node
    heap := popped.heap.setIfInBounds 1 node
    taken := second :: first :: popped.taken }
  joined.settle 1

def joinAll : (fuel : Nat) → (node : Nat) → Forest → Forest
  | 0, _, forest => forest
  | fuel + 1, node, forest =>
      if forest.size < 2 then forest else joinAll fuel (node + 1) (forest.join node)

end Forest

/-- A lone symbol gets its successor as a second one, or nought if it is two or more; without
any symbol nought and one get codes. -/
def withTwoSymbols (frequencies : List Nat) : List Nat :=
  match frequencies.zipIdx.filter (0 < ·.1) with
  | [] => (frequencies.set 0 1).set 1 1
  | [(_, symbol)] => frequencies.set (if symbol < 2 then symbol + 1 else 0) 1
  | _ => frequencies

def plant (frequencies : List Nat) : Forest :=
  let symbols := (frequencies.zipIdx.filter (0 < ·.1)).map (·.2)
  let count := 2 * frequencies.length + 1
  { frequency := (frequencies ++ List.replicate count 0).toArray
    depth := Array.replicate count 0
    parent := Array.replicate count 0
    heap := (0 :: symbols ++ List.replicate count 0).toArray
    size := symbols.length
    taken := [] }

def depthsDown (parent : Array Nat) (longest : Nat) :
    List Nat → Array Nat → Nat → Array Nat × Nat
  | [], lengths, cut => (lengths, cut)
  | node :: rest, lengths, cut =>
      let depth := lengths.getD (parent.getD node 0) 0 + 1
      depthsDown parent longest rest (lengths.setIfInBounds node (min depth longest))
        (if longest < depth then cut + 1 else cut)

/-- Lengthens a code that is shorter than the longest to make room for two cut ones. -/
def makeRoom (longest : Nat) (counts : Array Nat) : Array Nat :=
  match (List.range longest).reverse.find? fun length => 0 < counts.getD length 0 with
  | none => counts
  | some length =>
      let counts := counts.modify length (· - 1)
      let counts := counts.modify (length + 1) (· + 2)
      counts.modify longest (· - 1)

/-- Gives out lengths by their counts, the longest first, to symbols from the rarest on. -/
def deal : (counts : List (Nat × Nat)) → (symbols : List Nat) → Array Nat → Array Nat
  | [], _, lengths => lengths
  | (length, count) :: rest, symbols, lengths =>
      deal rest (symbols.drop count)
        ((symbols.take count).foldl (fun lengths symbol => lengths.setIfInBounds symbol length)
          lengths)

def codeLengths (longest : Nat) (frequencies : List Nat) : List Nat :=
  let total := frequencies.length
  let forest := plant (withTwoSymbols frequencies)
  let forest := (List.range (forest.size / 2)).reverse.foldl
    (fun forest index => forest.settle (index + 1)) forest
  let forest := Forest.joinAll total total forest
  let nodes := forest.heap.getD 1 0 :: forest.taken
  let (lengths, cut) :=
    depthsDown forest.parent longest nodes.tail (Array.replicate (2 * total + 1) 0) 0
  let leaves := nodes.filter (· < total)
  let counts := leaves.foldl (fun counts leaf => counts.modify (lengths.getD leaf 0) (· + 1))
    (Array.replicate (longest + 2) 0)
  let lengths :=
    if cut = 0 then lengths
    else
      let counts := Nat.repeat (makeRoom longest) ((cut + 1) / 2) counts
      let shares := (List.range (longest + 1)).reverse.map fun length =>
        (length, if length = 0 then 0 else counts.getD length 0)
      deal shares leaves.reverse lengths
  lengths.toList.take total

end DexGraft.Deflate
