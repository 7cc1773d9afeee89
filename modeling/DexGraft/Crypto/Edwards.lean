import DexGraft.Crypto.Sha2

/-!
Points of the twisted Edwards curve `y² - x² = 1 + dx²y²` over the field of
`2²⁵⁵ - 19` elements, and the public keys that seeds have on it.
-/
namespace DexGraft.Crypto.Edwards

def prime : Nat := Nat.pow 2 255 - 19

def d : Nat := subMod 0 (121665 * inverse 121666 prime) prime

abbrev Point := Nat × Nat

def neutral : Point := (0, 1)

def base : Point :=
  (0x216936d3cd6e53fec0a4e231fdd6dc5c692cc7609525a7b2c9562d608f25d51a,
    4 * inverse 5 prime % prime)

def add (first second : Point) : Point :=
  let product := d * (first.1 * second.1 % prime) % prime * (first.2 * second.2 % prime) % prime
  let x := (first.1 * second.2 + first.2 * second.1) * inverse (1 + product) prime
  let y := (first.2 * second.2 + first.1 * second.1) * inverse (subMod 1 product prime) prime
  (x % prime, y % prime)

def multiply (count : Nat) (point : Point) : Point :=
  if count = 0 then neutral
  else
    let half := multiply (count / 2) point
    let twice := add half half
    if count % 2 = 1 then add twice point else twice
termination_by count
decreasing_by omega

def seedSize : Nat := 32

/-- The number that a seed stands for: a multiple of eight between `2²⁵⁴` and `2²⁵⁵`. -/
def scalar (seed : Bytes) : Nat :=
  let low := Bytes.value ((sha512.digest seed).take seedSize)
  let top := Nat.pow 2 254
  top + low % top / 8 * 8

/-- The point of a seed: its second coordinate, with the parity of the first in the top bit. -/
def publicKey (seed : Bytes) : Bytes :=
  let (x, y) := multiply (scalar seed) base
  Bytes.number seedSize (y + (x % 2) <<< 255)

end DexGraft.Crypto.Edwards
