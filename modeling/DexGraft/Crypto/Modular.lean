import DexGraft.Bytes

/-!
Arithmetic in residue classes, and numbers written with their most significant
byte first.
-/
namespace DexGraft.Crypto

def powMod (base exponent modulus : Nat) : Nat :=
  if exponent = 0 then 1 % modulus
  else
    let half := powMod base (exponent / 2) modulus
    let square := half * half % modulus
    if exponent % 2 = 1 then square * base % modulus else square
termination_by exponent
decreasing_by omega

def inverse (value prime : Nat) : Nat := powMod value (prime - 2) prime

def subMod (first second modulus : Nat) : Nat :=
  (first + (modulus - second % modulus)) % modulus

def bigEndian (width value : Nat) : Bytes := (Bytes.number width value).reverse

def ofBigEndian (bytes : Bytes) : Nat := Bytes.value bytes.reverse

end DexGraft.Crypto
