import DexGraft.Bytes

/-!
Bytes in sixty-four digits of six bits each: three bytes make four digits, and
one or two bytes at the end are filled up with equals signs.
-/
namespace DexGraft.Base64

def alphabet : List Char :=
  "ABCDEFGHIJKLMNOPQRSTUVWXYZabcdefghijklmnopqrstuvwxyz0123456789+/".toList

def digit (value : Nat) : Char := alphabet.getD value 'A'

def value? (c : Char) : Option Nat :=
  if 'A'.toNat ≤ c.toNat && c.toNat ≤ 'Z'.toNat then some (c.toNat - 'A'.toNat)
  else if 'a'.toNat ≤ c.toNat && c.toNat ≤ 'z'.toNat then some (c.toNat - 'a'.toNat + 26)
  else if '0'.toNat ≤ c.toNat && c.toNat ≤ '9'.toNat then some (c.toNat - '0'.toNat + 52)
  else if c == '+' then some 62
  else if c == '/' then some 63
  else none

/-- The lowest `count` digits of a number, most significant first. -/
def digitsOf : (count number : Nat) → List Char
  | 0, _ => []
  | count + 1, number => digitsOf count (number / 64) ++ [digit (number % 64)]

def encode : Bytes → List Char
  | a :: b :: c :: rest =>
      digitsOf 4 ((a.toNat * 256 + b.toNat) * 256 + c.toNat) ++ encode rest
  | [a, b] => digitsOf 3 ((a.toNat * 256 + b.toNat) * 4) ++ ['=']
  | [a] => digitsOf 2 (a.toNat * 16) ++ ['=', '=']
  | [] => []

/-- Refuses everything that `encode` does not write. -/
def decode : List Char → Option Bytes
  | [] => some []
  | [a, b, '=', '='] => do
      let number := (← value? a) * 64 + (← value? b)
      if number % 16 = 0 then some [UInt8.ofNat (number / 16)] else none
  | [a, b, c, '='] => do
      let number := ((← value? a) * 64 + (← value? b)) * 64 + (← value? c)
      if number % 4 = 0 then some [UInt8.ofNat (number / 1024), UInt8.ofNat (number / 4 % 256)]
      else none
  | a :: b :: c :: d :: rest => do
      let high := (← value? a) * 64 + (← value? b)
      let number := (high * 64 + (← value? c)) * 64 + (← value? d)
      let others ← decode rest
      return UInt8.ofNat (number / 65536) :: UInt8.ofNat (number / 256 % 256) ::
        UInt8.ofNat (number % 256) :: others
  | _ => none

end DexGraft.Base64
