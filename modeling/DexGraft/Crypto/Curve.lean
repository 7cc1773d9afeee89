import DexGraft.Crypto.Modular

/-!
Points of the elliptic curves `y² = x³ + ax + b` over a prime field. The point
at infinity is `none`, and no sum of points depends on `b`.
-/
namespace DexGraft.Crypto

abbrev CurvePoint := Option (Nat × Nat)

structure Curve where
  /-- The object identifier's numbers. -/
  id : List Nat
  /-- How many bytes a coordinate takes. -/
  size : Nat
  prime : Nat
  a : Nat
  base : Nat × Nat
  order : Nat

namespace Curve

def along (curve : Curve) (slope : Nat) (point : Nat × Nat) (otherX : Nat) : CurvePoint :=
  let x := subMod (slope * slope) (point.1 + otherX) curve.prime
  some (x, subMod (slope * subMod point.1 x curve.prime) point.2 curve.prime)

def add (curve : Curve) : CurvePoint → CurvePoint → CurvePoint
  | none, second => second
  | first, none => first
  | some (x₁, y₁), some (x₂, y₂) =>
      if x₁ = x₂ then
        if (y₁ + y₂) % curve.prime = 0 then none
        else
          let slope := (3 * x₁ * x₁ + curve.a) * inverse (2 * y₁) curve.prime % curve.prime
          curve.along slope (x₁, y₁) x₂
      else
        let run := inverse (subMod x₂ x₁ curve.prime) curve.prime
        let slope := subMod y₂ y₁ curve.prime * run % curve.prime
        curve.along slope (x₁, y₁) x₂

def multiply (curve : Curve) (count : Nat) (point : CurvePoint) : CurvePoint :=
  if count = 0 then none
  else
    let half := multiply curve (count / 2) point
    let twice := curve.add half half
    if count % 2 = 1 then curve.add twice point else twice
termination_by count
decreasing_by omega

def encode (curve : Curve) : CurvePoint → Bytes
  | none => [0]
  | some (x, y) => 4 :: bigEndian curve.size x ++ bigEndian curve.size y

def publicPoint (curve : Curve) (secret : Nat) : Bytes :=
  curve.encode (curve.multiply secret (some curve.base))

end Curve

def p224 : Curve where
  id := [1, 3, 132, 0, 33]
  size := 28
  prime := 0xffffffffffffffffffffffffffffffff000000000000000000000001
  a := 0xfffffffffffffffffffffffffffffffefffffffffffffffffffffffe
  base := (0xb70e0cbd6bb4bf7f321390b94a03c1d356c21122343280d6115c1d21,
    0xbd376388b5f723fb4c22dfe6cd4375a05a07476444d5819985007e34)
  order := 0xffffffffffffffffffffffffffff16a2e0b8f03e13dd29455c5c2a3d

def p256 : Curve where
  id := [1, 2, 840, 10045, 3, 1, 7]
  size := 32
  prime := 0xffffffff00000001000000000000000000000000ffffffffffffffffffffffff
  a := 0xffffffff00000001000000000000000000000000fffffffffffffffffffffffc
  base := (0x6b17d1f2e12c4247f8bce6e563a440f277037d812deb33a0f4a13945d898c296,
    0x4fe342e2fe1a7f9b8ee7eb4a7c0f9e162bce33576b315ececbb6406837bf51f5)
  order := 0xffffffff00000000ffffffffffffffffbce6faada7179e84f3b9cac2fc632551

def p384 : Curve where
  id := [1, 3, 132, 0, 34]
  size := 48
  prime := 0xfffffffffffffffffffffffffffffffffffffffffffffffffffffffffffffffeffffffff0000000000000000ffffffff
  a := 0xfffffffffffffffffffffffffffffffffffffffffffffffffffffffffffffffeffffffff0000000000000000fffffffc
  base := (
    0xaa87ca22be8b05378eb1c71ef320ad746e1d3b628ba79b9859f741e082542a385502f25dbf55296c3a545e3872760ab7,
    0x3617de4a96262c6f5d9e98bf9292dc29f8f41dbd289a147ce9da3113b5f0b8c00a60b1ce1d7e819d7a431d7c90ea0e5f)
  order := 0xffffffffffffffffffffffffffffffffffffffffffffffffc7634d81f4372ddf581a0db248b0a77aecec196accc52973

def p521 : Curve where
  id := [1, 3, 132, 0, 35]
  size := 66
  prime := 0x1ffffffffffffffffffffffffffffffffffffffffffffffffffffffffffffffffffffffffffffffffffffffffffffffffffffffffffffffffffffffffffffffffff
  a := 0x1fffffffffffffffffffffffffffffffffffffffffffffffffffffffffffffffffffffffffffffffffffffffffffffffffffffffffffffffffffffffffffffffffc
  base := (
    0x00c6858e06b70404e9cd9e3ecb662395b4429c648139053fb521f828af606b4d3dbaa14b5e77efe75928fe1dc127a2ffa8de3348b3c1856a429bf97e7e31c2e5bd66,
    0x011839296a789a3bc0045c8a5fb42c7d1bd998f54449579b446817afbd17273e662c97ee72995ef42640c550b9013fad0761353c7086a272c24088be94769fd16650)
  order := 0x01fffffffffffffffffffffffffffffffffffffffffffffffffffffffffffffffffa51868783bf2f966b7fcc0148f709a5d03bb5c9b8899c47aebb6fb71e91386409

def k256 : Curve where
  id := [1, 3, 132, 0, 10]
  size := 32
  prime := 0xfffffffffffffffffffffffffffffffffffffffffffffffffffffffefffffc2f
  a := 0
  base := (0x79be667ef9dcbbac55a06295ce870b07029bfcdb2dce28d959f2815b16f81798,
    0x483ada7726a3c4655da4fbfc0e1108a8fd17b448a68554199c47d08ffb10d4b8)
  order := 0xfffffffffffffffffffffffffffffffebaaedce6af48a03bbfd25e8cd0364141

def curves : List Curve := [p224, p256, p384, p521, k256]

end DexGraft.Crypto
