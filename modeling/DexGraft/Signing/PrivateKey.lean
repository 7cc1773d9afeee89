import DexGraft.Crypto.Curve
import DexGraft.Crypto.Edwards
import DexGraft.Signing.Der

/-!
Private keys, their forms in files, and the public keys that belong to them. A
key may come in the general form, which names its algorithm, or in the form of
its own algorithm; it is always written in the general form.
-/
namespace DexGraft.Signing

open Crypto Item

structure RsaKey where
  modulus : Nat
  exponent : Nat
  secret : Nat
  firstPrime : Nat
  secondPrime : Nat
  firstSecret : Nat
  secondSecret : Nat
  coefficient : Nat

structure DsaKey where
  prime : Nat
  order : Nat
  base : Nat
  secret : Nat

inductive RawKind
  | x25519
  | x448
  | ed25519
  | ed448
  deriving DecidableEq

inductive PrivateKey
  | rsa (key : RsaKey)
  | dsa (key : DsaKey)
  | elliptic (curve : Curve) (secret : Nat)
  | raw (kind : RawKind) (secret : Bytes)

def RawKind.all : List RawKind := [.x25519, .x448, .ed25519, .ed448]

def RawKind.id : RawKind → List Nat
  | .x25519 => [1, 3, 101, 110]
  | .x448 => [1, 3, 101, 111]
  | .ed25519 => [1, 3, 101, 112]
  | .ed448 => [1, 3, 101, 113]

def RawKind.size : RawKind → Nat
  | .x25519 | .ed25519 => 32
  | .x448 => 56
  | .ed448 => 57

def rsaId : List Nat := [1, 2, 840, 113549, 1, 1, 1]

def dsaId : List Nat := [1, 2, 840, 10040, 4, 1]

def ellipticId : List Nat := [1, 2, 840, 10045, 2, 1]

namespace RsaKey

def numbers (key : RsaKey) : List Nat :=
  [0, key.modulus, key.exponent, key.secret, key.firstPrime, key.secondPrime, key.firstSecret,
    key.secondSecret, key.coefficient]

def isSound (key : RsaKey) : Bool :=
  let p := key.firstPrime
  let q := key.secondPrime
  1 < p && 1 < q && p * q == key.modulus && 1 < key.exponent &&
    key.secret * key.exponent % (p - 1) == 1 % (p - 1) &&
    key.secret * key.exponent % (q - 1) == 1 % (q - 1) &&
    key.firstSecret == key.secret % (p - 1) && key.secondSecret == key.secret % (q - 1) &&
    key.coefficient * q % p == 1

def encode (key : RsaKey) : Bytes := sequence (key.numbers.map integer)

def ofItem? (item : Item) : Option RsaKey := do
  match ← (← item.sequence?).mapM natural? with
  | [0, modulus, exponent, secret, firstPrime, secondPrime, firstSecret, secondSecret,
      coefficient] =>
      let key : RsaKey := ⟨modulus, exponent, secret, firstPrime, secondPrime, firstSecret,
        secondSecret, coefficient⟩
      if key.isSound then some key else none
  | _ => none

end RsaKey

namespace DsaKey

def parameters (key : DsaKey) : Bytes :=
  sequence [integer key.prime, integer key.order, integer key.base]

def publicNumber (key : DsaKey) : Nat := powMod key.base key.secret key.prime

def isSound (key : DsaKey) : Bool :=
  1 < key.prime && 0 < key.secret && key.secret < key.order

def ofParameters? (parameters : Item) (secret : Nat) : Option DsaKey := do
  match ← (← parameters.sequence?).mapM natural? with
  | [prime, order, base] =>
      let key : DsaKey := ⟨prime, order, base, secret⟩
      if key.isSound then some key else none
  | _ => none

def ofItem? (item : Item) : Option DsaKey := do
  match ← (← item.sequence?).mapM natural? with
  | [0, prime, order, base, publicNumber, secret] =>
      let key : DsaKey := ⟨prime, order, base, secret⟩
      if key.isSound && key.publicNumber == publicNumber then some key else none
  | _ => none

end DsaKey

namespace Elliptic

def ofId? (id : Item) : Option Curve := curves.find? fun curve => id.isObject curve.id

/-- The marked members of a key: the curve's name, and the public point in bits. -/
def members? : List Item → Option (Option Item × Option Bytes)
  | [] => some (none, none)
  | [item] =>
      if item.tag = markedTag 0 then do return (some (← item.marked? 0), none)
      else do return (none, some (← (← item.marked? 1).bits?))
  | [name, point] => do return (some (← name.marked? 0), some (← (← point.marked? 1).bits?))
  | _ => none

/-- A key whose curve is named outside of it, inside of it, or in both places alike. A public
point has to be the one that belongs to the key. -/
def ofItem? (item : Item) (outer : Option Item) : Option PrivateKey := do
  match ← item.sequence? with
  | version :: secret :: rest =>
      let secret := ofBigEndian (← secret.content? octetsTag)
      let (inner, point) ← members? rest
      let name ← outer <|> inner
      let curve ← ofId? name
      let isSound := version.natural? == some 1 && 0 < secret && secret < curve.order &&
        inner.all (· == name) && point.all (· == curve.publicPoint secret)
      if isSound then some (.elliptic curve secret) else none
  | _ => none

def encode (curve : Curve) (secret : Nat) : Bytes :=
  sequence [integer 1, octets (bigEndian curve.size secret),
    Item.encode (markedTag 1) (bits (curve.publicPoint secret))]

end Elliptic

namespace PrivateKey

def algorithm : PrivateKey → Bytes
  | .rsa _ => sequence [object rsaId, null]
  | .dsa key => sequence [object dsaId, key.parameters]
  | .elliptic curve _ => sequence [object ellipticId, object curve.id]
  | .raw kind _ => sequence [object kind.id]

def body : PrivateKey → Bytes
  | .rsa key => key.encode
  | .dsa key => integer key.secret
  | .elliptic curve secret => Elliptic.encode curve secret
  | .raw _ secret => octets secret

def encode (key : PrivateKey) : Bytes :=
  sequence [integer 0, key.algorithm, octets key.body]

def publicInfo? : PrivateKey → Option Bytes
  | .rsa key =>
      some (sequence [sequence [object rsaId, null],
        bits (sequence [integer key.modulus, integer key.exponent])])
  | .dsa key =>
      some (sequence [sequence [object dsaId, key.parameters], bits (integer key.publicNumber)])
  | .elliptic curve secret =>
      some (sequence [sequence [object ellipticId, object curve.id],
        bits (curve.publicPoint secret)])
  | .raw .ed25519 seed =>
      some (sequence [sequence [object RawKind.ed25519.id], bits (Edwards.publicKey seed)])
  | .raw _ _ => none

def ofBody? (id : Item) (parameters : Option Item) (body : Bytes) : Option PrivateKey := do
  let item ← readOnly body
  if id.isObject rsaId then (RsaKey.ofItem? item).map .rsa
  else if id.isObject dsaId then
    (DsaKey.ofParameters? (← parameters) (← item.natural?)).map .dsa
  else if id.isObject ellipticId then Elliptic.ofItem? item (some (← parameters))
  else
    let kind ← RawKind.all.find? fun kind => id.isObject kind.id
    let secret ← item.content? octetsTag
    if parameters.isNone && secret.length = kind.size then some (.raw kind secret) else none

def isAttributes (item : Item) : Bool := item.tag == markedTag 0

def ofGeneral? (item : Item) : Option PrivateKey := do
  match ← item.sequence? with
  | version :: named :: body :: rest =>
      let (id, parameters) ← named.algorithm?
      if version.natural? = some 0 && rest.length ≤ 1 && rest.all isAttributes then
        ofBody? id parameters (← body.content? octetsTag)
      else none
  | _ => none

def ofAny? (bytes : Bytes) : Option PrivateKey := do
  let item ← readOnly bytes
  ofGeneral? item <|> (RsaKey.ofItem? item).map .rsa <|> Elliptic.ofItem? item none <|>
    (DsaKey.ofItem? item).map .dsa

def ofLabelled? (label : String) (bytes : Bytes) : Option PrivateKey := do
  let item ← readOnly bytes
  match label with
  | "PRIVATE KEY" => ofGeneral? item
  | "RSA PRIVATE KEY" => (RsaKey.ofItem? item).map .rsa
  | "EC PRIVATE KEY" => Elliptic.ofItem? item none
  | "DSA PRIVATE KEY" => (DsaKey.ofItem? item).map .dsa
  | _ => none

end PrivateKey
end DexGraft.Signing
