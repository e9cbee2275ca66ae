import KeyEnclave.Cipher.Hmac
import KeyEnclave.Cipher.P256

/-!
# ECDSA over P-256

Signatures over hashed messages. The nonce is derived from the private value and the hash with a
generator built on HMAC-SHA-256, so signing a hash twice gives the same signature.

## Main definitions

* `Ecdsa.SigningKey` — a private value with its public point.
* `Ecdsa.Signature` — the two components, neither of which is zero.
* `Ecdsa.sign`, `Ecdsa.verify` — over a hash, of which 32 bytes count.
* `Ecdsa.nonce?` — the nonce of a signature.

## Design notes

The derivation of nonces uses the hash as it is, not reduced modulo the order. Nothing forces the
second component to be the smaller of its two values, neither when signing nor when verifying.
-/

namespace KeyEnclave.Ecdsa

open P256

/-- A private value with the public point that it leads to. -/
structure SigningKey where
  scalar : Scalar
  point : Point
  point_eq : multiply scalar Point.generator = some point

/-- The key whose private value is one. -/
instance : Inhabited SigningKey := ⟨⟨1, Point.generator, by decide +kernel⟩⟩

/-- The key whose private value has the given big-endian bytes. -/
def SigningKey.ofBytes? (bytes : Bytes) : Option SigningKey := do
  let scalar ← scalarOfBytes? bytes
  match h : multiply scalar Point.generator with
  | some point => some ⟨scalar, point, h⟩
  | none => none

/-- A signature. -/
structure Signature where
  r : Scalar
  s : Scalar
  deriving DecidableEq, Repr

namespace Signature

/-- The length of a signature in bytes. -/
def length : Nat := 2 * elementLength

/-- The big-endian components one after the other. -/
def toBytes (signature : Signature) : Bytes :=
  elementBytes signature.r ++ elementBytes signature.s

/-- The signature of such bytes, unless a component is zero or not below the order. -/
def ofBytes? (bytes : Bytes) : Option Signature :=
  if bytes.length ≠ length then none
  else do
    let r ← element? (bytes.take elementLength)
    let s ← element? (bytes.drop elementLength)
    if r = 0 ∨ s = 0 then none else some ⟨r, s⟩

end Signature

/-- The 32 bytes of a hash that count: the first of a longer one, a shorter one after zeros. A hash
of fewer than 16 bytes is refused. -/
def fieldOfHash? (hash : Bytes) : Option Bytes :=
  if hash.length < elementLength / 2 then none
  else
    some (List.replicate (elementLength - hash.length) 0 ++ hash.take elementLength)

/-- The state of the generator of nonces. -/
structure NonceState where
  key : Bytes
  value : Bytes

namespace NonceState

/-- Mix a separator and a seed into the state. -/
def mix (state : NonceState) (separator : UInt8) (seed : Bytes) : NonceState :=
  let key := hmacSha256 state.key (state.value ++ [separator] ++ seed)
  ⟨key, hmacSha256 key state.value⟩

/-- The state for a private value and a hash. -/
def seeded (scalar : Scalar) (hash : Bytes) : NonceState :=
  let seed := elementBytes scalar ++ hash
  let blank : NonceState := ⟨List.replicate 32 0x00, List.replicate 32 0x01⟩
  (blank.mix 0x00 seed).mix 0x01 seed

/-- The next candidate, and the state after it. -/
def next (state : NonceState) : Bytes × NonceState :=
  let value := hmacSha256 state.key state.value
  (value, NonceState.mix ⟨state.key, value⟩ 0x00 [])

end NonceState

/-- The first candidate that is a scalar other than zero, among `budget` of them. -/
def nonceWithin : Nat → NonceState → Option Scalar
  | 0, _ => none
  | budget + 1, state =>
    let (candidate, state) := state.next
    match element? candidate with
    | some nonce => if nonce = 0 then nonceWithin budget state else some nonce
    | none => nonceWithin budget state

/-- How many candidates are looked at; one in 2³² is refused. -/
def nonceBudget : Nat := 64

/-- The nonce for a private value and a hash. -/
def nonce? (scalar : Scalar) (hash : Bytes) : Option Scalar :=
  nonceWithin nonceBudget (NonceState.seeded scalar hash)

/-- The scalar that a hash of 32 bytes stands for. -/
def hashScalar (hash : Bytes) : Scalar := Scalar.ofNat (Bytes.toNatBE hash)

/-- The signature of a hash. -/
def sign (scalar : Scalar) (hash : Bytes) : Option Signature := do
  let hash ← fieldOfHash? hash
  let nonce ← nonce? scalar hash
  let point ← multiply nonce Point.generator
  let r := Scalar.ofNat point.x.val
  let s := inverse nonce * (hashScalar hash + r * scalar)
  if r = 0 ∨ s = 0 then none else some ⟨r, s⟩

/-- Whether a signature of a hash is by the holder of the private value behind a point. -/
def verify (key : Point) (hash : Bytes) (signature : Signature) : Bool :=
  match fieldOfHash? hash with
  | none => false
  | some hash =>
    let inv := inverse signature.s
    match multiplyAdd (hashScalar hash * inv) (signature.r * inv) key with
    | some point => Scalar.ofNat point.x.val == signature.r
    | none => false

/-- The length of the secret two key holders share. -/
def sharedLength : Nat := elementLength

/-- The secret shared by the holder of a private value and the holder of the one behind a point. -/
def sharedSecret (scalar : Scalar) (peer : Point) : Option Bytes :=
  (multiply scalar peer).map fun point => elementBytes point.x

end KeyEnclave.Ecdsa
