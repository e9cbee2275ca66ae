import KeyEnclave.Cipher.ChaCha20Poly1305
import KeyEnclave.Cipher.DerSignature
import KeyEnclave.Cipher.Ecdsa
import KeyEnclave.Provider.Basic
import KeyEnclave.Provider.KeyMaterial
import KeyEnclave.Session.PerSession

/-!
# The software provider

The mechanisms of the enclave, computed in software.

## Main definitions

* `RandomSource` — where new keys come from.
* `Operation` — the context of an operation in progress.
* `SoftwareCrypto` — the provider: a source of new keys and one context per session.
* `SoftwareCrypto.oneShot` — run the last step of an operation and drop its context, unless the
  caller only learnt the length of the output.

## Design notes

ChaCha20-Poly1305 takes its nonce as mechanism parameter and puts the tag behind the ciphertext.

How random bytes become a key is left to the source. It draws until it has a key, so making a key
pair does not fail for want of one.
-/

namespace KeyEnclave

/-- A source of random keys with states in `R`. -/
class RandomSource (R : Type) where
  signingKey : R → Ecdsa.SigningKey × R

/-- The context of an operation in progress. `prehashed` says that data comes hashed. -/
inductive Operation
  | digest (hasher : Sha256)
  | ecdsaSign (prehashed : Bool) (key : P256.Scalar)
  | ecdsaVerify (prehashed : Bool) (key : P256.Point)
  | hmacSign (key : Bytes)
  | hmacVerify (key : Bytes)
  | encrypt (key nonce : Bytes)
  | decrypt (key nonce : Bytes)
  deriving DecidableEq, Repr

/-- The software provider over a source of random keys. -/
structure SoftwareCrypto (R : Type) where
  rng : R
  operations : PerSession Operation

namespace SoftwareCrypto

/-- A provider without contexts. -/
def new {R : Type} (rng : R) : SoftwareCrypto R := ⟨rng, .empty⟩

-- ═══════════════════════════════════════════════════════════════════════════
-- Mechanisms
-- ═══════════════════════════════════════════════════════════════════════════

/-- The mechanisms and what is known of them. -/
def mechanisms : List (MechanismKind × MechanismInfo) :=
  let signs := MechanismFlags.sign ||| MechanismFlags.verify
  [(MechanismKind.sha256, ⟨0, 0, MechanismFlags.digest⟩),
    (MechanismKind.sha256Hmac, ⟨16, 64, signs⟩),
    (MechanismKind.ecdsa, ⟨256, 256, signs⟩),
    (MechanismKind.ecdsaSha256, ⟨256, 256, signs⟩),
    (MechanismKind.ecKeyPairGen, ⟨256, 256, MechanismFlags.generateKeyPair⟩),
    (MechanismKind.ecdh1Derive, ⟨256, 256, MechanismFlags.derive⟩),
    (MechanismKind.hkdfDerive, ⟨16, 64, MechanismFlags.derive⟩),
    (MechanismKind.chacha20Poly1305,
      ⟨32, 32, MechanismFlags.encrypt ||| MechanismFlags.decrypt⟩)]

/-- What is known of a mechanism. -/
def mechanismInfo (kind : MechanismKind) : Option MechanismInfo :=
  (mechanisms.find? fun entry => entry.1 == kind).map Prod.snd

/-- The longest key for authentication codes. -/
def hmacKeyMax : Nat := 64

/-- The most data that is encrypted or decrypted at once: the largest blob and a tag. -/
def scratchLength : Nat := Limits.blobLength + ChaCha20Poly1305.tagLength

/-- Key and nonce of an authenticated encryption. -/
def cipherContext (mechanism : Mechanism) (key : ObjectView) :
    Except ReturnCode (Bytes × Bytes) := do
  if mechanism.kind ≠ MechanismKind.chacha20Poly1305 then throw .mechanismInvalid
  if mechanism.parameter.length ≠ ChaCha20Poly1305.nonceLength then throw .argumentsBad
  let secret ← key.secretValue
  if secret.length ≠ ChaCha20Poly1305.keyLength then throw .keyHandleInvalid
  pure (secret, mechanism.parameter)

/-- The key of an authentication code. -/
def hmacKey (key : ObjectView) : Except ReturnCode Bytes := do
  let secret ← key.secretValue
  if hmacKeyMax < secret.length then throw .keyHandleInvalid
  pure secret

/-- The context of a digest. -/
def digestContext (mechanism : Mechanism) : Except ReturnCode Operation :=
  if mechanism.kind = MechanismKind.sha256 then .ok (.digest .new) else .error .mechanismInvalid

/-- The context of a signature. -/
def signContext (mechanism : Mechanism) (key : ObjectView) : Except ReturnCode Operation :=
  if mechanism.kind = MechanismKind.ecdsa then key.signingKey.map (.ecdsaSign true)
  else if mechanism.kind = MechanismKind.ecdsaSha256 then key.signingKey.map (.ecdsaSign false)
  else if mechanism.kind = MechanismKind.sha256Hmac then (hmacKey key).map .hmacSign
  else .error .mechanismInvalid

/-- The context of a verification. -/
def verifyContext (mechanism : Mechanism) (key : ObjectView) : Except ReturnCode Operation :=
  if mechanism.kind = MechanismKind.ecdsa then key.verifyingKey.map (.ecdsaVerify true)
  else if mechanism.kind = MechanismKind.ecdsaSha256 then key.verifyingKey.map (.ecdsaVerify false)
  else if mechanism.kind = MechanismKind.sha256Hmac then (hmacKey key).map .hmacVerify
  else .error .mechanismInvalid

-- ═══════════════════════════════════════════════════════════════════════════
-- Steps of an operation
-- ═══════════════════════════════════════════════════════════════════════════

/-- Encrypt data. The length is reported before the data is found too long. -/
def sealData (key nonce data : Bytes) (room : Option Nat) : Delivery :=
  let required := data.length + ChaCha20Poly1305.tagLength
  if scratchLength < data.length then ⟨.dataLenRange, some required, []⟩
  else match room with
    | none => ⟨.ok, some required, []⟩
    | some room =>
      if room < required then ⟨.bufferTooSmall, some required, []⟩
      else
        let (ciphertext, tag) := ChaCha20Poly1305.encrypt key nonce data
        ⟨.ok, some required, ciphertext ++ tag⟩

/-- Decrypt data with its tag behind it. -/
def openSealed (key nonce data : Bytes) (room : Option Nat) : Delivery :=
  if data.length < ChaCha20Poly1305.tagLength then .refused .encryptedDataInvalid
  else
    let plainLength := data.length - ChaCha20Poly1305.tagLength
    if scratchLength < plainLength then .refused .dataLenRange
    else
      match ChaCha20Poly1305.decrypt key nonce (data.take plainLength) (data.drop plainLength) with
      | none => .refused .encryptedDataInvalid
      | some plain => deliver plain room

/-- The hash a signature is made over. -/
def hashed (prehashed : Bool) (data : Bytes) : Bytes :=
  if prehashed then data else Sha256.hash data

/-- Sign data. The length of a signature is known without making one. -/
def signStep (operation : Operation) (data : Bytes) (room : Option Nat) : Delivery :=
  match operation with
  | .ecdsaSign prehashed key =>
    if room.isNone then ⟨.ok, some Ecdsa.Signature.length, []⟩
    else match Ecdsa.sign key (hashed prehashed data) with
      | some signature => deliver signature.toBytes room
      | none => .refused .dataInvalid
  | .hmacSign key => deliver (hmacSha256 key data) room
  | _ => .refused .operationNotInitialised

/-- Check a signature of data. -/
def verifyStep (operation : Operation) (data signature : Bytes) : ReturnCode :=
  match operation with
  | .ecdsaVerify prehashed key =>
    match (rawSignature? signature).bind Ecdsa.Signature.ofBytes? with
    | none => .signatureInvalid
    | some signature =>
      if Ecdsa.verify key (hashed prehashed data) signature then .ok else .signatureInvalid
  | .hmacVerify key => if hmacSha256 key data = signature then .ok else .signatureInvalid
  | _ => .operationNotInitialised

/-- Hash data after what was absorbed. -/
def digestStep (operation : Operation) (data : Bytes) (room : Option Nat) : Delivery :=
  match operation with
  | .digest hasher => deliver (hasher.update data).digest room
  | _ => .refused .operationNotInitialised

/-- Encrypt with the context of an encryption. -/
def encryptStep (operation : Operation) (data : Bytes) (room : Option Nat) : Delivery :=
  match operation with
  | .encrypt key nonce => sealData key nonce data room
  | _ => .refused .operationNotInitialised

/-- Decrypt with the context of a decryption. -/
def decryptStep (operation : Operation) (data : Bytes) (room : Option Nat) : Delivery :=
  match operation with
  | .decrypt key nonce => openSealed key nonce data room
  | _ => .refused .operationNotInitialised

-- ═══════════════════════════════════════════════════════════════════════════
-- Contexts
-- ═══════════════════════════════════════════════════════════════════════════

variable {R : Type}

/-- Drop the context of a session. -/
def release (crypto : SoftwareCrypto R) (session : SessionHandle) : SoftwareCrypto R :=
  { crypto with operations := crypto.operations.set session none }

/-- Begin an operation in a session that has none. -/
def start (crypto : SoftwareCrypto R) (session : SessionHandle)
    (operation : Except ReturnCode Operation) : ReturnCode × SoftwareCrypto R :=
  match operation with
  | .error code => (code, crypto)
  | .ok operation =>
    if session.index?.isNone then (.sessionHandleInvalid, crypto)
    else match crypto.operations.get? session with
      | some _ => (.operationActive, crypto)
      | none => (.ok, { crypto with operations := crypto.operations.set session (some operation) })

/-- The context of a session. -/
def context (crypto : SoftwareCrypto R) (session : SessionHandle) : Except ReturnCode Operation :=
  if session.index?.isNone then .error .sessionHandleInvalid
  else match crypto.operations.get? session with
    | some operation => .ok operation
    | none => .error .operationNotInitialised

/-- Whether a context outlives a step: the caller only learnt the length, or brought too short a
buffer. -/
def outlives (code : ReturnCode) (room : Option Nat) : Bool :=
  (code == .ok && room.isNone) || code == .bufferTooSmall

/-- Run the last step of an operation. -/
def oneShot (crypto : SoftwareCrypto R) (session : SessionHandle) (room : Option Nat)
    (step : Operation → Delivery) : Delivery × SoftwareCrypto R :=
  match crypto.context session with
  | .error code => (.refused code, crypto)
  | .ok operation =>
    let delivery := step operation
    (delivery, if outlives delivery.code room then crypto else crypto.release session)

/-- Absorb data into the digest of a session. -/
def digestUpdate (crypto : SoftwareCrypto R) (session : SessionHandle) (data : Bytes) :
    ReturnCode × SoftwareCrypto R :=
  match crypto.context session with
  | .ok (.digest hasher) =>
    (.ok, { crypto with
      operations := crypto.operations.set session (some (.digest (hasher.update data))) })
  | .ok _ => (.operationNotInitialised, crypto)
  | .error code => (code, crypto)

/-- Check a signature; whatever comes of it, the operation is over. -/
def verify (crypto : SoftwareCrypto R) (session : SessionHandle) (data signature : Bytes) :
    ReturnCode × SoftwareCrypto R :=
  match crypto.context session with
  | .error code => (code, crypto)
  | .ok operation => (verifyStep operation data signature, crypto.release session)

-- ═══════════════════════════════════════════════════════════════════════════
-- Keys
-- ═══════════════════════════════════════════════════════════════════════════

/-- Derive key material: `length` bytes, or what there is of a shared secret. -/
def deriveKey (mechanism : Mechanism) (base : ObjectView) (length : Nat) :
    Except ReturnCode Bytes :=
  if mechanism.kind = MechanismKind.hkdfDerive then do
    match hkdfSha256 (← base.secretValue) mechanism.parameter length with
    | some output => pure output
    | none => throw .dataLenRange
  else if mechanism.kind = MechanismKind.ecdh1Derive then do
    let scalar ← base.signingKey
    match P256.Point.ofSec1? mechanism.parameter with
    | none => throw .argumentsBad
    | some peer =>
      match Ecdsa.sharedSecret scalar peer with
      | some shared => pure (shared.take length)
      | none => throw .argumentsBad
  else .error .mechanismInvalid

variable [RandomSource R]

/-- Generate a key pair: the public point and the private value. -/
def generateKeyPair (crypto : SoftwareCrypto R) (mechanism : Mechanism)
    (publicRoom privateRoom : Nat) : Except ReturnCode (Bytes × Bytes) × SoftwareCrypto R :=
  if mechanism.kind ≠ MechanismKind.ecKeyPairGen then (.error .mechanismInvalid, crypto)
  else if publicRoom < ObjectView.pointLength ∨ privateRoom < P256.elementLength then
    (.error .bufferTooSmall, crypto)
  else
    let (key, rng) := RandomSource.signingKey crypto.rng
    (.ok (key.point.toSec1, P256.elementBytes key.scalar), { crypto with rng := rng })

instance : CryptoProvider (SoftwareCrypto R) where
  mechanismInfo _ kind := mechanismInfo kind
  serve
    | .encryptInit session mechanism key, crypto =>
      crypto.start session ((cipherContext mechanism key).map fun (key, nonce) =>
        .encrypt key nonce)
    | .decryptInit session mechanism key, crypto =>
      crypto.start session ((cipherContext mechanism key).map fun (key, nonce) =>
        .decrypt key nonce)
    | .digestInit session mechanism, crypto => crypto.start session (digestContext mechanism)
    | .signInit session mechanism key, crypto => crypto.start session (signContext mechanism key)
    | .verifyInit session mechanism key, crypto =>
      crypto.start session (verifyContext mechanism key)
    | .encrypt session data room, crypto =>
      crypto.oneShot session room fun operation => encryptStep operation data room
    | .decrypt session data room, crypto =>
      crypto.oneShot session room fun operation => decryptStep operation data room
    | .digest session data room, crypto =>
      crypto.oneShot session room fun operation => digestStep operation data room
    | .digestUpdate session data, crypto => crypto.digestUpdate session data
    | .digestFinal session room, crypto =>
      crypto.oneShot session room fun operation => digestStep operation [] room
    | .sign session data room, crypto =>
      crypto.oneShot session room fun operation => signStep operation data room
    | .verify session data signature, crypto => crypto.verify session data signature
    | .deriveKey mechanism base length, crypto => (deriveKey mechanism base length, crypto)
    | .generateKeyPair mechanism publicRoom privateRoom, crypto =>
      crypto.generateKeyPair mechanism publicRoom privateRoom
    | .release session, crypto => ((), crypto.release session)
    | .encryptUpdate session data room, crypto =>
      (ProviderOp.unsupported (.encryptUpdate session data room), crypto)
    | .encryptFinal session room, crypto =>
      (ProviderOp.unsupported (.encryptFinal session room), crypto)
    | .decryptUpdate session data room, crypto =>
      (ProviderOp.unsupported (.decryptUpdate session data room), crypto)
    | .decryptFinal session room, crypto =>
      (ProviderOp.unsupported (.decryptFinal session room), crypto)

end SoftwareCrypto

end KeyEnclave
