import KeyEnclave.Cipher.ChaCha20Poly1305
import KeyEnclave.Cipher.Ecdsa
import KeyEnclave.Kms.Basic
import KeyEnclave.Provider.KeyMaterial

/-!
# Blob import

A blob is a signed header and an encrypted payload of objects. Its objects are installed only after
the header's signature, the payload's tag and the digest of the plaintext were found right.

## Main definitions

* `BlobHeader` — the fields of a header; `BlobHeader.parse` reads them.
* `Kms.authenticateHeader`, `Kms.openPayload` — the checks, with the embedded keys.
* `splitObjects` — the objects of a plaintext.
* `Kms.importBlob` — check a blob and install its objects.

## Design notes

As a guard against faults, the enclave authenticates the header a second time when the payload is
open: it hashes the signed part itself and has the signature checked against the hash. Both forms
come to the same `Ecdsa.verify`, with the same key, hash and signature, as nothing in the service
has changed in between. The second check has the result of the first, so it is left out here.
-/

namespace KeyEnclave

/-- The header before an encrypted blob. -/
structure BlobHeader where
  protocolVersion : UInt16
  version : UInt16
  /-- The length of the plaintext; the payload has the tag on top. -/
  size : UInt32
  /-- SHA-256 of the plaintext. -/
  digest : Bytes
  iv : Bytes
  /-- The part of the header that the signature covers. -/
  signed : Bytes
  signature : Bytes
  deriving DecidableEq, Repr, Inhabited

namespace BlobHeader

/-- The length of a header. -/
def length : Nat := 320

/-- The word every header starts with, "KMSB". -/
def magic : UInt32 := 0x424D534B

/-- The length of the signed part. -/
def signedLength : Nat := 128

/-- The bytes of a field. -/
def field (bytes : Bytes) (start length : Nat) : Bytes := (bytes.drop start).take length

/-- The fields of a header. -/
def parse (bytes : Bytes) : Except ReturnCode BlobHeader := do
  if bytes.length ≠ length then throw .argumentsBad
  let number (start length : Nat) := Bytes.toNatLE (field bytes start length)
  if UInt32.ofNat (number 0 4) ≠ magic then throw .dataInvalid
  pure {
    protocolVersion := UInt16.ofNat (number 4 2)
    version := UInt16.ofNat (number 6 2)
    size := UInt32.ofNat (number 8 4)
    digest := field bytes 20 32
    iv := field bytes 84 16
    signed := field bytes 0 signedLength
    signature := field bytes 128 64 }

end BlobHeader

/-- The most objects of a blob. -/
def blobObjects : Nat := 16

/-- The objects of a plaintext, at most `budget`, each of which has to belong to the installed
range. -/
def splitObjects (layout : ObjectLayout) : Nat → Bytes → Except ReturnCode (List Bytes)
  | _, [] => .ok []
  | budget, rest@(_ :: _) => do
    let (object, length) ← (ObjectView.parseFront rest).mapError fun _ => ReturnCode.dataInvalid
    if layout.classify object.handle ≠ .nvmStatic then throw .dataInvalid
    match budget with
    | 0 => throw .dataLenRange
    | budget + 1 =>
      let blobs ← splitObjects layout budget (rest.drop length)
      pure (rest.take length :: blobs)

namespace Kms

variable {C T N : Type} [CryptoProvider C] [ExternalToken T] [NvmStorage N]

/-- The keys for blobs, if there are any. -/
def requireBlobKeys (kms : Kms C T N) : Except ReturnCode BlobKeys :=
  match kms.blobKeys with
  | some keys => .ok keys
  | none => .error .functionNotSupported

/-- An embedded key for blobs, unless it is latched. -/
def blobKey (kms : Kms C T N) (handle : ObjectHandle) : Except ReturnCode ObjectView :=
  match kms.lookup handle with
  | some key => .ok key
  | none => .error .keyHandleInvalid

/-- The signature of a header has to be right. -/
def authenticateHeader (kms : Kms C T N) (keys : BlobKeys) (header : BlobHeader) :
    Except ReturnCode Unit := do
  let key ← (← kms.blobKey keys.verify).verifyingKey
  match Ecdsa.Signature.ofBytes? header.signature with
  | none => throw .signatureInvalid
  | some signature =>
    if !Ecdsa.verify key (Sha256.hash header.signed) signature then throw .signatureInvalid

/-- The plaintext of a payload whose length, tag and digest are right. -/
def openPayload (kms : Kms C T N) (keys : BlobKeys) (header : BlobHeader) (blob : Bytes) :
    Except ReturnCode Bytes := do
  let size := header.size.toNat
  if Limits.blobLength < size ∨ blob.length ≠ size + ChaCha20Poly1305.tagLength then
    throw .dataLenRange
  let secret ← (← kms.blobKey keys.decrypt).secretValue
  if secret.length ≠ ChaCha20Poly1305.keyLength then throw .keyHandleInvalid
  let nonce := header.iv.take ChaCha20Poly1305.nonceLength
  match ChaCha20Poly1305.decrypt secret nonce (blob.take size) (blob.drop size) with
  | none => throw .encryptedDataInvalid
  | some plain =>
    if Sha256.hash plain ≠ header.digest then throw .signatureInvalid
    pure plain

/-- Install the objects of a blob, of which the header is authenticated once. -/
def importBlob (header blob : Bytes) : Step C T N ReturnCode := do
  let kms ← get
  Action.ofExcept kms.requireUp
  if kms.sessions.openCount ≠ 0 then throw .operationActive
  let keys ← Action.ofExcept kms.requireBlobKeys
  let header ← Action.ofExcept (BlobHeader.parse header)
  Action.ofExcept (kms.authenticateHeader keys header)
  let plain ← Action.ofExcept (kms.openPayload keys header blob)
  let blobs ← Action.ofExcept (splitObjects kms.layout blobObjects plain)
  onStore (ObjectStore.installAll blobs)
  pure .ok

end Kms

end KeyEnclave
