import KeyEnclave.Kms.Basic

/-!
# New keys

Deriving keys, generating key pairs and random bytes.

## Main definitions

* `Kms.deriveKey` — a secret key from another key.
* `Kms.generateKeyPair` — both halves of a new pair, or neither.
* `Kms.generateRandom` — random bytes from the token.
-/

namespace KeyEnclave.Kms

variable {C T N : Type} [CryptoProvider C] [ExternalToken T] [NvmStorage N]

/-- The length of a derived key whose template asks for none. -/
def derivedDefaultLength : Nat := 32

/-- The longest derived key. -/
def derivedMaxLength : Nat := 64

/-- The room for a public point. -/
def publicMaxLength : Nat := 97

/-- The room for a private value. -/
def privateMaxLength : Nat := 48

/-- The length that a template asks of a derived key. -/
def derivedLength (template : Template) : Except ReturnCode Nat := do
  let length ← match template.find? AttributeKind.valueLen with
    | none => pure derivedDefaultLength
    | some value =>
      match Bytes.asWord? value with
      | some word => pure word.toNat
      | none => throw .attributeValueInvalid
  if length = 0 ∨ derivedMaxLength < length then throw .attributeValueInvalid
  pure length

/-- The attributes of a new key: its material, those of the caller, and its class and type unless
the caller gave them. -/
def keyParts (material : Attribute) (template : Template) (objectClass : ObjectClass)
    (keyKind : KeyKind) : List Template :=
  [[material], template,
    [⟨AttributeKind.objectClass, Bytes.ofWord objectClass⟩,
      ⟨AttributeKind.keyType, Bytes.ofWord keyKind⟩]]

/-- Derive a secret key, on the token if the key it comes from is there. -/
def deriveKey (session : SessionHandle) (mechanism : Option PlacedMechanism)
    (baseKey : ObjectHandle) (template : Template) : Step C T N Answer := do
  let mechanism ← Action.ofExcept (requireMechanism mechanism)
  let kms ← get
  let _ ← Action.ofExcept (kms.requireSession session)
  if kms.latches.isKeyLocked baseKey then throw .keyHandleInvalid
  let range := kms.layout.classify baseKey
  if range.isExternal then
    let external ← Action.ofExcept (kms.tokenSession .deriveKey session)
    let key ← Action.ofExcept (← askToken (.deriveKey external mechanism baseKey template))
    pure ⟨.ok, .key (some key)⟩
  else if range.isLocal then
    let length ← Action.ofExcept (derivedLength template)
    match kms.lookup baseKey with
    | none => throw .keyHandleInvalid
    | some base =>
      let value ← Action.ofExcept (← askProvider (.deriveKey mechanism base length))
      let key ← storeObject (targetRange kms.layout template)
        (keyParts ⟨AttributeKind.value, value⟩ template ObjectClass.secretKey
          KeyKind.genericSecret)
      pure ⟨.ok, .key (some key)⟩
  else throw .objectHandleInvalid

/-- Generate a key pair, on the token if it can. When the private half can not be stored, the
public half is removed again. -/
def generateKeyPair (session : SessionHandle) (mechanism : Option PlacedMechanism)
    (publicTemplate privateTemplate : Template) : Step C T N Answer := do
  let mechanism ← Action.ofExcept (requireMechanism mechanism)
  let kms ← get
  let _ ← Action.ofExcept (kms.requireSession session)
  match kms.tokenSession .generateKeyPair session with
  | .ok external =>
    let handles ← Action.ofExcept
      (← askToken (.generateKeyPair external mechanism publicTemplate privateTemplate))
    pure ⟨.ok, .keyPair (some handles)⟩
  | .error _ =>
    let (point, scalar) ← Action.ofExcept
      (← askProvider (.generateKeyPair mechanism publicMaxLength privateMaxLength))
    let publicKey ← storeObject (targetRange kms.layout publicTemplate)
      (keyParts ⟨AttributeKind.ecPoint, point⟩ publicTemplate ObjectClass.publicKey KeyKind.ec)
    let privateKey ← Action.attempt (δ := ReturnCode) <|
      storeObject (targetRange kms.layout privateTemplate)
        (keyParts ⟨AttributeKind.value, scalar⟩ privateTemplate ObjectClass.privateKey KeyKind.ec)
    match privateKey with
    | .ok privateKey => pure ⟨.ok, .keyPair (some (publicKey, privateKey))⟩
    | .error code =>
      let _ ← Action.attempt (δ := ReturnCode) (onStore (ObjectStore.remove publicKey))
      throw code

/-- Random bytes from the token; the enclave itself has none to give. -/
def generateRandom (session : SessionHandle) (length : Nat) : Step C T N Answer := do
  let kms ← get
  let _ ← Action.ofExcept (kms.requireSession session)
  let external ← Action.ofExcept (kms.tokenSession .generateRandom session)
  let (code, written) ← askToken (.generateRandom external length)
  pure ⟨code, .random written⟩

end KeyEnclave.Kms
