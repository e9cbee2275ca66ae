import KeyEnclave.Kms.Import
import KeyEnclave.Kms.Keys
import KeyEnclave.Kms.Library
import KeyEnclave.Kms.Objects
import KeyEnclave.Kms.Operations

/-!
# Dispatch

Every request comes with a function word, which is checked before the request is served: it has to
be one of a function, not latched, and that of the request's own function.

## Main definitions

* `Kms.serve` — what a request does.
* `Kms.admitted` — the refusal of a function word for a request, if there is one.
* `Kms.dispatch` — serve a request under a function word.
* `KmsEntry` — whatever dispatches requests.
-/

namespace KeyEnclave

namespace Kms

variable {C T N : Type} [CryptoProvider C] [ExternalToken T] [NvmStorage N]

/-- Latch keys. -/
def lockKeys (keys : List ObjectHandle) : Step C T N ReturnCode := do
  let kms ← get
  Action.ofExcept kms.requireUp
  if keys = [] then throw .argumentsBad
  set { kms with latches := keys.foldl Latches.lockKey kms.latches }
  pure .ok

/-- Latch functions, given by their words with or without an origin. -/
def lockServices (functions : List UInt32) : Step C T N ReturnCode := do
  let kms ← get
  Action.ofExcept kms.requireUp
  if functions = [] then throw .argumentsBad
  let ids := functions.map FunctionId.withoutOrigin
  set { kms with latches := ids.foldl Latches.lockFunction kms.latches }
  pure .ok

/-- A step whose only answer is a code. -/
def codeOnly (step : Step C T N ReturnCode) : Step C T N Answer := do
  pure ⟨← step, .nothing⟩

/-- What a request does. -/
def serve : Request → Step C T N Answer
  | .initialise => codeOnly bringUp
  | .finalise => codeOnly bringDown
  | .getInfo _ => getInfo
  | .getSlotList _ slots _ => getSlotList (slots.map Buffer.room)
  | .getSlotInfo slot _ => getSlotInfo slot
  | .getTokenInfo slot _ => getTokenInfo slot
  | .getMechanismInfo slot mechanism _ => getMechanismInfo slot mechanism
  | .openSession slot flags notify _ => openSession slot flags notify
  | .closeSession session => codeOnly (closeSession session)
  | .getSessionInfo session _ => getSessionInfo session
  | .createObject session template _ => createObject session template.template
  | .destroyObject session object => codeOnly (destroyObject session object)
  | .getAttributeValue session object values => getAttributeValue session object values.queries
  | .setAttributeValue session object template =>
    codeOnly (setAttributeValue session object template.template)
  | .findObjectsInit session template => codeOnly (findObjectsInit session template.template)
  | .findObjects session objects _ => findObjects session objects.room
  | .findObjectsFinal session => codeOnly (findObjectsFinal session)
  | .encryptInit session mechanism key => codeOnly (cryptInit session mechanism key .encrypting)
  | .encrypt session data output _ => encrypt session data.value (output.map Buffer.room)
  | .encryptUpdate session data output _ =>
    encryptUpdate session data.value (output.map Buffer.room)
  | .encryptFinal session output _ => encryptFinal session (output.map Buffer.room)
  | .decryptInit session mechanism key => codeOnly (cryptInit session mechanism key .decrypting)
  | .decrypt session data output _ => decrypt session data.value (output.map Buffer.room)
  | .decryptUpdate session data output _ =>
    decryptUpdate session data.value (output.map Buffer.room)
  | .decryptFinal session output _ => decryptFinal session (output.map Buffer.room)
  | .digestInit session mechanism => codeOnly (digestInit session mechanism)
  | .digest session data output _ => digest session data.value (output.map Buffer.room)
  | .digestUpdate session data => codeOnly (digestUpdate session data.value)
  | .digestFinal session output _ => digestFinal session (output.map Buffer.room)
  | .signInit session mechanism key => codeOnly (signVerifyInit session mechanism key .signing)
  | .sign session data signature _ => sign session data.value (signature.map Buffer.room)
  | .verifyInit session mechanism key =>
    codeOnly (signVerifyInit session mechanism key .verifying)
  | .verify session data signature => codeOnly (verify session data.value signature.value)
  | .deriveKey session mechanism baseKey template _ =>
    deriveKey session mechanism baseKey template.template
  | .generateKeyPair session mechanism publicTemplate privateTemplate _ _ =>
    generateKeyPair session mechanism publicTemplate.template privateTemplate.template
  | .generateRandom session output => generateRandom session output.room
  | .importBlob header blob => codeOnly (importBlob header.value blob.value)
  | .lockKeys keys => codeOnly (lockKeys keys.value)
  | .lockServices functions => codeOnly (lockServices functions.value)
  | .other _ => throw .functionNotSupported

/-- A function word has to be that of a function that is not latched, and that of the request. -/
def admitted (kms : Kms C T N) (raw : UInt32) (request : Request) : Except ReturnCode Unit := do
  let id := FunctionId.withoutOrigin raw
  if id < FunctionId.firstWord ∨ FunctionId.endWord ≤ id then throw .functionFailed
  match Numbered.ofWord? id with
  | none => throw .functionFailed
  | some function =>
    if kms.latches.isFunctionLocked id then throw .functionFailed
    if request.function ≠ function then throw .argumentsBad

/-- Serve a request under a function word. -/
def dispatch (kms : Kms C T N) (raw : UInt32) (request : Request) :
    Answer × Kms C T N × List KmsEvent :=
  let step := do
    Action.ofExcept (kms.admitted raw request)
    serve request
  match step.run kms with
  | ⟨.ok answer, kms, events⟩ => (answer, kms, events)
  | ⟨.error code, kms, events⟩ => (⟨code, request.untouched⟩, kms, events)

end Kms

/-- Whatever dispatches requests, with states in `K`. -/
class KmsEntry (K : Type) where
  dispatch : K → UInt32 → Request → Answer × K × List KmsEvent

instance {C T N : Type} [CryptoProvider C] [ExternalToken T] [NvmStorage N] :
    KmsEntry (Kms C T N) where
  dispatch := Kms.dispatch

end KeyEnclave
