import KeyEnclave.Latches
import KeyEnclave.Object.Builder
import KeyEnclave.Provider.Basic
import KeyEnclave.Request.Answer
import KeyEnclave.Session.Table
import KeyEnclave.Store.Install
import KeyEnclave.Token.Basic

/-!
# The key management service

The state of the service, its configuration, and what all requests have in common: who may be
asked, in which state a session has to be, and which objects can be seen.

## Main definitions

* `KmsConfig` — what an enclave is configured with.
* `Kms` — the service over a provider, a token and storage; `Kms.new` checks the configuration.
* `KmsEvent` — an exchange of the service with a collaborator.
* `Kms.Step` — what a request does.
* `Kms.lookup` — the object under a handle, unless the handle is latched.
-/

namespace KeyEnclave

/-- The embedded keys for imported blobs. -/
structure BlobKeys where
  verify : ObjectHandle
  decrypt : ObjectHandle
  deriving DecidableEq, Repr, Inhabited

/-- What an enclave is configured with. -/
structure KmsConfig where
  layout : ObjectLayout
  /-- Serialised objects baked into the firmware. -/
  embedded : List Bytes
  blobKeys : Option BlobKeys
  deriving DecidableEq, Repr

/-- The service over a provider, a token and storage with states in `C`, `T` and `N`. -/
structure Kms (C T N : Type) where
  latches : Latches
  sessions : SessionTable
  store : ObjectStore N
  crypto : C
  token : T
  blobKeys : Option BlobKeys

/-- An exchange of the service with a collaborator. -/
inductive KmsEvent
  | nvm (exchange : NvmExchange)
  | token (exchange : TokenExchange)
  | provider (exchange : ProviderExchange)

namespace Kms

variable {C T N : Type}

/-- Whether a key for blobs is an embedded object. -/
def isEmbeddedKey (store : ObjectStore N) (handle : ObjectHandle) : Bool :=
  store.layout.classify handle == .embedded && (store.get? handle).isSome

/-- The service after a reset, unless its configuration is refused. -/
def new (config : KmsConfig) (crypto : C) (token : T) (nvm : N) :
    Except ConfigError (Kms C T N) := do
  config.layout.validate
  let store := ObjectStore.new config.layout config.embedded nvm
  if !store.embeddedValid then throw .embeddedObjectInvalid
  match config.blobKeys with
  | some keys =>
    if !(isEmbeddedKey store keys.verify && isEmbeddedKey store keys.decrypt) then
      throw .blobKeyNotEmbedded
  | none => pure ()
  pure ⟨.allOpen, .down, store, crypto, token, config.blobKeys⟩

/-- The handle layout of the service. -/
def layout (kms : Kms C T N) : ObjectLayout := kms.store.layout

/-- The object under a handle, unless the handle is latched. -/
def lookup (kms : Kms C T N) (handle : ObjectHandle) : Option ObjectView :=
  if kms.latches.isKeyLocked handle then none else kms.store.get? handle

-- ═══════════════════════════════════════════════════════════════════════════
-- Requirements
-- ═══════════════════════════════════════════════════════════════════════════

/-- The library has to be up. -/
def requireUp (kms : Kms C T N) : Except ReturnCode Unit :=
  if kms.sessions.isUp then .ok () else .error .cryptokiNotInitialised

/-- The record of a session that has to be open. -/
def requireSession (kms : Kms C T N) (session : SessionHandle) : Except ReturnCode Session := do
  kms.requireUp
  kms.sessions.get session

/-- A session has to have no operation in progress. -/
def requireIdle (session : Session) : Except ReturnCode Unit :=
  if session.state = .idle then .ok () else .error .operationActive

/-- The record of a session that has to be in an operation. -/
def requireState (kms : Kms C T N) (session : SessionHandle) (state : SessionState) :
    Except ReturnCode Session := do
  let record ← kms.requireSession session
  if record.state ≠ state then throw .operationNotInitialised
  pure record

/-- A mechanism has to be given. -/
def requireMechanism (mechanism : Option PlacedMechanism) : Except ReturnCode Mechanism :=
  match mechanism with
  | some m => .ok m.mechanism
  | none => .error .mechanismInvalid

-- ═══════════════════════════════════════════════════════════════════════════
-- Steps
-- ═══════════════════════════════════════════════════════════════════════════

/-- What a request does to the service, with the exchanges with its collaborators. -/
abbrev Step (C T N α : Type) := Action (Kms C T N) KmsEvent ReturnCode α

/-- Change the session table. -/
def updateSessions (f : SessionTable → Except ReturnCode SessionTable) : Step C T N Unit := do
  let kms ← get
  let sessions ← Action.ofExcept (f kms.sessions)
  set { kms with sessions := sessions }

/-- Put a session back to idle. -/
def resetSession (session : SessionHandle) : Step C T N Unit :=
  modify fun kms => { kms with sessions := kms.sessions.reset session }

/-- Do something to the object store. -/
def onStore {α : Type} (step : ObjectStore.Step N α) : Step C T N α :=
  (step.mapError StoreError.code).within Kms.store
    (fun kms store => { kms with store := store }) KmsEvent.nvm

/-- One exchange with the provider. -/
def askProvider [CryptoProvider C] (op : ProviderOp) : Step C T N op.Reply :=
  Action.ask Kms.crypto (fun kms crypto => { kms with crypto := crypto }) CryptoProvider.serve
    KmsEvent.provider op

/-- One exchange with the token. -/
def askToken [ExternalToken T] (op : TokenOp) : Step C T N op.Reply :=
  Action.ask Kms.token (fun kms token => { kms with token := token }) ExternalToken.serve
    KmsEvent.token op

/-- Whether the token has an entry for a function. -/
def tokenImplements [ExternalToken T] (kms : Kms C T N) (function : FunctionId) : Bool :=
  ExternalToken.implements kms.token function

/-- The token's session to use for a function, if the token implements it. -/
def tokenSession [ExternalToken T] (kms : Kms C T N) (function : FunctionId)
    (session : SessionHandle) : Except ReturnCode UInt32 :=
  if kms.tokenImplements function then .ok (kms.sessions.external session)
  else .error .functionNotSupported

/-- The enclave's own result unless it is `ok`, in which case the token's. -/
def merge (own : ReturnCode) (external : Option ReturnCode) : ReturnCode :=
  match external with
  | some external => if own = .ok then external else own
  | none => own

-- ═══════════════════════════════════════════════════════════════════════════
-- New objects
-- ═══════════════════════════════════════════════════════════════════════════

/-- The range that receives an object created with a template. -/
def targetRange (layout : ObjectLayout) (template : Template) : Provenance :=
  let wantsToken := ((template.find? AttributeKind.token).bind Attribute.isSet) == some true
  if wantsToken && layout.nvmDynamic.isSome then .nvmDynamic
  else if layout.vmDynamic.isSome then .vmDynamic
  else .nvmDynamic

/-- Store a new object made of templates, of which earlier ones take precedence. -/
def storeObject [NvmStorage N] (range : Provenance) (parts : List Template) :
    Step C T N ObjectHandle := do
  let kms ← get
  let handle ← Action.ofExcept ((kms.store.freeHandle range).mapError StoreError.code)
  match serialise Limits.objectLength handle parts with
  | .error _ => throw .hostMemory
  | .ok blob => onStore (ObjectStore.insert blob)

end Kms

end KeyEnclave
