import KeyEnclave.Kms.Dispatch
import KeyEnclave.Proofs.Provider.Operations
import KeyEnclave.Proofs.Session.Table

/-!
# What a request may do

The effects that serving a request can have on the service, each with the exchanges it makes and the
checks that were passed before it. An invariant of the service is proved by cases on the effect, not
on the request.

## Main definitions

* `TokenOp.object?` — the object the token is asked to work with.
* `Request.tokenOp?`, `Request.step?` — the operation of a collaborator that serves a request.
* `Kms.Begins`, `Kms.Makes` — the operation that begins one of a session, or makes a new key.
* `ObjectStore.Changes` — objects stored and removed one after the other.
* `Kms.Effect` — what a request did.
-/

namespace KeyEnclave

/-- The object of the token that an operation is about. -/
def TokenOp.object? : TokenOp → Option ObjectHandle
  | destroyObject _ object | getAttributeValue _ object _ | setAttributeValue _ object _ =>
    some object
  | signInit _ _ key | verifyInit _ _ key => some key
  | deriveKey _ _ baseKey _ => some baseKey
  | initialise | finalise | getMechanismInfo .. | openSession .. | closeSession _
  | createObject .. | findObjectsInit .. | findObjects .. | findObjectsFinal _ | sign ..
  | verify .. | generateKeyPair .. | generateRandom .. => none

namespace Request

/-- The session a request is about. -/
def session? : Request → Option SessionHandle
  | closeSession session | getSessionInfo session _ | createObject session _ _
  | destroyObject session _ | getAttributeValue session _ _ | setAttributeValue session _ _
  | findObjectsInit session _ | findObjects session _ _ | findObjectsFinal session
  | encryptInit session _ _ | encrypt session _ _ _ | encryptUpdate session _ _ _
  | encryptFinal session _ _ | decryptInit session _ _ | decrypt session _ _ _
  | decryptUpdate session _ _ _ | decryptFinal session _ _ | digestInit session _
  | digest session _ _ _ | digestUpdate session _ | digestFinal session _ _
  | signInit session _ _ | sign session _ _ _ | verifyInit session _ _ | verify session _ _
  | deriveKey session _ _ _ _ | generateKeyPair session _ _ _ _ _ | generateRandom session _ =>
    some session
  | initialise | finalise | getInfo _ | getSlotList .. | getSlotInfo .. | getTokenInfo ..
  | getMechanismInfo .. | openSession .. | importBlob .. | lockKeys _ | lockServices _
  | other _ => none

/-- The operation of the token that serves a request, if the token is the one to serve it;
`external` is the token's session of each session. -/
def tokenOp? (external : SessionHandle → UInt32) : Request → Option TokenOp
  | getMechanismInfo slot mechanism _ => some (.getMechanismInfo slot mechanism)
  | openSession slot flags notify _ => some (.openSession slot flags notify.isSome)
  | createObject session template _ => some (.createObject (external session) template.template)
  | destroyObject session object => some (.destroyObject (external session) object)
  | getAttributeValue session object values =>
    some (.getAttributeValue (external session) object values.queries)
  | setAttributeValue session object template =>
    some (.setAttributeValue (external session) object template.template)
  | findObjectsInit session template =>
    some (.findObjectsInit (external session) template.template)
  | findObjects session objects _ => some (.findObjects (external session) objects.room)
  | findObjectsFinal session => some (.findObjectsFinal (external session))
  | signInit session (some mechanism) key =>
    some (.signInit (external session) mechanism.mechanism key)
  | sign session data signature _ =>
    some (.sign (external session) data.value (signature.map Buffer.room))
  | verifyInit session (some mechanism) key =>
    some (.verifyInit (external session) mechanism.mechanism key)
  | verify session data signature => some (.verify (external session) data.value signature.value)
  | deriveKey session (some mechanism) baseKey template _ =>
    some (.deriveKey (external session) mechanism.mechanism baseKey template.template)
  | generateKeyPair session (some mechanism) publicTemplate privateTemplate _ _ =>
    some (.generateKeyPair (external session) mechanism.mechanism publicTemplate.template
      privateTemplate.template)
  | generateRandom session output => some (.generateRandom (external session) output.room)
  | _ => none

/-- The state a step needs its session to be in, and the operation of the provider that serves
it. -/
def step? : Request → Option (SessionState × ProviderOp)
  | encrypt session data output _ =>
    some (.encrypting, .encrypt session data.value (output.map Buffer.room))
  | encryptUpdate session data output _ =>
    some (.encrypting, .encryptUpdate session data.value (output.map Buffer.room))
  | encryptFinal session output _ =>
    some (.encrypting, .encryptFinal session (output.map Buffer.room))
  | decrypt session data output _ =>
    some (.decrypting, .decrypt session data.value (output.map Buffer.room))
  | decryptUpdate session data output _ =>
    some (.decrypting, .decryptUpdate session data.value (output.map Buffer.room))
  | decryptFinal session output _ =>
    some (.decrypting, .decryptFinal session (output.map Buffer.room))
  | digest session data output _ =>
    some (.digesting, .digest session data.value (output.map Buffer.room))
  | digestUpdate session data => some (.digesting, .digestUpdate session data.value)
  | digestFinal session output _ =>
    some (.digesting, .digestFinal session (output.map Buffer.room))
  | sign session data signature _ =>
    some (.signing, .sign session data.value (signature.map Buffer.room))
  | verify session data signature =>
    some (.verifying, .verify session data.value signature.value)
  | _ => none

/-- What a caller is told of a request that was admitted. -/
def concluding (request : Request) : Except ReturnCode Answer → Answer
  | .ok answer => answer
  | .error code => ⟨code, request.untouched⟩

end Request

namespace ObjectStore

variable {N : Type} [NvmStorage N]

/-- Objects are stored and removed one after the other, each time whether that succeeds or not. -/
inductive Changes (store : ObjectStore N) : ObjectStore N → List NvmExchange → Prop
  | none : Changes store store []
  | insert {changed : ObjectStore N} {journal : List NvmExchange} (blob : Bytes)
      (hchanges : Changes store changed journal) :
      Changes store ((ObjectStore.insert blob).run changed).state
        (journal ++ ((ObjectStore.insert blob).run changed).journal)
  | remove {changed : ObjectStore N} {journal : List NvmExchange} (handle : ObjectHandle)
      (hchanges : Changes store changed journal) :
      Changes store ((ObjectStore.remove handle).run changed).state
        (journal ++ ((ObjectStore.remove handle).run changed).journal)

theorem Changes.trans {store changed last : ObjectStore N} {journal rest : List NvmExchange}
    (hfirst : store.Changes changed journal) (hsecond : changed.Changes last rest) :
    store.Changes last (journal ++ rest) := by
  induction hsecond with
  | none =>
    rw [List.append_nil]
    exact hfirst
  | insert blob hchanges ih =>
    rw [← List.append_assoc]
    exact .insert blob ih
  | remove handle hchanges ih =>
    rw [← List.append_assoc]
    exact .remove handle ih

end ObjectStore

namespace Kms

variable {C T N : Type}

section Token

variable [ExternalToken T] (kms : Kms C T N)

/-- The service after the token served an operation. -/
def afterToken (op : TokenOp) : Kms C T N :=
  { kms with token := (ExternalToken.serve op kms.token).2 }

/-- What the token replies to an operation. -/
def tokenReply (op : TokenOp) : op.Reply := (ExternalToken.serve op kms.token).1

/-- The exchange with the token on an operation. -/
def tokenEvent (op : TokenOp) : KmsEvent := .token ⟨op, kms.tokenReply op⟩

/-- The service after the token was asked to serve an operation, if it was. -/
def told (isTold : Bool) (op : TokenOp) : Kms C T N := if isTold then kms.afterToken op else kms

/-- The exchanges on an operation that the token may have been asked to serve. -/
def toldEvents (isTold : Bool) (op : TokenOp) : List KmsEvent :=
  if isTold then [kms.tokenEvent op] else []

@[simp] theorem told_latches (isTold : Bool) (op : TokenOp) :
    (kms.told isTold op).latches = kms.latches := by cases isTold <;> rfl

@[simp] theorem told_sessions (isTold : Bool) (op : TokenOp) :
    (kms.told isTold op).sessions = kms.sessions := by cases isTold <;> rfl

@[simp] theorem told_store (isTold : Bool) (op : TokenOp) :
    (kms.told isTold op).store = kms.store := by cases isTold <;> rfl

@[simp] theorem told_crypto (isTold : Bool) (op : TokenOp) :
    (kms.told isTold op).crypto = kms.crypto := by cases isTold <;> rfl

@[simp] theorem told_blobKeys (isTold : Bool) (op : TokenOp) :
    (kms.told isTold op).blobKeys = kms.blobKeys := by cases isTold <;> rfl

end Token

section Provider

variable [CryptoProvider C] (kms : Kms C T N)

/-- The service after the provider served an operation. -/
def afterProvider (op : ProviderOp) : Kms C T N :=
  { kms with crypto := (CryptoProvider.serve op kms.crypto).2 }

/-- What the provider replies to an operation. -/
def providerReply (op : ProviderOp) : op.Reply := (CryptoProvider.serve op kms.crypto).1

/-- The exchange with the provider on an operation. -/
def providerEvent (op : ProviderOp) : KmsEvent := .provider ⟨op, kms.providerReply op⟩

/-- The service after the operation of a session ended: the session is idle and the provider was
told to drop its context. -/
def ended (session : SessionHandle) : Kms C T N :=
  { kms with sessions := kms.sessions.reset session }.afterProvider (.release session)

/-- The service after a step, whose operation may have ended with it. -/
def concluded (session : SessionHandle) (isEnded : Bool) : Kms C T N :=
  if isEnded then kms.ended session else kms

/-- The exchange in which the provider drops a context. -/
def releaseEvent (session : SessionHandle) : KmsEvent := .provider ⟨.release session, ()⟩

/-- The exchanges after a step, whose operation may have ended with it. -/
def conclusion (session : SessionHandle) (isEnded : Bool) : List KmsEvent :=
  if isEnded then [releaseEvent session] else []

@[simp] theorem concluded_latches (session : SessionHandle) (isEnded : Bool) :
    (kms.concluded session isEnded).latches = kms.latches := by cases isEnded <;> rfl

@[simp] theorem concluded_store (session : SessionHandle) (isEnded : Bool) :
    (kms.concluded session isEnded).store = kms.store := by cases isEnded <;> rfl

@[simp] theorem concluded_blobKeys (session : SessionHandle) (isEnded : Bool) :
    (kms.concluded session isEnded).blobKeys = kms.blobKeys := by cases isEnded <;> rfl

@[simp] theorem nesting_concluded (session : SessionHandle) (isEnded : Bool) :
    (kms.concluded session isEnded).sessions.nesting = kms.sessions.nesting := by
  cases isEnded with
  | true => exact SessionTable.nesting_reset
  | false => rfl

@[simp] theorem isUp_concluded (session : SessionHandle) (isEnded : Bool) :
    (kms.concluded session isEnded).sessions.isUp = kms.sessions.isUp := by
  rw [SessionTable.isUp, nesting_concluded, SessionTable.isUp]

/-- The provider after it dropped the contexts of sessions. -/
def releasedContexts (sessions : List SessionHandle) (crypto : C) : C :=
  sessions.foldl (fun crypto session => (CryptoProvider.serve (.release session) crypto).2) crypto

end Provider

/-- The key of an operation is not latched, or there is none. -/
def IsOpen (kms : Kms C T N) (key : ObjectHandle) : Prop :=
  key = noKey ∨ kms.latches.isKeyLocked key = false

/-- A request begins an operation of a session, with the state the session is to be in, its key,
and the operation of the provider that begins it. -/
inductive Begins (kms : Kms C T N) :
    Request → SessionHandle → SessionState → ObjectHandle → ProviderOp → Prop
  | encryption {session : SessionHandle} {mechanism : PlacedMechanism} {key : ObjectHandle}
      {object : ObjectView} (hkey : kms.lookup key = some object) :
      Begins kms (.encryptInit session (some mechanism) key) session .encrypting key
        (.encryptInit session mechanism.mechanism object)
  | decryption {session : SessionHandle} {mechanism : PlacedMechanism} {key : ObjectHandle}
      {object : ObjectView} (hkey : kms.lookup key = some object) :
      Begins kms (.decryptInit session (some mechanism) key) session .decrypting key
        (.decryptInit session mechanism.mechanism object)
  | digest {session : SessionHandle} {mechanism : PlacedMechanism} :
      Begins kms (.digestInit session (some mechanism)) session .digesting noKey
        (.digestInit session mechanism.mechanism)
  | signature {session : SessionHandle} {mechanism : PlacedMechanism} {key : ObjectHandle}
      {object : ObjectView} (hkey : kms.lookup key = some object) :
      Begins kms (.signInit session (some mechanism) key) session .signing key
        (.signInit session mechanism.mechanism object)
  | verification {session : SessionHandle} {mechanism : PlacedMechanism} {key : ObjectHandle}
      {object : ObjectView} (hkey : kms.lookup key = some object) :
      Begins kms (.verifyInit session (some mechanism) key) session .verifying key
        (.verifyInit session mechanism.mechanism object)

/-- A request begins an operation of a session with a key of the token. -/
inductive BeginsOnToken (kms : Kms C T N) :
    Request → SessionHandle → SessionState → ObjectHandle → TokenOp → Prop
  | signature {session : SessionHandle} {mechanism : PlacedMechanism} {key : ObjectHandle} :
      BeginsOnToken kms (.signInit session (some mechanism) key) session .signing key
        (.signInit (kms.sessions.external session) mechanism.mechanism key)
  | verification {session : SessionHandle} {mechanism : PlacedMechanism} {key : ObjectHandle} :
      BeginsOnToken kms (.verifyInit session (some mechanism) key) session .verifying key
        (.verifyInit (kms.sessions.external session) mechanism.mechanism key)

/-- A request has the provider make a new key. -/
inductive Makes (kms : Kms C T N) : Request → ProviderOp → Prop
  | derived {session : SessionHandle} {mechanism : PlacedMechanism} {baseKey : ObjectHandle}
      {template : PlacedTemplate} {key : Address} {base : ObjectView} (length : Nat)
      (hkey : kms.lookup baseKey = some base) :
      Makes kms (.deriveKey session (some mechanism) baseKey template key)
        (.deriveKey mechanism.mechanism base length)
  | pair {session : SessionHandle} {mechanism : PlacedMechanism}
      {publicTemplate privateTemplate : PlacedTemplate} {publicKey privateKey : Address} :
      Makes kms (.generateKeyPair session (some mechanism) publicTemplate privateTemplate
          publicKey privateKey)
        (.generateKeyPair mechanism.mechanism publicMaxLength privateMaxLength)

/-- A request stores or removes an object without the provider. -/
inductive Stores : Request → Prop
  | created {session : SessionHandle} {template : PlacedTemplate} {object : Address} :
      Stores (.createObject session template object)
  | destroyed {session : SessionHandle} {object : ObjectHandle} :
      Stores (.destroyObject session object)

variable [CryptoProvider C] [ExternalToken T] [NvmStorage N]

/-- What serving a request does to the service, with the exchanges that are made. -/
inductive Effect (kms : Kms C T N) : Request → Kms C T N → List KmsEvent → Prop
  /-- The request is refused, or needs nothing but an answer. -/
  | nothing (request : Request) : Effect kms request kms []
  /-- The token serves the request. -/
  | asked {request : Request} (op : TokenOp)
      (hop : request.tokenOp? kms.sessions.external = some op) (hstep : request.step? = none)
      (hsession : ∀ session, request.session? = some session →
        ∃ record, kms.requireSession session = .ok record)
      (hobject : ∀ object, op.object? = some object → kms.latches.isKeyLocked object = false) :
      Effect kms request (kms.afterToken op) [kms.tokenEvent op]
  /-- The library is up already, and stays as it is. -/
  | raised (hup : kms.sessions.isUp = true) (isTold : Bool) :
      Effect kms .initialise
        { kms.told isTold .initialise with sessions := kms.sessions.bringUp.2 }
        (kms.toldEvents isTold .initialise)
  /-- The library comes up with the objects in storage. -/
  | cameUp (hdown : kms.sessions.isUp = false) (isTold : Bool)
      (hload : (ObjectStore.load.run kms.store).answer = .ok ()) :
      Effect kms .initialise
        { kms.told isTold .initialise with
          sessions := ⟨1, .empty⟩
          store := (ObjectStore.load.run kms.store).state }
        (kms.toldEvents isTold .initialise ++
          (ObjectStore.load.run kms.store).journal.map .nvm)
  /-- The objects in storage can not be loaded. -/
  | stayedDown (hdown : kms.sessions.isUp = false) (isTold : Bool) (error : StoreError)
      (hload : (ObjectStore.load.run kms.store).answer = .error error) :
      Effect kms .initialise
        { kms.told isTold .initialise with
          sessions := .down
          store := (ObjectStore.load.run kms.store).state }
        (kms.toldEvents isTold .initialise ++
          (ObjectStore.load.run kms.store).journal.map .nvm)
  /-- The library was brought up more often than down, or not at all. -/
  | lowered (hnesting : kms.sessions.nesting ≠ 1) (isTold : Bool) :
      Effect kms .finalise
        { kms.told isTold .finalise with sessions := kms.sessions.bringDown.2.2 }
        (kms.toldEvents isTold .finalise)
  /-- The library goes down. -/
  | wentDown (hnesting : kms.sessions.nesting = 1) (isTold : Bool) :
      Effect kms .finalise
        { kms.told isTold .finalise with
          sessions := .down
          crypto := releasedContexts SessionHandle.all kms.crypto
          store := kms.store.release }
        (kms.toldEvents isTold .finalise ++ SessionHandle.all.map releaseEvent)
  /-- A session is opened. -/
  | opened {slot : UInt32} {flags : Flags} {notify : Option Notify} {address : Address}
      {session : SessionHandle} (hup : kms.sessions.isUp = true)
      (hfree : kms.sessions.sessions.firstFree? = some session) :
      Effect kms (.openSession slot flags notify address)
        { kms with sessions := kms.sessions.put session (Session.fresh slot flags notify) } []
  /-- A session is opened, and one of the token with it. -/
  | openedOnToken {slot : UInt32} {flags : Flags} {notify : Option Notify} {address : Address}
      {session : SessionHandle} {external : UInt32} (hup : kms.sessions.isUp = true)
      (hfree : kms.sessions.sessions.firstFree? = some session)
      (hreply : kms.tokenReply (.openSession slot flags notify.isSome) = .ok external) :
      Effect kms (.openSession slot flags notify address)
        { kms.afterToken (.openSession slot flags notify.isSome) with
          sessions := kms.sessions.put session
            ({ Session.fresh slot flags notify with external := external }) }
        [kms.tokenEvent (.openSession slot flags notify.isSome)]
  /-- A session is closed, and the token's with it if there is one. -/
  | closed {session : SessionHandle} {record : Session}
      (hsession : kms.requireSession session = .ok record) (isTold : Bool) :
      Effect kms (.closeSession session)
        { (kms.told isTold (.closeSession record.external)).afterProvider (.release session) with
          sessions := kms.sessions.drop session }
        (kms.toldEvents isTold (.closeSession record.external) ++ [releaseEvent session])
  /-- A search begins. -/
  | searchBegun {session : SessionHandle} {template : PlacedTemplate} {record : Session}
      (hsession : kms.requireSession session = .ok record) (hidle : record.state = .idle) :
      Effect kms (.findObjectsInit session template)
        { kms with
          sessions := kms.sessions.put session
            ({ record.reset with
              state := .searching, found := (kms.matching template.template).take Limits.search }) }
        []
  /-- A page of a search is handed out. -/
  | paged {session : SessionHandle} {objects : Buffer} {count : Address} {record : Session}
      (hsession : kms.requireSession session = .ok record) (hstate : record.state = .searching) :
      Effect kms (.findObjects session objects count)
        { kms with
          sessions := kms.sessions.put session
            ({ record with
              cursor := record.cursor + (record.pending.take objects.room).length }) } []
  /-- A search ends. -/
  | searchEnded {session : SessionHandle} {record : Session}
      (hsession : kms.requireSession session = .ok record) (hstate : record.state = .searching) :
      Effect kms (.findObjectsFinal session)
        { kms with sessions := kms.sessions.reset session } []
  /-- An operation of a session begins. -/
  | began {request : Request} {session : SessionHandle} {state : SessionState}
      {key : ObjectHandle} {op : ProviderOp} {record : Session}
      (hbegins : kms.Begins request session state key op)
      (hsession : kms.requireSession session = .ok record) (hidle : record.state = .idle)
      (hcode : op.code (kms.providerReply op) = .ok) :
      Effect kms request
        { kms.afterProvider op with
          sessions := kms.sessions.put session ({ record with state := state, key := key }) }
        [kms.providerEvent op]
  /-- The provider refuses to begin an operation. -/
  | notBegun {request : Request} {session : SessionHandle} {state : SessionState}
      {key : ObjectHandle} {op : ProviderOp} {record : Session}
      (hbegins : kms.Begins request session state key op)
      (hsession : kms.requireSession session = .ok record) (hidle : record.state = .idle)
      (hcode : op.code (kms.providerReply op) ≠ .ok) :
      Effect kms request (kms.afterProvider op) [kms.providerEvent op]
  /-- An operation of a session begins with a key of the token. -/
  | beganOnToken {request : Request} {session : SessionHandle} {state : SessionState}
      {key : ObjectHandle} {op : TokenOp} {record : Session}
      (hbegins : kms.BeginsOnToken request session state key op)
      (hsession : kms.requireSession session = .ok record) (hidle : record.state = .idle)
      (hlatch : kms.latches.isKeyLocked key = false)
      (hexternal : (kms.layout.classify key).isExternal = true) :
      Effect kms request
        { kms.afterToken op with
          sessions := kms.sessions.put session ({ record with state := state, key := key }) }
        [kms.tokenEvent op]
  /-- The key of the operation was latched since the operation began. -/
  | stepLatched {request : Request} {session : SessionHandle} {state : SessionState}
      {op : ProviderOp} {record : Session} (hstep : request.step? = some (state, op))
      (hnamed : request.session? = some session)
      (hstate : kms.requireState session state = .ok record)
      (hlatch : kms.latches.isKeyLocked record.key = true) :
      Effect kms request (kms.ended session) [releaseEvent session]
  /-- The provider serves a step. -/
  | stepped {request : Request} {session : SessionHandle} {state : SessionState}
      (op : ProviderOp) {record : Session} (hstep : request.step? = some (state, op))
      (hnamed : request.session? = some session)
      (hstate : kms.requireState session state = .ok record)
      (hopen : state ≠ .digesting → kms.IsOpen record.key)
      (hplace : state ∈ [SessionState.signing, .verifying] →
        (kms.layout.classify record.key).isExternal = false) :
      Effect kms request
        ((kms.afterProvider op).concluded session (op.ends (kms.providerReply op)))
        (kms.providerEvent op :: conclusion session (op.ends (kms.providerReply op)))
  /-- The token serves a step, or has no function for it. -/
  | steppedOnToken {request : Request} {session : SessionHandle} {state : SessionState}
      {op : ProviderOp} {tokenOp : TokenOp} {record : Session}
      (hstep : request.step? = some (state, op)) (hnamed : request.session? = some session)
      (hop : request.tokenOp? kms.sessions.external = some tokenOp)
      (hstate : kms.requireState session state = .ok record) (hopen : kms.IsOpen record.key)
      (hplace : (kms.layout.classify record.key).isExternal = true) (isTold isEnded : Bool) :
      Effect kms request ((kms.told isTold tokenOp).concluded session isEnded)
        (kms.toldEvents isTold tokenOp ++ conclusion session isEnded)
  /-- Objects are stored or removed. -/
  | stored {request : Request} {store : ObjectStore N} {journal : List NvmExchange}
      (hrequest : Stores request) (hup : kms.sessions.isUp = true)
      (hchanges : kms.store.Changes store journal) :
      Effect kms request { kms with store := store } (journal.map .nvm)
  /-- The provider makes a key, which is stored. -/
  | made {request : Request} {op : ProviderOp} {store : ObjectStore N}
      {journal : List NvmExchange} (hmakes : kms.Makes request op) (hup : kms.sessions.isUp = true)
      (hchanges : kms.store.Changes store journal) :
      Effect kms request { kms.afterProvider op with store := store }
        (kms.providerEvent op :: journal.map .nvm)
  /-- The objects of a blob are installed, or none of them. -/
  | installed {header blob : Placed Bytes} (blobs : List Bytes) (hup : kms.sessions.isUp = true) :
      Effect kms (.importBlob header blob)
        { kms with store := ((ObjectStore.installAll blobs).run kms.store).state }
        (((ObjectStore.installAll blobs).run kms.store).journal.map .nvm)
  /-- Keys are latched. -/
  | latchedKeys {keys : Placed (List ObjectHandle)} (hup : kms.sessions.isUp = true) :
      Effect kms (.lockKeys keys)
        { kms with latches := keys.value.foldl Latches.lockKey kms.latches } []
  /-- Functions are latched. -/
  | latchedServices {functions : Placed (List UInt32)} (hup : kms.sessions.isUp = true) :
      Effect kms (.lockServices functions)
        { kms with
          latches := (functions.value.map FunctionId.withoutOrigin).foldl Latches.lockFunction
            kms.latches } []

end Kms

end KeyEnclave
