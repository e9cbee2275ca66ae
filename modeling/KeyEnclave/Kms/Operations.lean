import KeyEnclave.Kms.Basic

/-!
# Operations of a session

A session is in at most one operation: it begins with the key and mechanism, goes on in steps and
ends with the step that delivers the result, or with a failure.

## Main definitions

* `Kms.terminates` — whether a step ended its operation; `Kms.conclude` — put the session back to
  idle if so.
* `Kms.operationKey` — the key of the operation in progress, unless it was latched since.
* `Kms.cryptInit`, `digestInit`, `signVerifyInit` — begin an operation.
* `Kms.encrypt`, `decrypt`, `digest`, `sign`, `verify`, … — the steps.
-/

namespace KeyEnclave.Kms

variable {C T N : Type} [CryptoProvider C] [ExternalToken T] [NvmStorage N]

/-- Whether a step that returned `code` ended its operation. A last step does, unless the caller
only learnt the length or brought too short a buffer; another step only when it failed. -/
def terminates (code : ReturnCode) (hasOutput lastStep : Bool) : Bool :=
  if lastStep then !isLengthProbe code hasOutput else code != .ok && code != .bufferTooSmall

/-- Put a session back to idle and drop its context, if its operation ended. -/
def conclude (session : SessionHandle) (ended : Bool) : Step C T N Unit := do
  if ended then
    resetSession session
    askProvider (.release session)

/-- The key of the operation in progress. An operation whose key was latched since is ended. -/
def operationKey (session : SessionHandle) (state : SessionState) : Step C T N ObjectHandle := do
  let kms ← get
  let record ← Action.ofExcept (kms.requireState session state)
  if record.key ≠ noKey ∧ kms.latches.isKeyLocked record.key then
    conclude session true
    throw .keyHandleInvalid
  pure record.key

/-- Run a step that delivers bytes, and end the operation if it has to. -/
def delivering (session : SessionHandle) (room : Option Nat) (lastStep : Bool)
    (step : Step C T N Delivery) : Step C T N Answer := do
  let delivery ← step
  conclude session (terminates delivery.code room.isSome lastStep)
  pure delivery.answer

-- ═══════════════════════════════════════════════════════════════════════════
-- Encryption
-- ═══════════════════════════════════════════════════════════════════════════

/-- The two operations of a cipher. -/
inductive Direction
  | encrypting
  | decrypting
  deriving DecidableEq, Repr

/-- The state of a session in such an operation. -/
def Direction.state : Direction → SessionState
  | .encrypting => .encrypting
  | .decrypting => .decrypting

/-- Begin an encryption or decryption with a key of the enclave. -/
def cryptInit (session : SessionHandle) (mechanism : Option PlacedMechanism) (key : ObjectHandle)
    (direction : Direction) : Step C T N ReturnCode := do
  let mechanism ← Action.ofExcept (requireMechanism mechanism)
  let kms ← get
  let record ← Action.ofExcept (kms.requireSession session)
  if kms.layout.classify key = .unknown then throw .objectHandleInvalid
  Action.ofExcept (requireIdle record)
  match kms.lookup key with
  | none => throw .keyHandleInvalid
  | some object =>
    let code : ReturnCode ← match direction with
      | .encrypting => askProvider (.encryptInit session mechanism object)
      | .decrypting => askProvider (.decryptInit session mechanism object)
    Action.ofExcept code.toExcept
    updateSessions fun table => table.setState session direction.state key
    pure .ok

def encrypt (session : SessionHandle) (data : Bytes) (room : Option Nat) : Step C T N Answer := do
  let _ ← operationKey session .encrypting
  delivering session room true (askProvider (.encrypt session data room))

def encryptUpdate (session : SessionHandle) (data : Bytes) (room : Option Nat) :
    Step C T N Answer := do
  let _ ← operationKey session .encrypting
  delivering session room false (askProvider (.encryptUpdate session data room))

def encryptFinal (session : SessionHandle) (room : Option Nat) : Step C T N Answer := do
  let _ ← operationKey session .encrypting
  delivering session room true (askProvider (.encryptFinal session room))

def decrypt (session : SessionHandle) (data : Bytes) (room : Option Nat) : Step C T N Answer := do
  let _ ← operationKey session .decrypting
  delivering session room true (askProvider (.decrypt session data room))

def decryptUpdate (session : SessionHandle) (data : Bytes) (room : Option Nat) :
    Step C T N Answer := do
  let _ ← operationKey session .decrypting
  delivering session room false (askProvider (.decryptUpdate session data room))

def decryptFinal (session : SessionHandle) (room : Option Nat) : Step C T N Answer := do
  let _ ← operationKey session .decrypting
  delivering session room true (askProvider (.decryptFinal session room))

-- ═══════════════════════════════════════════════════════════════════════════
-- Digests
-- ═══════════════════════════════════════════════════════════════════════════

/-- Begin a digest. -/
def digestInit (session : SessionHandle) (mechanism : Option PlacedMechanism) :
    Step C T N ReturnCode := do
  let mechanism ← Action.ofExcept (requireMechanism mechanism)
  let record ← Action.ofExcept ((← get).requireSession session)
  Action.ofExcept (requireIdle record)
  let code : ReturnCode ← askProvider (.digestInit session mechanism)
  Action.ofExcept code.toExcept
  updateSessions fun table => table.setState session .digesting noKey
  pure .ok

def digest (session : SessionHandle) (data : Bytes) (room : Option Nat) : Step C T N Answer := do
  let _ ← Action.ofExcept ((← get).requireState session .digesting)
  delivering session room true (askProvider (.digest session data room))

def digestUpdate (session : SessionHandle) (data : Bytes) : Step C T N ReturnCode := do
  let _ ← Action.ofExcept ((← get).requireState session .digesting)
  let code : ReturnCode ← askProvider (.digestUpdate session data)
  conclude session (terminates code true false)
  pure code

def digestFinal (session : SessionHandle) (room : Option Nat) : Step C T N Answer := do
  let _ ← Action.ofExcept ((← get).requireState session .digesting)
  delivering session room true (askProvider (.digestFinal session room))

-- ═══════════════════════════════════════════════════════════════════════════
-- Signatures
-- ═══════════════════════════════════════════════════════════════════════════

/-- The two operations on signatures. -/
inductive Purpose
  | signing
  | verifying
  deriving DecidableEq, Repr

/-- The state of a session in such an operation. -/
def Purpose.state : Purpose → SessionState
  | .signing => .signing
  | .verifying => .verifying

/-- Begin an operation on signatures with a key of the token. -/
def signVerifyInitExternal (session : SessionHandle) (mechanism : Mechanism) (key : ObjectHandle) :
    Purpose → Step C T N ReturnCode
  | .signing => do
    let external ← Action.ofExcept ((← get).tokenSession .signInit session)
    askToken (.signInit external mechanism key)
  | .verifying => do
    let external ← Action.ofExcept ((← get).tokenSession .verifyInit session)
    askToken (.verifyInit external mechanism key)

/-- Begin an operation on signatures with a key of the enclave. -/
def signVerifyInitLocal (session : SessionHandle) (mechanism : Mechanism) (key : ObjectHandle)
    (purpose : Purpose) : Step C T N ReturnCode := do
  match (← get).lookup key with
  | none => throw .keyHandleInvalid
  | some object =>
    match purpose with
    | .signing => askProvider (.signInit session mechanism object)
    | .verifying => askProvider (.verifyInit session mechanism object)

/-- Begin to sign or to verify, wherever the key is. -/
def signVerifyInit (session : SessionHandle) (mechanism : Option PlacedMechanism)
    (key : ObjectHandle) (purpose : Purpose) : Step C T N ReturnCode := do
  let mechanism ← Action.ofExcept (requireMechanism mechanism)
  let kms ← get
  let record ← Action.ofExcept (kms.requireSession session)
  Action.ofExcept (requireIdle record)
  if kms.latches.isKeyLocked key then throw .keyHandleInvalid
  let range := kms.layout.classify key
  let code ←
    if range.isExternal then signVerifyInitExternal session mechanism key purpose
    else if range.isLocal then signVerifyInitLocal session mechanism key purpose
    else throw .objectHandleInvalid
  Action.ofExcept code.toExcept
  updateSessions fun table => table.setState session purpose.state key
  pure .ok

/-- Sign data, on the token if the key is there. -/
def sign (session : SessionHandle) (data : Bytes) (room : Option Nat) : Step C T N Answer := do
  let key ← operationKey session .signing
  let kms ← get
  delivering session room true <|
    if (kms.layout.classify key).isExternal then
      match kms.tokenSession .sign session with
      | .ok external => askToken (.sign external data room)
      | .error code => pure (.refused code)
    else askProvider (.sign session data room)

/-- Check a signature, on the token if the key is there. The operation ends in any case. -/
def verify (session : SessionHandle) (data signature : Bytes) : Step C T N ReturnCode := do
  let key ← operationKey session .verifying
  let kms ← get
  let code : ReturnCode ←
    if (kms.layout.classify key).isExternal then
      match kms.tokenSession .verify session with
      | .ok external => askToken (.verify external data signature)
      | .error code => pure code
    else askProvider (.verify session data signature)
  conclude session true
  pure code

end KeyEnclave.Kms
