import KeyEnclave.Identifier.Numbered

/-!
# Functions and origins

Key management functions are numbered in PKCS#11 order, followed by the enclave's own. The word a
caller passes also carries a tag saying which world the request came from.

## Main definitions

* `Origin` — the tags, one per world.
* `FunctionId` — the functions.
* `FunctionId.tagged`, `FunctionId.withoutOrigin` — a function's word with a tag, a word without.
-/

namespace KeyEnclave

/-- The world a request comes from. -/
inductive Origin
  /-- The request crossed the call gate. -/
  | unsecure
  /-- The request was issued inside the enclave. -/
  | secureWorld
  deriving DecidableEq, Repr, Inhabited

/-- The tag of each origin. -/
def Origin.word : Origin → UInt32
  | .unsecure => 0x005A0000
  | .secureWorld => 0x00A10000

instance : Numbered Origin where
  all := [.unsecure, .secureWorld]
  word := Origin.word

/-- The bits of a function word that carry the origin. -/
def originMask : UInt32 := 0x00FF0000

/-- Key management functions. -/
inductive FunctionId
  | initialise
  | finalise
  | getInfo
  | getSlotList
  | getSlotInfo
  | getTokenInfo
  | getMechanismList
  | getMechanismInfo
  | initToken
  | initPin
  | setPin
  | openSession
  | closeSession
  | closeAllSessions
  | getSessionInfo
  | getOperationState
  | setOperationState
  | login
  | logout
  | createObject
  | copyObject
  | destroyObject
  | getObjectSize
  | getAttributeValue
  | setAttributeValue
  | findObjectsInit
  | findObjects
  | findObjectsFinal
  | encryptInit
  | encrypt
  | encryptUpdate
  | encryptFinal
  | decryptInit
  | decrypt
  | decryptUpdate
  | decryptFinal
  | digestInit
  | digest
  | digestUpdate
  | digestKey
  | digestFinal
  | signInit
  | sign
  | signUpdate
  | signFinal
  | signRecoverInit
  | signRecover
  | verifyInit
  | verify
  | verifyUpdate
  | verifyFinal
  | verifyRecoverInit
  | verifyRecover
  | digestEncryptUpdate
  | decryptDigestUpdate
  | signEncryptUpdate
  | decryptVerifyUpdate
  | generateKey
  | generateKeyPair
  | wrapKey
  | unwrapKey
  | deriveKey
  | seedRandom
  | generateRandom
  | getFunctionStatus
  | cancelFunction
  | waitForSlotEvent
  /-- Install an authenticated and encrypted blob of objects. -/
  | importBlob
  /-- Latch keys until the next reset. -/
  | lockKeys
  /-- Latch functions until the next reset. -/
  | lockServices
  deriving DecidableEq, Repr, Inhabited

namespace FunctionId

/-- Every function in the order of its number. -/
def inOrder : List FunctionId :=
  [initialise, finalise, getInfo, getSlotList, getSlotInfo, getTokenInfo, getMechanismList,
    getMechanismInfo, initToken, initPin, setPin, openSession, closeSession, closeAllSessions,
    getSessionInfo, getOperationState, setOperationState, login, logout, createObject, copyObject,
    destroyObject, getObjectSize, getAttributeValue, setAttributeValue, findObjectsInit,
    findObjects, findObjectsFinal, encryptInit, encrypt, encryptUpdate, encryptFinal, decryptInit,
    decrypt, decryptUpdate, decryptFinal, digestInit, digest, digestUpdate, digestKey, digestFinal,
    signInit, sign, signUpdate, signFinal, signRecoverInit, signRecover, verifyInit, verify,
    verifyUpdate, verifyFinal, verifyRecoverInit, verifyRecover, digestEncryptUpdate,
    decryptDigestUpdate, signEncryptUpdate, decryptVerifyUpdate, generateKey, generateKeyPair,
    wrapKey, unwrapKey, deriveKey, seedRandom, generateRandom, getFunctionStatus, cancelFunction,
    waitForSlotEvent, importBlob, lockKeys, lockServices]

/-- The lowest function number. -/
def firstWord : UInt32 := 0x01

/-- The first number above every function. -/
def endWord : UInt32 := 0x47

/-- Functions are numbered without a gap from `firstWord`. -/
def word (function : FunctionId) : UInt32 := firstWord + UInt32.ofNat function.ctorIdx

instance : Numbered FunctionId where
  all := inOrder
  word := word

/-- A function's word as `origin` passes it. -/
def tagged (function : FunctionId) (origin : Origin) : UInt32 := function.word ||| origin.word

/-- A raw function word without the tag of its origin. -/
def withoutOrigin (raw : UInt32) : UInt32 := raw &&& ~~~originMask

end FunctionId

end KeyEnclave
