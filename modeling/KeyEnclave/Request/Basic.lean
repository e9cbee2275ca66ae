import KeyEnclave.Identifier.FunctionId
import KeyEnclave.Session.Table
import KeyEnclave.Token.Basic

/-!
# Requests

The arguments of each key management function. A caller hands over memory: inputs are values with
the address they lie at, outputs are addresses the enclave writes to.

## Main definitions

* `Placed`, `Buffer`, `Span` — a value in memory, an output buffer, and a range of addresses.
* `Request` — a request with its arguments; `Request.function` is the function it is one of.
* `Request.spans` — all memory that a request hands over.
-/

namespace KeyEnclave

/-- An address in memory. -/
abbrev Address := UInt64

/-- `len` bytes of memory. -/
structure Span where
  address : Address
  len : Nat
  deriving DecidableEq, Repr, Inhabited

/-- A value and where it lies. -/
structure Placed (α : Type) where
  address : Address
  value : α
  deriving DecidableEq, Repr, Inhabited

/-- A buffer for `room` elements of output. -/
structure Buffer where
  address : Address
  room : Nat
  deriving DecidableEq, Repr, Inhabited

/-- The memory of a byte string. -/
def Placed.span (placed : Placed Bytes) : Span := ⟨placed.address, placed.value.length⟩

/-- The memory of an array of words. -/
def Placed.wordSpan (placed : Placed (List UInt32)) : Span :=
  ⟨placed.address, 4 * placed.value.length⟩

/-- The memory of a buffer of bytes. -/
def Buffer.span (buffer : Buffer) : Span := ⟨buffer.address, buffer.room⟩

/-- The memory of a buffer of words. -/
def Buffer.wordSpan (buffer : Buffer) : Span := ⟨buffer.address, 4 * buffer.room⟩

/-- An attribute whose value lies in memory. -/
structure PlacedAttribute where
  kind : AttributeKind
  value : Placed Bytes
  deriving DecidableEq, Repr, Inhabited

/-- An array of attributes. -/
structure PlacedTemplate where
  address : Address
  entries : List PlacedAttribute
  deriving DecidableEq, Repr, Inhabited

namespace PlacedTemplate

/-- The attributes without their addresses. -/
def template (placed : PlacedTemplate) : Template :=
  placed.entries.map fun entry => ⟨entry.kind, entry.value.value⟩

/-- The memory of the array and of the values. -/
def spans (placed : PlacedTemplate) : List Span :=
  ⟨placed.address, 24 * placed.entries.length⟩ :: placed.entries.map fun entry => entry.value.span

end PlacedTemplate

/-- A mechanism whose parameter lies in memory. -/
structure PlacedMechanism where
  kind : MechanismKind
  parameter : Placed Bytes
  deriving DecidableEq, Repr, Inhabited

/-- The mechanism without the address of its parameter. -/
def PlacedMechanism.mechanism (placed : PlacedMechanism) : Mechanism :=
  ⟨placed.kind, placed.parameter.value⟩

/-- A request for an attribute's value, with the buffer for it. -/
structure PlacedQuery where
  kind : AttributeKind
  buffer : Option Buffer
  /-- The length that the caller left in the query. -/
  length : Option Nat
  deriving DecidableEq, Repr, Inhabited

/-- The query without the address of its buffer. -/
def PlacedQuery.query (placed : PlacedQuery) : AttributeQuery :=
  ⟨placed.kind, placed.buffer.map Buffer.room, placed.length⟩

/-- An array of requests for attribute values. -/
structure PlacedQueries where
  address : Address
  entries : List PlacedQuery
  deriving DecidableEq, Repr, Inhabited

namespace PlacedQueries

/-- The queries without their addresses. -/
def queries (placed : PlacedQueries) : List AttributeQuery := placed.entries.map PlacedQuery.query

/-- The memory of the array and of the buffers. -/
def spans (placed : PlacedQueries) : List Span :=
  ⟨placed.address, 40 * placed.entries.length⟩ ::
    placed.entries.filterMap fun entry => entry.buffer.map Buffer.span

end PlacedQueries

/-- A request with its arguments. Addresses are those of single output values. -/
inductive Request
  | initialise
  | finalise
  | getInfo (info : Address)
  | getSlotList (tokenPresent : Bool) (slots : Option Buffer) (count : Address)
  | getSlotInfo (slot : UInt32) (info : Address)
  | getTokenInfo (slot : UInt32) (info : Address)
  | getMechanismInfo (slot : UInt32) (mechanism : MechanismKind) (info : Address)
  | openSession (slot : UInt32) (flags : Flags) (notify : Option Notify) (session : Address)
  | closeSession (session : SessionHandle)
  | getSessionInfo (session : SessionHandle) (info : Address)
  | createObject (session : SessionHandle) (template : PlacedTemplate) (object : Address)
  | destroyObject (session : SessionHandle) (object : ObjectHandle)
  | getAttributeValue (session : SessionHandle) (object : ObjectHandle) (values : PlacedQueries)
  | setAttributeValue (session : SessionHandle) (object : ObjectHandle) (template : PlacedTemplate)
  | findObjectsInit (session : SessionHandle) (template : PlacedTemplate)
  | findObjects (session : SessionHandle) (objects : Buffer) (count : Address)
  | findObjectsFinal (session : SessionHandle)
  | encryptInit (session : SessionHandle) (mechanism : Option PlacedMechanism) (key : ObjectHandle)
  | encrypt (session : SessionHandle) (data : Placed Bytes) (output : Option Buffer)
      (len : Address)
  | encryptUpdate (session : SessionHandle) (data : Placed Bytes) (output : Option Buffer)
      (len : Address)
  | encryptFinal (session : SessionHandle) (output : Option Buffer) (len : Address)
  | decryptInit (session : SessionHandle) (mechanism : Option PlacedMechanism) (key : ObjectHandle)
  | decrypt (session : SessionHandle) (data : Placed Bytes) (output : Option Buffer)
      (len : Address)
  | decryptUpdate (session : SessionHandle) (data : Placed Bytes) (output : Option Buffer)
      (len : Address)
  | decryptFinal (session : SessionHandle) (output : Option Buffer) (len : Address)
  | digestInit (session : SessionHandle) (mechanism : Option PlacedMechanism)
  | digest (session : SessionHandle) (data : Placed Bytes) (output : Option Buffer)
      (len : Address)
  | digestUpdate (session : SessionHandle) (data : Placed Bytes)
  | digestFinal (session : SessionHandle) (output : Option Buffer) (len : Address)
  | signInit (session : SessionHandle) (mechanism : Option PlacedMechanism) (key : ObjectHandle)
  | sign (session : SessionHandle) (data : Placed Bytes) (signature : Option Buffer)
      (len : Address)
  | verifyInit (session : SessionHandle) (mechanism : Option PlacedMechanism) (key : ObjectHandle)
  | verify (session : SessionHandle) (data signature : Placed Bytes)
  | deriveKey (session : SessionHandle) (mechanism : Option PlacedMechanism)
      (baseKey : ObjectHandle) (template : PlacedTemplate) (key : Address)
  | generateKeyPair (session : SessionHandle) (mechanism : Option PlacedMechanism)
      (publicTemplate privateTemplate : PlacedTemplate) (publicKey privateKey : Address)
  | generateRandom (session : SessionHandle) (output : Buffer)
  | importBlob (header blob : Placed Bytes)
  | lockKeys (keys : Placed (List ObjectHandle))
  | lockServices (functions : Placed (List UInt32))
  /-- A function whose arguments are not defined here. -/
  | other (function : FunctionId)

namespace Request

/-- The function a request is one of. -/
def function : Request → FunctionId
  | initialise => .initialise
  | finalise => .finalise
  | getInfo .. => .getInfo
  | getSlotList .. => .getSlotList
  | getSlotInfo .. => .getSlotInfo
  | getTokenInfo .. => .getTokenInfo
  | getMechanismInfo .. => .getMechanismInfo
  | openSession .. => .openSession
  | closeSession .. => .closeSession
  | getSessionInfo .. => .getSessionInfo
  | createObject .. => .createObject
  | destroyObject .. => .destroyObject
  | getAttributeValue .. => .getAttributeValue
  | setAttributeValue .. => .setAttributeValue
  | findObjectsInit .. => .findObjectsInit
  | findObjects .. => .findObjects
  | findObjectsFinal .. => .findObjectsFinal
  | encryptInit .. => .encryptInit
  | encrypt .. => .encrypt
  | encryptUpdate .. => .encryptUpdate
  | encryptFinal .. => .encryptFinal
  | decryptInit .. => .decryptInit
  | decrypt .. => .decrypt
  | decryptUpdate .. => .decryptUpdate
  | decryptFinal .. => .decryptFinal
  | digestInit .. => .digestInit
  | digest .. => .digest
  | digestUpdate .. => .digestUpdate
  | digestFinal .. => .digestFinal
  | signInit .. => .signInit
  | sign .. => .sign
  | verifyInit .. => .verifyInit
  | verify .. => .verify
  | deriveKey .. => .deriveKey
  | generateKeyPair .. => .generateKeyPair
  | generateRandom .. => .generateRandom
  | importBlob .. => .importBlob
  | lockKeys .. => .lockKeys
  | lockServices .. => .lockServices
  | other function => function

/-- The memory of a word. -/
def wordAt (address : Address) : Span := ⟨address, 4⟩

/-- The memory of a length. -/
def lengthAt (address : Address) : Span := ⟨address, 8⟩

/-- The memory of an optional mechanism. -/
def mechanismSpans (mechanism : Option PlacedMechanism) : List Span :=
  mechanism.toList.map fun m => m.parameter.span

/-- The memory of an optional buffer of bytes and of the length reported beside it. -/
def outputSpans (output : Option Buffer) (len : Address) : List Span :=
  output.toList.map Buffer.span ++ [lengthAt len]

/-- All memory that a request hands over. -/
def spans : Request → List Span
  | initialise | finalise | other _ | closeSession _ | destroyObject .. | findObjectsFinal _ => []
  | getInfo info => [⟨info, 76⟩]
  | getSlotList _ slots count => slots.toList.map Buffer.wordSpan ++ [lengthAt count]
  | getSlotInfo _ info => [⟨info, 108⟩]
  | getTokenInfo _ info => [⟨info, 124⟩]
  | getMechanismInfo _ _ info => [⟨info, 16⟩]
  | openSession _ _ _ session => [wordAt session]
  | getSessionInfo _ info => [⟨info, 16⟩]
  | createObject _ template object => template.spans ++ [wordAt object]
  | getAttributeValue _ _ values => values.spans
  | setAttributeValue _ _ template | findObjectsInit _ template => template.spans
  | findObjects _ objects count => [objects.wordSpan, lengthAt count]
  | encryptInit _ mechanism _ | decryptInit _ mechanism _ | digestInit _ mechanism
  | signInit _ mechanism _ | verifyInit _ mechanism _ => mechanismSpans mechanism
  | encrypt _ data output len | encryptUpdate _ data output len | decrypt _ data output len
  | decryptUpdate _ data output len | digest _ data output len | sign _ data output len =>
    data.span :: outputSpans output len
  | encryptFinal _ output len | decryptFinal _ output len | digestFinal _ output len =>
    outputSpans output len
  | digestUpdate _ data => [data.span]
  | verify _ data signature => [data.span, signature.span]
  | deriveKey _ mechanism _ template key =>
    mechanismSpans mechanism ++ template.spans ++ [wordAt key]
  | generateKeyPair _ mechanism publicTemplate privateTemplate publicKey privateKey =>
    mechanismSpans mechanism ++ publicTemplate.spans ++ privateTemplate.spans ++
      [wordAt publicKey, wordAt privateKey]
  | generateRandom _ output => [output.span]
  | importBlob header blob => [header.span, blob.span]
  | lockKeys keys => [keys.wordSpan]
  | lockServices functions => [functions.wordSpan]

end Request

end KeyEnclave
