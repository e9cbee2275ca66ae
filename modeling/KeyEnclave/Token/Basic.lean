import KeyEnclave.Identifier.FunctionId
import KeyEnclave.Object.Attribute
import KeyEnclave.Provider.Basic

/-!
# External tokens

An optional second key store, such as a discrete secure element, that holds the objects of the
external ranges. It has its own sessions and serves the functions its table has an entry for.

## Main definitions

* `AttributeQuery`, `AttributeReply` — what is asked of and learnt about one attribute.
* `TokenOp` — the operations of a token, and `TokenOp.Reply` — what each answers with.
* `ExternalToken` — a kind of token that serves them.
* `NoExternalToken` — the token of an enclave without one.
-/

namespace KeyEnclave

/-- A request for the value of an attribute. -/
structure AttributeQuery where
  kind : AttributeKind
  /-- The length of the buffer for the value, if there is one. -/
  room : Option Nat
  /-- The length that the caller left in the query. -/
  length : Option Nat
  deriving DecidableEq, Repr, Inhabited

/-- What a request for the value of an attribute leaves with its caller. -/
structure AttributeReply where
  /-- The length of the value, or none when it is unavailable. -/
  length : Option Nat
  /-- The bytes written to the front of the buffer. -/
  written : Bytes
  deriving DecidableEq, Repr, Inhabited

/-- The reply that leaves a query as it was. -/
def AttributeQuery.untouched (query : AttributeQuery) : AttributeReply := ⟨query.length, []⟩

/-- An operation of a token; sessions are the token's own. -/
inductive TokenOp
  | initialise
  | finalise
  | getMechanismInfo (slot : UInt32) (mechanism : MechanismKind)
  /-- `notify` says whether events are to be reported for the session. -/
  | openSession (slot : UInt32) (flags : Flags) (notify : Bool)
  | closeSession (session : UInt32)
  | createObject (session : UInt32) (template : Template)
  | destroyObject (session : UInt32) (object : ObjectHandle)
  | getAttributeValue (session : UInt32) (object : ObjectHandle) (queries : List AttributeQuery)
  | setAttributeValue (session : UInt32) (object : ObjectHandle) (template : Template)
  | findObjectsInit (session : UInt32) (template : Template)
  | findObjects (session : UInt32) (capacity : Nat)
  | findObjectsFinal (session : UInt32)
  | signInit (session : UInt32) (mechanism : Mechanism) (key : ObjectHandle)
  | sign (session : UInt32) (data : Bytes) (room : Option Nat)
  | verifyInit (session : UInt32) (mechanism : Mechanism) (key : ObjectHandle)
  | verify (session : UInt32) (data signature : Bytes)
  | deriveKey (session : UInt32) (mechanism : Mechanism) (baseKey : ObjectHandle)
      (template : Template)
  | generateKeyPair (session : UInt32) (mechanism : Mechanism)
      (publicTemplate privateTemplate : Template)
  | generateRandom (session : UInt32) (length : Nat)
  deriving DecidableEq, Repr

namespace TokenOp

/-- The function an operation belongs to. -/
def function : TokenOp → FunctionId
  | initialise => .initialise
  | finalise => .finalise
  | getMechanismInfo .. => .getMechanismInfo
  | openSession .. => .openSession
  | closeSession .. => .closeSession
  | createObject .. => .createObject
  | destroyObject .. => .destroyObject
  | getAttributeValue .. => .getAttributeValue
  | setAttributeValue .. => .setAttributeValue
  | findObjectsInit .. => .findObjectsInit
  | findObjects .. => .findObjects
  | findObjectsFinal .. => .findObjectsFinal
  | signInit .. => .signInit
  | sign .. => .sign
  | verifyInit .. => .verifyInit
  | verify .. => .verify
  | deriveKey .. => .deriveKey
  | generateKeyPair .. => .generateKeyPair
  | generateRandom .. => .generateRandom

/-- What each operation answers with. -/
abbrev Reply : TokenOp → Type
  | initialise | finalise | closeSession .. | destroyObject .. => ReturnCode
  | setAttributeValue .. | findObjectsInit .. | findObjectsFinal .. => ReturnCode
  | signInit .. | verifyInit .. | verify .. => ReturnCode
  | getMechanismInfo .. => Except ReturnCode MechanismInfo
  | openSession .. => Except ReturnCode UInt32
  | createObject .. | deriveKey .. => Except ReturnCode ObjectHandle
  | getAttributeValue .. => ReturnCode × List AttributeReply
  | findObjects .. => Except ReturnCode (List ObjectHandle)
  | sign .. => Delivery
  | generateKeyPair .. => Except ReturnCode (ObjectHandle × ObjectHandle)
  | generateRandom .. => ReturnCode × Bytes

/-- The reply of a token that does not support the operation. -/
def unsupported : (op : TokenOp) → op.Reply
  | initialise | finalise | closeSession .. | destroyObject .. => ReturnCode.functionNotSupported
  | setAttributeValue .. | findObjectsInit .. | findObjectsFinal .. =>
    ReturnCode.functionNotSupported
  | signInit .. | verifyInit .. | verify .. => ReturnCode.functionNotSupported
  | getMechanismInfo .. | openSession .. | createObject .. | deriveKey .. =>
    .error .functionNotSupported
  | getAttributeValue _ _ queries =>
    (.functionNotSupported, queries.map AttributeQuery.untouched)
  | findObjects .. | generateKeyPair .. => .error .functionNotSupported
  | sign .. => .refused .functionNotSupported
  | generateRandom .. => (.functionNotSupported, [])

end TokenOp

/-- An operation of a token with its reply. -/
abbrev TokenExchange := (op : TokenOp) × op.Reply

/-- A kind of token with states in `T`. -/
class ExternalToken (T : Type) where
  /-- Whether the token's function table has an entry for a function. -/
  implements : T → FunctionId → Bool
  serve : (op : TokenOp) → T → op.Reply × T

/-- The token of an enclave without one. -/
structure NoExternalToken where
  deriving DecidableEq, Repr, Inhabited

instance : ExternalToken NoExternalToken where
  implements _ _ := false
  serve op t := (op.unsupported, t)

/-- A token that may be missing. -/
instance {T : Type} [ExternalToken T] : ExternalToken (Option T) where
  implements
    | some t, function => ExternalToken.implements t function
    | none, function => ExternalToken.implements NoExternalToken.mk function
  serve
    | op, some t => (ExternalToken.serve op t).map id some
    | op, none => ((ExternalToken.serve op NoExternalToken.mk).1, none)

end KeyEnclave
