import KeyEnclave.Identifier.ReturnCode
import KeyEnclave.Object.View
import KeyEnclave.Record.Basic

/-!
# Cryptographic providers

The enclave decides whether and on which key an operation runs; a provider does the arithmetic and
keeps the context of one operation per session.

## Main definitions

* `Delivery` — what a request for bytes leaves with its caller; `deliver` follows the standard's
  convention for output buffers.
* `isLengthProbe` — whether the caller is expected to repeat the call with a real buffer.
* `ProviderOp` — the operations of a provider, and `ProviderOp.Reply` — what each answers with.
* `CryptoProvider` — a kind of provider that serves them.
* `NoCrypto` — a provider that supports nothing.
-/

namespace KeyEnclave

/-- What a request for bytes leaves with its caller. -/
structure Delivery where
  code : ReturnCode
  /-- The length that was reported, if one was. -/
  length : Option Nat
  /-- The bytes written to the front of the buffer. -/
  written : Bytes
  deriving DecidableEq, Repr, Inhabited

/-- A delivery of nothing but a code. -/
def Delivery.refused (code : ReturnCode) : Delivery := ⟨code, none, []⟩

/-- Deliver a result into a buffer of `room` bytes. Without a buffer only the length is reported; a
buffer that is too short stays as it is. -/
def deliver (result : Bytes) (room : Option Nat) : Delivery :=
  match room with
  | none => ⟨.ok, some result.length, []⟩
  | some room =>
    if room < result.length then ⟨.bufferTooSmall, some result.length, []⟩
    else ⟨.ok, some result.length, result⟩

/-- Whether a call that returned `code` is to be repeated with a real buffer. -/
def isLengthProbe (code : ReturnCode) (hasOutput : Bool) : Bool :=
  code == .bufferTooSmall || (code == .ok && !hasOutput)

/-- An operation of a provider. `room` is the length of the output buffer, if there is one. -/
inductive ProviderOp
  | encryptInit (session : SessionHandle) (mechanism : Mechanism) (key : ObjectView)
  | encrypt (session : SessionHandle) (data : Bytes) (room : Option Nat)
  | encryptUpdate (session : SessionHandle) (data : Bytes) (room : Option Nat)
  | encryptFinal (session : SessionHandle) (room : Option Nat)
  | decryptInit (session : SessionHandle) (mechanism : Mechanism) (key : ObjectView)
  | decrypt (session : SessionHandle) (data : Bytes) (room : Option Nat)
  | decryptUpdate (session : SessionHandle) (data : Bytes) (room : Option Nat)
  | decryptFinal (session : SessionHandle) (room : Option Nat)
  | digestInit (session : SessionHandle) (mechanism : Mechanism)
  | digest (session : SessionHandle) (data : Bytes) (room : Option Nat)
  | digestUpdate (session : SessionHandle) (data : Bytes)
  | digestFinal (session : SessionHandle) (room : Option Nat)
  | signInit (session : SessionHandle) (mechanism : Mechanism) (key : ObjectView)
  | sign (session : SessionHandle) (data : Bytes) (room : Option Nat)
  | verifyInit (session : SessionHandle) (mechanism : Mechanism) (key : ObjectView)
  | verify (session : SessionHandle) (data signature : Bytes)
  /-- Derive up to `length` bytes of key material. -/
  | deriveKey (mechanism : Mechanism) (base : ObjectView) (length : Nat)
  /-- Generate a key pair into buffers of the given lengths. -/
  | generateKeyPair (mechanism : Mechanism) (publicRoom privateRoom : Nat)
  /-- Drop the context of a session. -/
  | release (session : SessionHandle)
  deriving DecidableEq, Repr

namespace ProviderOp

/-- What each operation answers with. -/
abbrev Reply : ProviderOp → Type
  | encryptInit .. | decryptInit .. | digestInit .. | signInit .. | verifyInit .. => ReturnCode
  | digestUpdate .. | verify .. => ReturnCode
  | encrypt .. | encryptUpdate .. | encryptFinal .. => Delivery
  | decrypt .. | decryptUpdate .. | decryptFinal .. => Delivery
  | digest .. | digestFinal .. | sign .. => Delivery
  | deriveKey .. => Except ReturnCode Bytes
  | generateKeyPair .. => Except ReturnCode (Bytes × Bytes)
  | release .. => Unit

/-- The reply of a provider that does not support the operation. -/
def unsupported : (op : ProviderOp) → op.Reply
  | encryptInit .. | decryptInit .. | digestInit .. | signInit .. | verifyInit .. =>
    ReturnCode.functionNotSupported
  | digestUpdate .. | verify .. => ReturnCode.functionNotSupported
  | encrypt .. | encryptUpdate .. | encryptFinal .. => .refused .functionNotSupported
  | decrypt .. | decryptUpdate .. | decryptFinal .. => .refused .functionNotSupported
  | digest .. | digestFinal .. | sign .. => .refused .functionNotSupported
  | deriveKey .. => .error .functionNotSupported
  | generateKeyPair .. => .error .functionNotSupported
  | release .. => ()

end ProviderOp

/-- An operation of a provider with its reply. -/
abbrev ProviderExchange := (op : ProviderOp) × op.Reply

/-- A kind of provider with states in `C`. -/
class CryptoProvider (C : Type) where
  /-- What is known of a mechanism the provider has. -/
  mechanismInfo : C → MechanismKind → Option MechanismInfo
  serve : (op : ProviderOp) → C → op.Reply × C

/-- A provider that supports nothing. -/
structure NoCrypto where
  deriving DecidableEq, Repr, Inhabited

instance : CryptoProvider NoCrypto where
  mechanismInfo _ _ := none
  serve op c := (op.unsupported, c)

/-- A provider that may be missing. -/
instance {C : Type} [CryptoProvider C] : CryptoProvider (Option C) where
  mechanismInfo
    | some c, kind => CryptoProvider.mechanismInfo c kind
    | none, kind => CryptoProvider.mechanismInfo NoCrypto.mk kind
  serve
    | op, some c => (CryptoProvider.serve op c).map id some
    | op, none => ((CryptoProvider.serve op NoCrypto.mk).1, none)

end KeyEnclave
