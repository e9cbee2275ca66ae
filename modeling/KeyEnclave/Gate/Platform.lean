import KeyEnclave.Bytes
import KeyEnclave.Identifier.ServiceId

/-!
# Platform and engine

What the call gate relies on: the processor core it runs on, and the primitives that decrypt and
authenticate firmware.

## Main definitions

* `PlatformOp`, `Platform` — what is done to the core, and a kind of core that serves it.
* `EngineOp`, `EngineServices` — operations on firmware, and a kind of engine that serves them.
-/

namespace KeyEnclave

/-- What is done to the processor core. -/
inductive PlatformOp
  /-- Reset the system; nothing comes after it. -/
  | reset
  /-- Mask interrupts and switch to protected execution. -/
  | enterProtectedArea
  /-- Leave protected execution with the caller's interrupt mask. -/
  | exitProtectedArea (primask : UInt32)
  | setVectorTable (address : UInt64)
  | setCoreClock
  /-- Save the state of `count` words of interrupts and disable them. -/
  | saveDisableIrq (count : Nat)
  | restoreEnableIrq (state : List UInt32)
  /-- Scrub what the enclave left behind. -/
  | coreCleanup
  /-- Lock the keys of the restricted services. -/
  | lockKeys
  | exitInterrupt
  deriving DecidableEq, Repr

/-- What each operation answers with. -/
abbrev PlatformOp.Reply : PlatformOp → Type
  | .saveDisableIrq _ => List UInt32
  | .lockKeys => Except EngineStatus Unit
  | .reset | .enterProtectedArea | .exitProtectedArea _ | .setVectorTable _ | .setCoreClock
  | .restoreEnableIrq _ | .coreCleanup | .exitInterrupt => Unit

/-- An operation on the core with its reply. -/
abbrev PlatformExchange := (op : PlatformOp) × op.Reply

/-- A kind of processor core with states in `P`. -/
class Platform (P : Type) where
  inHandlerMode : P → Bool
  /-- The vector table in use. -/
  vectorTable : P → UInt64
  enclaveVectorTable : P → UInt64
  serve : (op : PlatformOp) → P → op.Reply × P

/-- What an operation on firmware leaves with its caller. -/
structure EngineDelivery where
  result : Except EngineStatus Unit
  /-- The length that was reported, if one was. -/
  length : Option Nat
  /-- The bytes written to the front of the buffer. -/
  written : Bytes

/-- An operation on firmware. `room` is the length of the output buffer. -/
inductive EngineOp
  | decryptInit (header : Bytes) (kind : ImageKind)
  | decryptAppend (input : Bytes) (room : Nat)
  | decryptFinish (room : Nat)
  | authenticateInit (header : Bytes) (kind : ImageKind)
  | authenticateAppend (input : Bytes) (room : Nat)
  | authenticateFinish (room : Nat)
  | authenticateMetadata (header : Bytes)
  | extFlashDecryptInit (header : Bytes)
  deriving DecidableEq, Repr

/-- What each operation answers with. -/
abbrev EngineOp.Reply : EngineOp → Type
  | .decryptInit .. | .authenticateInit .. => Except EngineStatus Unit
  | .authenticateMetadata _ | .extFlashDecryptInit _ => Except EngineStatus Unit
  | .decryptAppend .. | .decryptFinish _ => EngineDelivery
  | .authenticateAppend .. | .authenticateFinish _ => EngineDelivery

/-- An operation on firmware with its reply. -/
abbrev EngineExchange := (op : EngineOp) × op.Reply

/-- A kind of engine with states in `E`. -/
class EngineServices (E : Type) where
  serve : (op : EngineOp) → E → op.Reply × E

end KeyEnclave
