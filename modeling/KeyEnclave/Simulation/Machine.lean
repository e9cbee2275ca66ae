import KeyEnclave.Gate.Platform
import KeyEnclave.Provider.Software

/-!
# Simulated machine

What surrounds the enclave on its chip: a processor core, an engine and a source of random numbers.

## Main definitions

* `SimulatedCore` — a core whose mode and whose refusal to lock keys are given.
* `SimulatedEngine` — an engine that copies data, unless it is told to fail.
* `XorShift` — random numbers with a known sequence, and the keys drawn from them.
-/

namespace KeyEnclave

/-- A processor core. -/
structure SimulatedCore where
  handlerMode : Bool
  vectorTable : UInt64
  enclaveVectorTable : UInt64
  locking : Except EngineStatus Unit
  /-- The saved state of the interrupts, word by word. -/
  interrupts : Nat → UInt32

/-- The reply of a core and the core after it; only the vector table ever changes. -/
def SimulatedCore.serve (core : SimulatedCore) : (op : PlatformOp) → op.Reply × SimulatedCore
  | .saveDisableIrq count => ((List.range count).map core.interrupts, core)
  | .lockKeys => (core.locking, core)
  | .setVectorTable address => ((), { core with vectorTable := address })
  | .reset | .enterProtectedArea | .exitProtectedArea _ | .setCoreClock | .restoreEnableIrq _
  | .coreCleanup | .exitInterrupt => ((), core)

instance : Platform SimulatedCore where
  inHandlerMode core := core.handlerMode
  vectorTable core := core.vectorTable
  enclaveVectorTable core := core.enclaveVectorTable
  serve op core := core.serve op

/-- An engine that decrypts nothing and finds everything authentic. -/
structure SimulatedEngine where
  fault : EngineOp → Option EngineStatus
  /-- What is delivered when an image is finished. -/
  tag : Bytes

namespace SimulatedEngine

/-- The result of an operation. -/
def result (engine : SimulatedEngine) (op : EngineOp) : Except EngineStatus Unit :=
  match engine.fault op with
  | some status => .error status
  | none => .ok ()

/-- The delivery of as much of `data` as fits, unless the operation fails. -/
def delivery (engine : SimulatedEngine) (op : EngineOp) (data : Bytes) (room : Nat) :
    EngineDelivery :=
  match engine.result op with
  | .ok () => ⟨.ok (), some (min data.length room), data.take room⟩
  | .error status => ⟨.error status, none, []⟩

/-- The reply to an operation. -/
def reply (engine : SimulatedEngine) : (op : EngineOp) → op.Reply
  | .decryptInit header kind => engine.result (.decryptInit header kind)
  | .authenticateInit header kind => engine.result (.authenticateInit header kind)
  | .authenticateMetadata header => engine.result (.authenticateMetadata header)
  | .extFlashDecryptInit header => engine.result (.extFlashDecryptInit header)
  | .decryptAppend input room => engine.delivery (.decryptAppend input room) input room
  | .authenticateAppend input room => engine.delivery (.authenticateAppend input room) input room
  | .decryptFinish room => engine.delivery (.decryptFinish room) engine.tag room
  | .authenticateFinish room => engine.delivery (.authenticateFinish room) engine.tag room

end SimulatedEngine

instance : EngineServices SimulatedEngine where
  serve op engine := (engine.reply op, engine)

/-- Random numbers with a known sequence. -/
structure XorShift where
  state : UInt64
  deriving DecidableEq, Repr, Inhabited

namespace XorShift

/-- The next state. -/
def next (rng : XorShift) : XorShift :=
  let x := rng.state
  let x := x ^^^ (x <<< 13)
  let x := x ^^^ (x >>> 7)
  ⟨x ^^^ (x <<< 17)⟩

/-- The bytes of the next `count` states. -/
def words : Nat → XorShift → Bytes × XorShift
  | 0, rng => ([], rng)
  | count + 1, rng =>
    let rng := rng.next
    let (bytes, last) := words count rng
    (Bytes.ofNatLE 8 rng.state.toNat ++ bytes, last)

/-- Random bytes; what is left of the last state is lost. -/
def fill (length : Nat) (rng : XorShift) : Bytes × XorShift :=
  let (bytes, rng) := words ((length + 7) / 8) rng
  (bytes.take length, rng)

/-- The first key among `budget` candidates of 32 bytes. -/
def signingKeyWithin : Nat → XorShift → Ecdsa.SigningKey × XorShift
  | 0, rng => (default, rng)
  | budget + 1, rng =>
    let (candidate, rng) := rng.fill P256.elementLength
    match Ecdsa.SigningKey.ofBytes? candidate with
    | some key => (key, rng)
    | none => signingKeyWithin budget rng

/-- How many candidates are looked at; one in 2³² is no key, unless the state is zero. -/
def keyBudget : Nat := 256

instance : RandomSource XorShift where
  signingKey rng := rng.signingKeyWithin keyBudget

end XorShift

end KeyEnclave
