import KeyEnclave.Firmware.Images
import KeyEnclave.Gate.Platform
import KeyEnclave.Gate.Service
import KeyEnclave.Kms.Dispatch

/-!
# The call gate

The single entry into the enclave. The gate checks where a call comes from and where its status
word lies before anything else, and resets the system when either is wrong.

## Main definitions

* `CallGate` — the gate over a core, an engine, flash and an entry to key management.
* `CallGate.call` — a call from outside.
* `CallGate.forward`, `CallGate.serve` — a key management request, and every other service.
* `CallGate.enterInterrupt` — an interrupt is being serviced outside until `exitInterrupt`.

## Design notes

A reset ends the action as an error: nothing of the call happens after it.
-/

namespace KeyEnclave

/-- The system was reset. -/
inductive SystemReset
  | reset
  deriving DecidableEq, Repr, Inhabited

/-- An exchange of the gate with a collaborator. -/
inductive GateEvent
  | platform (exchange : PlatformExchange)
  | engine (exchange : EngineExchange)
  | flash (exchange : FlashExchange)
  /-- A request that was dispatched, and the exchanges it led to. -/
  | kms (word : UInt32) (request : Request) (events : List KmsEvent)

/-- The gate over a core, an engine, flash and an entry with states in `P`, `E`, `F` and `K`. -/
structure CallGate (P E F K : Type) where
  platform : P
  engine : E
  images : FirmwareImages F
  kms : K
  memory : MemoryMap
  /-- The restricted services are closed until the next reset. -/
  locked : Bool
  /-- An interrupt is being serviced outside of the enclave. -/
  inInterrupt : Bool

namespace CallGate

variable {P E F K : Type}

/-- The gate after a reset. -/
def new (platform : P) (engine : E) (images : FirmwareImages F) (kms : K) (memory : MemoryMap) :
    CallGate P E F K :=
  ⟨platform, engine, images, kms, memory, false, false⟩

/-- An interrupt is handed to the outside. -/
def enterInterrupt (gate : CallGate P E F K) : CallGate P E F K :=
  { gate with inInterrupt := true }

/-- What a call does to the gate, with the exchanges with its collaborators. -/
abbrev Step (P E F K α : Type) := Action (CallGate P E F K) GateEvent SystemReset α

variable [Platform P] [EngineServices E] [Flash F] [KmsEntry K]

/-- One exchange with the core. -/
def askPlatform (op : PlatformOp) : Step P E F K op.Reply :=
  Action.ask CallGate.platform (fun gate platform => { gate with platform := platform })
    Platform.serve GateEvent.platform op

/-- One exchange with the engine. -/
def askEngine (op : EngineOp) : Step P E F K op.Reply :=
  Action.ask CallGate.engine (fun gate engine => { gate with engine := engine })
    EngineServices.serve GateEvent.engine op

/-- Dispatch a request to key management under a function word. -/
def askKms (word : UInt32) (request : Request) : Step P E F K Answer :=
  Action.perform fun gate =>
    let (answer, kms, events) := KmsEntry.dispatch gate.kms word request
    (answer, { gate with kms := kms }, [.kms word request events])

/-- Do something to the firmware images. -/
def onImages {α : Type} (step : FirmwareImages.Step F α) :
    Step P E F K (Except ImageError α) :=
  step.attempt.within CallGate.images (fun gate images => { gate with images := images })
    GateEvent.flash

/-- Reset the system. -/
def reset {α : Type} : Step P E F K α := do
  let () ← askPlatform .reset
  throw .reset

-- ═══════════════════════════════════════════════════════════════════════════
-- Checks
-- ═══════════════════════════════════════════════════════════════════════════

/-- The length of a status word. -/
def statusLength : Nat := 8

/-- The length of a reported length. -/
def lengthLength : Nat := 8

/-- The length of the information on an active image. -/
def imageInfoLength : Nat := 12

/-- The length of the state of an image. -/
def imageStateLength : Nat := 1

/-- A call has to come from the code of the gate, with its status word in RAM that is not the
enclave's. -/
def checkCaller (caller status : Address) : Step P E F K Unit := do
  let memory := (← get).memory
  if !memory.interfaceRom.contains caller 1 then reset
  if !memory.inCallerRam status statusLength then reset

/-- A restricted service may not be called once they are locked. -/
def checkRestricted (id : ServiceId) : Step P E F K Unit := do
  if id.isRestricted && (← get).locked then reset

/-- Whether memory of a request may be handed to key management. -/
def mayForward (memory : MemoryMap) (span : Span) : Bool :=
  span.len == 0 || memory.inCallerRam span.address span.len

-- ═══════════════════════════════════════════════════════════════════════════
-- Services
-- ═══════════════════════════════════════════════════════════════════════════

/-- The response to a service that went well. -/
def succeed (outputs : ServiceOutputs) : Response := ⟨.success, .engine .ok, outputs⟩

/-- The response to a service that failed for no reason of the engine's. -/
def refuse (args : ServiceArgs) : Response := ⟨.error, .engine .ok, args.untouched⟩

/-- The response to a result of the engine. -/
def ofEngine (result : Except EngineStatus Unit) (outputs : ServiceOutputs) : Response :=
  match result with
  | .ok () => ⟨.success, .engine .ok, outputs⟩
  | .error status => ⟨.error, .engine status, outputs⟩

/-- The response to a delivery of the engine. -/
def ofDelivery (delivery : EngineDelivery) : Response :=
  ofEngine delivery.result (.bytes delivery.length delivery.written)

/-- The function word under which a service word is forwarded: its origin is always outside. -/
def forwardedWord (service : UInt32) : UInt32 :=
  (service &&& ~~~(addonMask ||| originMask)) ||| Origin.unsecure.word

/-- Forward a request to key management; all memory it hands over has to be in RAM that is not the
enclave's. -/
def forward (service : UInt32) (args : ServiceArgs) : Step P E F K Response := do
  match args with
  | .kms request =>
    if !request.spans.all (mayForward (← get).memory) then reset
    let answer ← askKms (forwardedWord service) request
    let result := if answer.code = .ok then GateResult.success else .error
    pure ⟨result, .kms answer.code, .kms answer.outputs⟩
  | args => pure (refuse args)

/-- Begin to decrypt or to authenticate an image. -/
def imageInit (args : ServiceArgs)
    (op : Bytes → ImageKind → Step P E F K (Except EngineStatus Unit)) : Step P E F K Response := do
  match args with
  | .imageHeader header kind =>
    if !(← get).memory.inBootloaderRam header.address header.value.length then
      pure (refuse args)
    else pure (ofEngine (← op header.value kind) .nothing)
  | args => pure (refuse args)

/-- Go on with an image. -/
def imageAppend (args : ServiceArgs) (op : Bytes → Nat → Step P E F K EngineDelivery) :
    Step P E F K Response := do
  match args with
  | .append input output outputLen =>
    let memory := (← get).memory
    if input.value = [] ∨ !(memory.inBootloaderRam input.address input.value.length &&
        memory.inBootloaderRam output.address output.room &&
        memory.inBootloaderRam outputLen lengthLength) then
      pure (refuse args)
    else pure (ofDelivery (← op input.value output.room))
  | args => pure (refuse args)

/-- The least room for the output of a finished image, a tag. -/
def finishRoom : Nat := 16

/-- Finish an image. -/
def imageFinish (args : ServiceArgs) (op : Nat → Step P E F K EngineDelivery) :
    Step P E F K Response := do
  match args with
  | .finish output outputLen =>
    let memory := (← get).memory
    if output.room < finishRoom ∨ !(memory.inBootloaderRam output.address output.room &&
        memory.inBootloaderRam outputLen lengthLength) then
      pure (refuse args)
    else pure (ofDelivery (← op output.room))
  | args => pure (refuse args)

/-- Check the metadata of an image, or prepare to run it from external flash. -/
def imageHeader (args : ServiceArgs) (op : Bytes → Step P E F K (Except EngineStatus Unit)) :
    Step P E F K Response := do
  match args with
  | .header header =>
    if !(← get).memory.inBootloaderRam header.address header.value.length then
      pure (refuse args)
    else pure (ofEngine (← op header.value) .nothing)
  | args => pure (refuse args)

/-- The response to what was done to the images. -/
def ofImages {α : Type} (args : ServiceArgs) (result : Except ImageError α)
    (outputs : α → ServiceOutputs) : Response :=
  match result with
  | .ok a => succeed (outputs a)
  | .error _ => refuse args

/-- What is known of the firmware in an active slot. -/
def activeInfo (args : ServiceArgs) : Step P E F K Response := do
  match args with
  | .imageInfo slot info =>
    if !(← get).memory.inCallerRam info imageInfoLength then pure (refuse args)
    else
      let result ← onImages (FirmwareImages.activeInfo slot)
      pure (ofImages args result fun active => .imageInfo (some active))
  | args => pure (refuse args)

/-- Mark the firmware in a slot, or in all of them, as valid. -/
def validate (args : ServiceArgs) : Step P E F K Response := do
  match args with
  | .slot slot =>
    let result ←
      if slot = validateAllSlots then
        let master := (← get).images.layout.masterSlot
        onImages (FirmwareImages.setState master .validAll)
      else onImages (FirmwareImages.setState slot .valid)
    pure (ofImages args result fun () => .nothing)
  | args => pure (refuse args)

/-- The state of the image in a slot. -/
def getState (args : ServiceArgs) : Step P E F K Response := do
  match args with
  | .getState slot state =>
    if !(← get).memory.inBootloaderRam state imageStateLength then pure (refuse args)
    else
      let result ← onImages (FirmwareImages.state slot)
      pure (ofImages args result fun current => .state (some current))
  | args => pure (refuse args)

/-- Move the image in a slot to another state. -/
def setState (args : ServiceArgs) : Step P E F K Response := do
  match args with
  | .setState slot state =>
    let result ← onImages (FirmwareImages.setState slot state)
    pure (ofImages args result fun () => .nothing)
  | args => pure (refuse args)

/-- Save the state of interrupts and disable them. -/
def saveIrq (args : ServiceArgs) : Step P E F K Response := do
  match args with
  | .saveIrq state =>
    if !(← get).memory.inCallerRam state.address (4 * state.room) then pure (refuse args)
    else
      let saved ← askPlatform (.saveDisableIrq state.room)
      pure (succeed (.irq saved))
  | args => pure (refuse args)

/-- Restore the state of interrupts. -/
def restoreIrq (args : ServiceArgs) : Step P E F K Response := do
  match args with
  | .restoreIrq state =>
    if !(← get).memory.inCallerRam state.address (4 * state.value.length) then pure (refuse args)
    else
      let () ← askPlatform (.restoreEnableIrq state.value)
      pure (succeed .nothing)
  | args => pure (refuse args)

/-- Read from a header of an active slot. -/
def readImage (args : ServiceArgs) : Step P E F K Response := do
  match args with
  | .read address buffer =>
    if !(← get).memory.inBootloaderRam buffer.address buffer.room then pure (refuse args)
    else
      let result ← onImages (FirmwareImages.read address buffer.room)
      pure (ofImages args result .read)
  | args => pure (refuse args)

/-- Program a header of an active slot. -/
def writeImage (args : ServiceArgs) : Step P E F K Response := do
  match args with
  | .write address data =>
    if !(← get).memory.inBootloaderRam data.address data.value.length then pure (refuse args)
    else
      let result ← onImages (FirmwareImages.write address data.value)
      pure (ofImages args result fun () => .nothing)
  | args => pure (refuse args)

/-- Erase in a header of an active slot. -/
def eraseImage (args : ServiceArgs) : Step P E F K Response := do
  match args with
  | .erase address len =>
    let result ← onImages (FirmwareImages.erase address len)
    pure (ofImages args result fun () => .nothing)
  | args => pure (refuse args)

/-- Set the clock of the core. -/
def setClock (args : ServiceArgs) : Step P E F K Response := do
  match args with
  | .empty =>
    let () ← askPlatform .setCoreClock
    pure (succeed .nothing)
  | args => pure (refuse args)

/-- Close the restricted services until the next reset. -/
def lockRestricted (args : ServiceArgs) : Step P E F K Response := do
  match args with
  | .empty =>
    let () ← askPlatform .coreCleanup
    modify fun gate => { gate with locked := true }
    pure (ofEngine (← askPlatform .lockKeys) .nothing)
  | args => pure (refuse args)

/-- The interrupt was serviced; the system starts over. -/
def exitInterrupt : Step P E F K Response := do
  modify fun gate => { gate with inInterrupt := false }
  let () ← askPlatform .exitInterrupt
  reset

/-- Serve a service word that carries no request. -/
def serve (service : UInt32) (args : ServiceArgs) : Step P E F K Response := do
  match Numbered.ofWord? service with
  | none => reset
  | some id =>
    checkRestricted id
    match id with
    | .init => setClock args
    | .llDecryptInit => imageInit args fun header kind => askEngine (.decryptInit header kind)
    | .llAuthenticateFwInit =>
      imageInit args fun header kind => askEngine (.authenticateInit header kind)
    | .llDecryptAppend => imageAppend args fun input room => askEngine (.decryptAppend input room)
    | .llAuthenticateFwAppend =>
      imageAppend args fun input room => askEngine (.authenticateAppend input room)
    | .llDecryptFinish => imageFinish args fun room => askEngine (.decryptFinish room)
    | .llAuthenticateFwFinish => imageFinish args fun room => askEngine (.authenticateFinish room)
    | .hlAuthenticateMetadata =>
      imageHeader args fun header => askEngine (.authenticateMetadata header)
    | .extFlashDecryptInit =>
      imageHeader args fun header => askEngine (.extFlashDecryptInit header)
    | .appGetActiveFwInfo => activeInfo args
    | .appValidateFw => validate args
    | .appGetFwState => getState args
    | .imgGetFwState => getState args
    | .imgSetFwState => setState args
    | .sysSaveDisableIrq => saveIrq args
    | .sysRestoreEnableIrq => restoreIrq args
    | .imgRead => readImage args
    | .imgWrite => writeImage args
    | .imgErase => eraseImage args
    | .lockRestrictServices => lockRestricted args
    | .exitInterrupt => exitInterrupt

-- ═══════════════════════════════════════════════════════════════════════════
-- Calls
-- ═══════════════════════════════════════════════════════════════════════════

/-- Run a service on the enclave's vector table. -/
def runService (service : UInt32) (args : ServiceArgs) : Step P E F K Response := do
  let gate ← get
  let callerTable := Platform.vectorTable gate.platform
  let () ← askPlatform (.setVectorTable (Platform.enclaveVectorTable gate.platform))
  let response ← if isKmsService service then forward service args else serve service args
  let () ← askPlatform (.setVectorTable callerTable)
  pure response.explained

/-- Run a service, unless an interrupt is being serviced; then only its end is accepted, and only
from a handler. -/
def guarded (service : UInt32) (args : ServiceArgs) : Step P E F K Response := do
  let gate ← get
  if service = ServiceId.exitInterrupt.word then
    if !gate.inInterrupt then pure ⟨.error, .engine .ok, args.untouched⟩
    else if !Platform.inHandlerMode gate.platform then
      pure ⟨.success, .engine .busy, args.untouched⟩
    else runService service args
  else if gate.inInterrupt then pure ⟨.success, .engine .busy, args.untouched⟩
  else runService service args

/-- A call from `caller` with the status word at `status`. -/
def call (caller status : Address) (primask : UInt32) (service : UInt32) (args : ServiceArgs) :
    Step P E F K Response := do
  let () ← askPlatform .enterProtectedArea
  checkCaller caller status
  let response ← guarded service args
  let () ← askPlatform (.exitProtectedArea primask)
  pure response

end CallGate

end KeyEnclave
