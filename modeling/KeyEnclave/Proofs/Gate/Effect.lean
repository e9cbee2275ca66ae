import KeyEnclave.Proofs.Action.Ends
import KeyEnclave.Proofs.Gate.Memory

/-!
# What a service call may do

Every service is followed through its checks to the one thing it does: an exchange with the engine or
the core, work on the firmware images, a request for key management, or nothing but an answer.

## Main definitions

* `GateCall` — a call with the address it comes from.
* `CallGate.Feeds`, `CallGate.Works`, `CallGate.Commands` — which service hands what to the engine,
  does what to the images, asks what of the core.
* `CallGate.Effect` — what a service leaves behind, with the checks that were passed before.

## Main results

* `CallGate.serviceOf_effect` — every service has one of the effects.
* `CallGate.call_effect` — a call is refused, or is a service between the bookkeeping of a call.
-/

namespace KeyEnclave

open KeyEnclave.Action

/-- A call of the gate. -/
structure GateCall where
  /-- The address of the code that calls. -/
  caller : Address
  /-- The address of the status word. -/
  status : Address
  primask : UInt32
  service : UInt32
  args : ServiceArgs

/-- The response to a reply of the engine. -/
def EngineOp.response : (op : EngineOp) → op.Reply → Response
  | .decryptInit .., reply => CallGate.ofEngine reply .nothing
  | .authenticateInit .., reply => CallGate.ofEngine reply .nothing
  | .authenticateMetadata _, reply => CallGate.ofEngine reply .nothing
  | .extFlashDecryptInit _, reply => CallGate.ofEngine reply .nothing
  | .decryptAppend .., reply => CallGate.ofDelivery reply
  | .decryptFinish _, reply => CallGate.ofDelivery reply
  | .authenticateAppend .., reply => CallGate.ofDelivery reply
  | .authenticateFinish _, reply => CallGate.ofDelivery reply

namespace CallGate

/-- A service hands what it was called with to the engine. -/
inductive Feeds : ServiceId → ServiceArgs → EngineOp → Prop
  | decryptInit (header : Placed Bytes) (kind : ImageKind) :
      Feeds .llDecryptInit (.imageHeader header kind) (.decryptInit header.value kind)
  | authenticateInit (header : Placed Bytes) (kind : ImageKind) :
      Feeds .llAuthenticateFwInit (.imageHeader header kind) (.authenticateInit header.value kind)
  | decryptAppend (input : Placed Bytes) (output : Buffer) (outputLen : Address) :
      Feeds .llDecryptAppend (.append input output outputLen)
        (.decryptAppend input.value output.room)
  | authenticateAppend (input : Placed Bytes) (output : Buffer) (outputLen : Address) :
      Feeds .llAuthenticateFwAppend (.append input output outputLen)
        (.authenticateAppend input.value output.room)
  | decryptFinish (output : Buffer) (outputLen : Address) :
      Feeds .llDecryptFinish (.finish output outputLen) (.decryptFinish output.room)
  | authenticateFinish (output : Buffer) (outputLen : Address) :
      Feeds .llAuthenticateFwFinish (.finish output outputLen) (.authenticateFinish output.room)
  | authenticateMetadata (header : Placed Bytes) :
      Feeds .hlAuthenticateMetadata (.header header) (.authenticateMetadata header.value)
  | extFlashDecryptInit (header : Placed Bytes) :
      Feeds .extFlashDecryptInit (.header header) (.extFlashDecryptInit header.value)

/-- A service does something to the images and reports what came of it. -/
inductive Works {F : Type} [Flash F] (layout : ImageLayout) :
    ServiceId → ServiceArgs → (α : Type) → FirmwareImages.Step F α → (α → ServiceOutputs) → Prop
  | activeInfo (slot : UInt32) (info : Address) :
      Works layout .appGetActiveFwInfo (.imageInfo slot info) ActiveImageInfo
        (FirmwareImages.activeInfo slot) fun active => .imageInfo (some active)
  | validate (slot : UInt32) (h : slot ≠ validateAllSlots) :
      Works layout .appValidateFw (.slot slot) Unit (FirmwareImages.setState slot .valid)
        fun _ => .nothing
  | validateAll :
      Works layout .appValidateFw (.slot validateAllSlots) Unit
        (FirmwareImages.setState layout.masterSlot .validAll) fun _ => .nothing
  | appState (slot : UInt32) (state : Address) :
      Works layout .appGetFwState (.getState slot state) ImageState (FirmwareImages.state slot)
        fun current => .state (some current)
  | imageState (slot : UInt32) (state : Address) :
      Works layout .imgGetFwState (.getState slot state) ImageState (FirmwareImages.state slot)
        fun current => .state (some current)
  | setState (slot : UInt32) (state : ImageState) :
      Works layout .imgSetFwState (.setState slot state) Unit (FirmwareImages.setState slot state)
        fun _ => .nothing
  | read (address : Address) (buffer : Buffer) :
      Works layout .imgRead (.read address buffer) Bytes (FirmwareImages.read address buffer.room)
        .read
  | write (address : Address) (data : Placed Bytes) :
      Works layout .imgWrite (.write address data) Unit (FirmwareImages.write address data.value)
        fun _ => .nothing
  | erase (address : Address) (len : Nat) :
      Works layout .imgErase (.erase address len) Unit (FirmwareImages.erase address len)
        fun _ => .nothing

/-- A service asks the core for something and reports its reply. -/
inductive Commands :
    ServiceId → ServiceArgs → (op : PlatformOp) → (op.Reply → ServiceOutputs) → Prop
  | setClock : Commands .init .empty .setCoreClock fun _ => .nothing
  | saveIrq (state : Buffer) :
      Commands .sysSaveDisableIrq (.saveIrq state) (.saveDisableIrq state.room) .irq
  | restoreIrq (state : Placed (List UInt32)) :
      Commands .sysRestoreEnableIrq (.restoreIrq state) (.restoreEnableIrq state.value)
        fun _ => .nothing

/-- A service word carries no request, and stands for a service that is not closed. -/
structure Opens {P E F K : Type} (gate : CallGate P E F K) (service : UInt32) (id : ServiceId) :
    Prop where
  notKms : isKmsService service = false
  word : Numbered.ofWord? service = some id
  unlocked : id.isRestricted = true → gate.locked = false

variable {P E F K : Type}

-- ═══════════════════════════════════════════════════════════════════════════
-- Exchanges
-- ═══════════════════════════════════════════════════════════════════════════

section Core

variable [Platform P]

/-- What the core replies to an operation. -/
def platformReply (gate : CallGate P E F K) (op : PlatformOp) : op.Reply :=
  (Platform.serve op gate.platform).1

def platformEvent (gate : CallGate P E F K) (op : PlatformOp) : GateEvent :=
  .platform ⟨op, gate.platformReply op⟩

/-- The gate after the core served an operation. -/
def afterPlatform (gate : CallGate P E F K) (op : PlatformOp) : CallGate P E F K :=
  { gate with platform := (Platform.serve op gate.platform).2 }

/-- What is left behind by a reset. -/
def resetting {α : Type} (gate : CallGate P E F K) :
    Outcome (CallGate P E F K) GateEvent SystemReset α :=
  ⟨.error .reset, gate.afterPlatform .reset, [gate.platformEvent .reset]⟩

/-- The gate when the restricted services were closed, before their keys are locked. -/
def closed (gate : CallGate P E F K) : CallGate P E F K :=
  { gate.afterPlatform .coreCleanup with locked := true }

/-- The gate when an interrupt was serviced, before the core leaves it. -/
def interruptServed (gate : CallGate P E F K) : CallGate P E F K :=
  { gate with inInterrupt := false }

variable {gate : CallGate P E F K} {α : Type}
  {post : Outcome (CallGate P E F K) GateEvent SystemReset α → Prop}

theorem bind_askPlatform {op : PlatformOp} {next : op.Reply → Step P E F K α}
    (h : (next (gate.platformReply op)).Ends (gate.afterPlatform op) fun rest =>
      post (rest.after [gate.platformEvent op])) :
    (askPlatform op >>= next).Ends gate post :=
  Ends.bind_run rfl h

end Core

variable [Platform P] [EngineServices E] [Flash F] [KmsEntry K]

/-- What the engine replies to an operation. -/
def engineReply (gate : CallGate P E F K) (op : EngineOp) : op.Reply :=
  (EngineServices.serve op gate.engine).1

def engineEvent (gate : CallGate P E F K) (op : EngineOp) : GateEvent :=
  .engine ⟨op, gate.engineReply op⟩

/-- The gate after the engine served an operation. -/
def afterEngine (gate : CallGate P E F K) (op : EngineOp) : CallGate P E F K :=
  { gate with engine := (EngineServices.serve op gate.engine).2 }

/-- The response to a request that key management answered. -/
def forwardedResponse (answer : Answer) : Response :=
  ⟨if answer.code = .ok then .success else .error, .kms answer.code, .kms answer.outputs⟩

/-- What is left behind when a request is dispatched. -/
def forwarded (gate : CallGate P E F K) (service : UInt32) (request : Request) :
    Outcome (CallGate P E F K) GateEvent SystemReset Response :=
  let served := KmsEntry.dispatch gate.kms (forwardedWord service) request
  ⟨.ok (forwardedResponse served.1), { gate with kms := served.2.1 },
    [.kms (forwardedWord service) request served.2.2]⟩

/-- What is left behind when something was done to the images. -/
def imaged {α : Type} (gate : CallGate P E F K) (args : ServiceArgs)
    (step : FirmwareImages.Step F α) (outputs : α → ServiceOutputs) :
    Outcome (CallGate P E F K) GateEvent SystemReset Response :=
  let outcome := step.run gate.images
  ⟨.ok (ofImages args outcome.answer outputs), { gate with images := outcome.state },
    outcome.journal.map .flash⟩

/-- What a service leaves behind. -/
inductive Effect (gate : CallGate P E F K) (service : UInt32) (args : ServiceArgs) :
    Outcome (CallGate P E F K) GateEvent SystemReset Response → Prop
  /-- The system is reset before anything else happens. -/
  | reset : Effect gate service args gate.resetting
  /-- The arguments are not those of the service, or their memory is not accepted. -/
  | refused (h : (isKmsService service = true ∧ ∀ request, args ≠ .kms request) ∨
        ∃ id, gate.Opens service id) :
      Effect gate service args ⟨.ok (refuse args), gate, []⟩
  /-- A request is dispatched to key management. -/
  | forwarded {request : Request} (hargs : args = .kms request)
      (hservice : isKmsService service = true)
      (hmemory : ∀ span ∈ request.spans, mayForward gate.memory span = true) :
      Effect gate service args (gate.forwarded service request)
  /-- The engine is asked for something. -/
  | engaged {id : ServiceId} {op : EngineOp} (hopens : gate.Opens service id)
      (hfeeds : Feeds id args op) (hmemory : args.Admissible gate.memory) :
      Effect gate service args
        ⟨.ok (op.response (gate.engineReply op)), gate.afterEngine op, [gate.engineEvent op]⟩
  /-- Something is done to the images. -/
  | imaged {id : ServiceId} {α : Type} {step : FirmwareImages.Step F α}
      {outputs : α → ServiceOutputs} (hopens : gate.Opens service id)
      (hworks : Works gate.images.layout id args α step outputs)
      (hmemory : args.Admissible gate.memory) :
      Effect gate service args (gate.imaged args step outputs)
  /-- The core is asked for something. -/
  | commanded {id : ServiceId} {op : PlatformOp} {outputs : op.Reply → ServiceOutputs}
      (hopens : gate.Opens service id) (hcommands : Commands id args op outputs)
      (hmemory : args.Admissible gate.memory) :
      Effect gate service args
        ⟨.ok (succeed (outputs (gate.platformReply op))), gate.afterPlatform op,
          [gate.platformEvent op]⟩
  /-- The restricted services are closed. -/
  | locked (hargs : args = .empty) (hopens : gate.Opens service .lockRestrictServices) :
      Effect gate service args
        ⟨.ok (ofEngine (gate.closed.platformReply .lockKeys) .nothing),
          gate.closed.afterPlatform .lockKeys,
          [gate.platformEvent .coreCleanup, gate.closed.platformEvent .lockKeys]⟩
  /-- An interrupt was serviced. -/
  | interruptEnded (hopens : gate.Opens service .exitInterrupt) :
      Effect gate service args
        ((gate.interruptServed.afterPlatform .exitInterrupt).resetting.after
          [gate.interruptServed.platformEvent .exitInterrupt])

-- ═══════════════════════════════════════════════════════════════════════════
-- Services
-- ═══════════════════════════════════════════════════════════════════════════

section Services

variable {gate : CallGate P E F K} {service : UInt32} {id : ServiceId} {args : ServiceArgs}

theorem forward_effect (hservice : isKmsService service = true) :
    (forward service args).Ends gate (gate.Effect service args) := by
  cases args with
  | kms request =>
    refine Ends.bind_get (Ends.ite (fun _ => .reset) fun hspans => ?_)
    refine Ends.bind_run rfl (Ends.pure (.forwarded rfl hservice ?_))
    simpa using hspans
  | _ => exact Ends.pure (.refused (.inl ⟨hservice, fun _ h => by cases h⟩))

omit [EngineServices E] [Flash F] in
/-- A request whose memory may be handed over is dispatched. -/
theorem forward_run {request : Request}
    (hmemory : ∀ span ∈ request.spans, mayForward gate.memory span = true) :
    (forward service (.kms request)).run gate = gate.forwarded service request := by
  have hspans : request.spans.all (mayForward gate.memory) = true := List.all_eq_true.mpr hmemory
  show (forward service (.kms request)).Ends gate (· = gate.forwarded service request)
  refine Ends.bind_get (Ends.ite (fun hrefused => ?_) fun _ => ?_)
  · rw [hspans] at hrefused
    cases hrefused
  · exact Ends.bind_run rfl (Ends.pure rfl)

/-- A step is one exchange with the engine, and its answer makes the response. -/
def Engages {α : Type} (gate : CallGate P E F K) (op : EngineOp) (step : Step P E F K α)
    (respond : α → Response) : Prop :=
  ∃ a, step.run gate = ⟨.ok a, gate.afterEngine op, [gate.engineEvent op]⟩ ∧
    respond a = op.response (gate.engineReply op)

theorem Engages.effect {α : Type} {op : EngineOp} {step : Step P E F K α} {respond : α → Response}
    (h : gate.Engages op step respond) (hopens : gate.Opens service id) (hfeeds : Feeds id args op)
    (hmemory : args.Admissible gate.memory) :
    (step >>= fun a => (pure (respond a) : Step P E F K Response)).Ends gate
      (gate.Effect service args) := by
  obtain ⟨a, hrun, hrespond⟩ := h
  refine Ends.bind_run hrun (Ends.pure ?_)
  rw [hrespond]
  exact .engaged hopens hfeeds hmemory

theorem imageInit_effect {op : Bytes → ImageKind → Step P E F K (Except EngineStatus Unit)}
    (hopens : gate.Opens service id)
    (hop : ∀ header kind, ∃ asked, Feeds id (.imageHeader header kind) asked ∧
      gate.Engages asked (op header.value kind) fun result => ofEngine result .nothing) :
    (imageInit args op).Ends gate (gate.Effect service args) := by
  cases args with
  | imageHeader header kind =>
    obtain ⟨asked, hfeeds, hengages⟩ := hop header kind
    refine Ends.bind_get (Ends.ite (fun _ => Ends.pure (.refused (.inr ⟨id, hopens⟩))) fun h => ?_)
    refine hengages.effect hopens hfeeds
      (ServiceArgs.admissible_of_inBootloaderRam rfl fun span hspan => ?_)
    rw [List.mem_singleton.mp hspan]
    exact Bool.not_not_eq.mp h
  | _ => exact Ends.pure (.refused (.inr ⟨id, hopens⟩))

theorem imageAppend_effect {op : Bytes → Nat → Step P E F K EngineDelivery}
    (hopens : gate.Opens service id)
    (hop : ∀ input output outputLen, ∃ asked, Feeds id (.append input output outputLen) asked ∧
      gate.Engages asked (op input.value output.room) ofDelivery) :
    (imageAppend args op).Ends gate (gate.Effect service args) := by
  cases args with
  | append input output outputLen =>
    obtain ⟨asked, hfeeds, hengages⟩ := hop input output outputLen
    refine Ends.bind_get (Ends.ite (fun _ => Ends.pure (.refused (.inr ⟨id, hopens⟩))) fun h => ?_)
    refine hengages.effect hopens hfeeds
      (ServiceArgs.admissible_of_inBootloaderRam rfl fun span hspan => ?_)
    simp only [not_or, Bool.not_eq_true', Bool.not_eq_false, Bool.and_eq_true] at h
    simp only [ServiceArgs.spans, List.mem_cons, List.not_mem_nil, or_false] at hspan
    rcases hspan with rfl | rfl | rfl
    · exact h.2.1.1
    · exact h.2.1.2
    · exact h.2.2
  | _ => exact Ends.pure (.refused (.inr ⟨id, hopens⟩))

theorem imageFinish_effect {op : Nat → Step P E F K EngineDelivery}
    (hopens : gate.Opens service id)
    (hop : ∀ output outputLen, ∃ asked, Feeds id (.finish output outputLen) asked ∧
      gate.Engages asked (op output.room) ofDelivery) :
    (imageFinish args op).Ends gate (gate.Effect service args) := by
  cases args with
  | finish output outputLen =>
    obtain ⟨asked, hfeeds, hengages⟩ := hop output outputLen
    refine Ends.bind_get (Ends.ite (fun _ => Ends.pure (.refused (.inr ⟨id, hopens⟩))) fun h => ?_)
    refine hengages.effect hopens hfeeds
      (ServiceArgs.admissible_of_inBootloaderRam rfl fun span hspan => ?_)
    simp only [not_or, Bool.not_eq_true', Bool.not_eq_false, Bool.and_eq_true] at h
    simp only [ServiceArgs.spans, List.mem_cons, List.not_mem_nil, or_false] at hspan
    rcases hspan with rfl | rfl
    · exact h.2.1
    · exact h.2.2
  | _ => exact Ends.pure (.refused (.inr ⟨id, hopens⟩))

theorem imageHeader_effect {op : Bytes → Step P E F K (Except EngineStatus Unit)}
    (hopens : gate.Opens service id)
    (hop : ∀ header, ∃ asked, Feeds id (.header header) asked ∧
      gate.Engages asked (op header.value) fun result => ofEngine result .nothing) :
    (imageHeader args op).Ends gate (gate.Effect service args) := by
  cases args with
  | header header =>
    obtain ⟨asked, hfeeds, hengages⟩ := hop header
    refine Ends.bind_get (Ends.ite (fun _ => Ends.pure (.refused (.inr ⟨id, hopens⟩))) fun h => ?_)
    refine hengages.effect hopens hfeeds
      (ServiceArgs.admissible_of_inBootloaderRam rfl fun span hspan => ?_)
    rw [List.mem_singleton.mp hspan]
    exact Bool.not_not_eq.mp h
  | _ => exact Ends.pure (.refused (.inr ⟨id, hopens⟩))

/-- Work on the images, after the checks. -/
theorem work_effect {α : Type} {step : FirmwareImages.Step F α} {outputs : α → ServiceOutputs}
    (hopens : gate.Opens service id) (hworks : Works gate.images.layout id args α step outputs)
    (hmemory : args.Admissible gate.memory) :
    (onImages step >>= fun result =>
      (pure (ofImages args result outputs) : Step P E F K Response)).Ends gate
        (gate.Effect service args) := by
  refine Ends.bind_run rfl (Ends.pure ?_)
  show gate.Effect service args ⟨_, _, _ ++ []⟩
  rw [List.append_nil]
  exact .imaged hopens hworks hmemory

theorem activeInfo_effect (hopens : gate.Opens service .appGetActiveFwInfo) :
    (activeInfo args).Ends gate (gate.Effect service args) := by
  cases args with
  | imageInfo slot info =>
    refine Ends.bind_get (Ends.ite (fun _ => Ends.pure (.refused (.inr ⟨_, hopens⟩))) fun h => ?_)
    refine work_effect hopens (.activeInfo slot info) ?_
    exact ServiceArgs.admissible_of_inCallerRam rfl rfl (Bool.not_not_eq.mp h)
  | _ => exact Ends.pure (.refused (.inr ⟨_, hopens⟩))

theorem validate_effect (hopens : gate.Opens service .appValidateFw) :
    (validate args).Ends gate (gate.Effect service args) := by
  cases args with
  | slot slot =>
    refine Ends.ite (fun h => ?_) fun h => ?_
    · subst h
      exact Ends.bind_get (work_effect hopens .validateAll (ServiceArgs.admissible_of_nil rfl))
    · exact work_effect hopens (.validate slot h) (ServiceArgs.admissible_of_nil rfl)
  | _ => exact Ends.pure (.refused (.inr ⟨_, hopens⟩))

theorem getState_effect (hopens : gate.Opens service id)
    (hid : id = .appGetFwState ∨ id = .imgGetFwState) :
    (getState args).Ends gate (gate.Effect service args) := by
  cases args with
  | getState slot state =>
    refine Ends.bind_get (Ends.ite (fun _ => Ends.pure (.refused (.inr ⟨_, hopens⟩))) fun h => ?_)
    have hmemory : ServiceArgs.Admissible (.getState slot state) gate.memory := by
      refine ServiceArgs.admissible_of_inBootloaderRam rfl fun span hspan => ?_
      rw [List.mem_singleton.mp hspan]
      exact Bool.not_not_eq.mp h
    rcases hid with rfl | rfl
    · exact work_effect hopens (.appState slot state) hmemory
    · exact work_effect hopens (.imageState slot state) hmemory
  | _ => exact Ends.pure (.refused (.inr ⟨_, hopens⟩))

theorem setState_effect (hopens : gate.Opens service .imgSetFwState) :
    (setState args).Ends gate (gate.Effect service args) := by
  cases args with
  | setState slot state =>
    exact work_effect hopens (.setState slot state) (ServiceArgs.admissible_of_nil rfl)
  | _ => exact Ends.pure (.refused (.inr ⟨_, hopens⟩))

theorem readImage_effect (hopens : gate.Opens service .imgRead) :
    (readImage args).Ends gate (gate.Effect service args) := by
  cases args with
  | read address buffer =>
    refine Ends.bind_get (Ends.ite (fun _ => Ends.pure (.refused (.inr ⟨_, hopens⟩))) fun h => ?_)
    refine work_effect hopens (.read address buffer)
      (ServiceArgs.admissible_of_inBootloaderRam rfl fun span hspan => ?_)
    rw [List.mem_singleton.mp hspan]
    exact Bool.not_not_eq.mp h
  | _ => exact Ends.pure (.refused (.inr ⟨_, hopens⟩))

theorem writeImage_effect (hopens : gate.Opens service .imgWrite) :
    (writeImage args).Ends gate (gate.Effect service args) := by
  cases args with
  | write address data =>
    refine Ends.bind_get (Ends.ite (fun _ => Ends.pure (.refused (.inr ⟨_, hopens⟩))) fun h => ?_)
    refine work_effect hopens (.write address data)
      (ServiceArgs.admissible_of_inBootloaderRam rfl fun span hspan => ?_)
    rw [List.mem_singleton.mp hspan]
    exact Bool.not_not_eq.mp h
  | _ => exact Ends.pure (.refused (.inr ⟨_, hopens⟩))

theorem eraseImage_effect (hopens : gate.Opens service .imgErase) :
    (eraseImage args).Ends gate (gate.Effect service args) := by
  cases args with
  | erase address len =>
    exact work_effect hopens (.erase address len) (ServiceArgs.admissible_of_nil rfl)
  | _ => exact Ends.pure (.refused (.inr ⟨_, hopens⟩))

theorem setClock_effect (hopens : gate.Opens service .init) :
    (setClock args).Ends gate (gate.Effect service args) := by
  cases args with
  | empty =>
    refine bind_askPlatform (Ends.pure (.commanded hopens .setClock ?_))
    exact ServiceArgs.admissible_of_nil rfl
  | _ => exact Ends.pure (.refused (.inr ⟨_, hopens⟩))

theorem saveIrq_effect (hopens : gate.Opens service .sysSaveDisableIrq) :
    (saveIrq args).Ends gate (gate.Effect service args) := by
  cases args with
  | saveIrq state =>
    refine Ends.bind_get (Ends.ite (fun _ => Ends.pure (.refused (.inr ⟨_, hopens⟩))) fun h => ?_)
    refine bind_askPlatform (Ends.pure (.commanded hopens (.saveIrq state) ?_))
    exact ServiceArgs.admissible_of_inCallerRam rfl rfl (Bool.not_not_eq.mp h)
  | _ => exact Ends.pure (.refused (.inr ⟨_, hopens⟩))

theorem restoreIrq_effect (hopens : gate.Opens service .sysRestoreEnableIrq) :
    (restoreIrq args).Ends gate (gate.Effect service args) := by
  cases args with
  | restoreIrq state =>
    refine Ends.bind_get (Ends.ite (fun _ => Ends.pure (.refused (.inr ⟨_, hopens⟩))) fun h => ?_)
    refine bind_askPlatform (Ends.pure (.commanded hopens (.restoreIrq state) ?_))
    exact ServiceArgs.admissible_of_inCallerRam rfl rfl (Bool.not_not_eq.mp h)
  | _ => exact Ends.pure (.refused (.inr ⟨_, hopens⟩))

theorem lockRestricted_effect (hopens : gate.Opens service .lockRestrictServices) :
    (lockRestricted args).Ends gate (gate.Effect service args) := by
  cases args with
  | empty =>
    refine bind_askPlatform (Ends.bind_modify (bind_askPlatform (Ends.pure ?_)))
    exact .locked rfl hopens
  | _ => exact Ends.pure (.refused (.inr ⟨_, hopens⟩))

theorem exitInterrupt_effect (hopens : gate.Opens service .exitInterrupt) :
    exitInterrupt.Ends gate (gate.Effect service args) :=
  Ends.bind_modify (bind_askPlatform (.interruptEnded hopens))

theorem serve_effect (hservice : isKmsService service = false) :
    (serve service args).Ends gate (gate.Effect service args) := by
  unfold serve
  cases hword : (Numbered.ofWord? service : Option ServiceId) with
  | none => exact .reset
  | some id =>
    refine Ends.bind (Ends.bind_get (Ends.ite (fun _ => .reset) fun hlocked => Ends.pure ?_))
    have hopens : gate.Opens service id := by
      refine ⟨hservice, hword, fun hrestricted => ?_⟩
      simpa [hrestricted] using hlocked
    cases id with
    | init => exact setClock_effect hopens
    | llDecryptInit =>
      exact imageInit_effect hopens fun h k => ⟨_, .decryptInit h k, _, rfl, rfl⟩
    | llAuthenticateFwInit =>
      exact imageInit_effect hopens fun h k => ⟨_, .authenticateInit h k, _, rfl, rfl⟩
    | llDecryptAppend =>
      exact imageAppend_effect hopens fun i o l => ⟨_, .decryptAppend i o l, _, rfl, rfl⟩
    | llAuthenticateFwAppend =>
      exact imageAppend_effect hopens fun i o l => ⟨_, .authenticateAppend i o l, _, rfl, rfl⟩
    | llDecryptFinish =>
      exact imageFinish_effect hopens fun o l => ⟨_, .decryptFinish o l, _, rfl, rfl⟩
    | llAuthenticateFwFinish =>
      exact imageFinish_effect hopens fun o l => ⟨_, .authenticateFinish o l, _, rfl, rfl⟩
    | hlAuthenticateMetadata =>
      exact imageHeader_effect hopens fun h => ⟨_, .authenticateMetadata h, _, rfl, rfl⟩
    | extFlashDecryptInit =>
      exact imageHeader_effect hopens fun h => ⟨_, .extFlashDecryptInit h, _, rfl, rfl⟩
    | appGetActiveFwInfo => exact activeInfo_effect hopens
    | appValidateFw => exact validate_effect hopens
    | appGetFwState => exact getState_effect hopens (.inl rfl)
    | imgGetFwState => exact getState_effect hopens (.inr rfl)
    | imgSetFwState => exact setState_effect hopens
    | sysSaveDisableIrq => exact saveIrq_effect hopens
    | sysRestoreEnableIrq => exact restoreIrq_effect hopens
    | imgRead => exact readImage_effect hopens
    | imgWrite => exact writeImage_effect hopens
    | imgErase => exact eraseImage_effect hopens
    | lockRestrictServices => exact lockRestricted_effect hopens
    | exitInterrupt => exact exitInterrupt_effect hopens

/-- The service that a word stands for. -/
def serviceOf (service : UInt32) (args : ServiceArgs) : Step P E F K Response :=
  if isKmsService service then forward service args else serve service args

theorem serviceOf_effect : (serviceOf service args).Ends gate (gate.Effect service args) :=
  Ends.ite forward_effect fun h => serve_effect (Bool.eq_false_iff.mpr h)

/-- A service that is not open, and carries no request, resets the system. -/
theorem Effect.eq_resetting
    {outcome : Outcome (CallGate P E F K) GateEvent SystemReset Response}
    (h : gate.Effect service args outcome)
    (hkms : isKmsService service = false) (hclosed : ∀ id, ¬gate.Opens service id) :
    outcome = gate.resetting := by
  cases h with
  | reset => rfl
  | refused h =>
    rcases h with ⟨hservice, -⟩ | ⟨id, hopens⟩
    · rw [hkms] at hservice
      cases hservice
    · exact absurd hopens (hclosed id)
  | forwarded _ hservice =>
    rw [hkms] at hservice
    cases hservice
  | engaged hopens => exact absurd hopens (hclosed _)
  | imaged hopens => exact absurd hopens (hclosed _)
  | commanded hopens => exact absurd hopens (hclosed _)
  | locked _ hopens => exact absurd hopens (hclosed _)
  | interruptEnded hopens => exact absurd hopens (hclosed _)

/-- Key management is only ever asked for the request that was handed over. -/
theorem Effect.forwarded_or
    {outcome : Outcome (CallGate P E F K) GateEvent SystemReset Response}
    (h : gate.Effect service args outcome) :
    (∃ request, args = .kms request ∧
        (∀ span ∈ request.spans, mayForward gate.memory span = true) ∧
        outcome = gate.forwarded service request) ∨
      outcome.state.kms = gate.kms ∧
        ∀ word request events, .kms word request events ∉ outcome.journal := by
  cases h with
  | forwarded hargs _ hmemory => exact .inl ⟨_, hargs, hmemory, rfl⟩
  | imaged =>
    refine .inr ⟨rfl, fun word request events hmem => ?_⟩
    obtain ⟨exchange, -, heq⟩ := List.mem_map.mp hmem
    cases heq
  | reset | refused | engaged | commanded | locked | interruptEnded =>
    exact .inr ⟨rfl, by simp [resetting, platformEvent, engineEvent, Outcome.after]⟩

end Services

-- ═══════════════════════════════════════════════════════════════════════════
-- Calls
-- ═══════════════════════════════════════════════════════════════════════════

/-- What a call leaves behind. -/
def outcomeOf (gate : CallGate P E F K) (call : GateCall) :
    Outcome (CallGate P E F K) GateEvent SystemReset Response :=
  (CallGate.call call.caller call.status call.primask call.service call.args).run gate

section Frame

omit [EngineServices E] [Flash F] [KmsEntry K]

/-- A call comes from the code of the gate, with its status word in RAM that is not the enclave's. -/
def AcceptsCaller (gate : CallGate P E F K) (call : GateCall) : Prop :=
  gate.memory.interfaceRom.contains call.caller 1 = true ∧
    gate.memory.inCallerRam call.status statusLength = true

/-- The gate in protected execution. -/
def entered (gate : CallGate P E F K) : CallGate P E F K :=
  gate.afterPlatform .enterProtectedArea

/-- The operation that puts the core on the enclave's vector table. -/
def tableOp (gate : CallGate P E F K) : PlatformOp :=
  .setVectorTable (Platform.enclaveVectorTable gate.entered.platform)

/-- The gate as a service finds it. -/
def prepared (gate : CallGate P E F K) : CallGate P E F K :=
  gate.entered.afterPlatform gate.tableOp

/-- The response to a call that the servicing of an interrupt keeps from its service. -/
def interruptResponse? (gate : CallGate P E F K) (call : GateCall) : Option Response :=
  if call.service = ServiceId.exitInterrupt.word then
    if !gate.inInterrupt then some ⟨.error, .engine .ok, call.args.untouched⟩
    else if !Platform.inHandlerMode gate.entered.platform then
      some ⟨.success, .engine .busy, call.args.untouched⟩
    else none
  else if gate.inInterrupt then some ⟨.success, .engine .busy, call.args.untouched⟩
  else none

/-- What a call leaves behind whose service left `inner`. -/
def framed (gate : CallGate P E F K) (call : GateCall)
    (inner : Outcome (CallGate P E F K) GateEvent SystemReset Response) :
    Outcome (CallGate P E F K) GateEvent SystemReset Response :=
  let opening := [gate.platformEvent .enterProtectedArea, gate.entered.platformEvent gate.tableOp]
  match inner with
  | ⟨.error e, served, journal⟩ => ⟨.error e, served, opening ++ journal⟩
  | ⟨.ok response, served, journal⟩ =>
    let back := PlatformOp.setVectorTable (Platform.vectorTable gate.entered.platform)
    let leave := PlatformOp.exitProtectedArea call.primask
    ⟨.ok response.explained, (served.afterPlatform back).afterPlatform leave,
      opening ++ (journal ++
        [served.platformEvent back, (served.afterPlatform back).platformEvent leave])⟩

variable {gate : CallGate P E F K} {call : GateCall}

/-- Around its service a call has the core alone change. -/
theorem state_framed {inner : Outcome (CallGate P E F K) GateEvent SystemReset Response} :
    (gate.framed call inner).state =
      { inner.state with platform := (gate.framed call inner).state.platform } := by
  rcases inner with ⟨answer, served, journal⟩
  cases answer with
  | error e => rfl
  | ok response => rfl

/-- With no interrupt being serviced, a call is kept from its service only if it is to end one. -/
theorem interruptResponse?_of_idle (hidle : gate.inInterrupt = false)
    (hservice : call.service ≠ ServiceId.exitInterrupt.word) :
    gate.interruptResponse? call = none := by
  rw [interruptResponse?, if_neg hservice, hidle]
  rfl

theorem checkCaller_ends {post : Outcome (CallGate P E F K) GateEvent SystemReset Unit → Prop}
    (hrejected : ¬gate.AcceptsCaller call → post gate.resetting)
    (haccepted : gate.AcceptsCaller call → post ⟨.ok (), gate, []⟩) :
    (checkCaller call.caller call.status).Ends gate post := by
  refine Ends.bind_get (Ends.ite (fun hrom => ?_) fun hrom => ?_)
  · exact hrejected fun h => absurd h.1 (by simpa using hrom)
  · refine Ends.ite (fun hram => ?_) fun hram => ?_
    · exact hrejected fun h => absurd h.2 (by simpa using hram)
    · exact haccepted ⟨Bool.not_not_eq.mp hrom, Bool.not_not_eq.mp hram⟩

end Frame

/-- What the service of a call leaves behind. -/
def servedOutcome (gate : CallGate P E F K) (call : GateCall) :
    Outcome (CallGate P E F K) GateEvent SystemReset Response :=
  (serviceOf call.service call.args).run gate.prepared

theorem servedOutcome_effect (gate : CallGate P E F K) (call : GateCall) :
    gate.prepared.Effect call.service call.args (gate.servedOutcome call) :=
  serviceOf_effect

/-- What a call leaves behind, with the checks that were passed before. -/
inductive CallEffect (gate : CallGate P E F K) (call : GateCall) :
    Outcome (CallGate P E F K) GateEvent SystemReset Response → Prop
  /-- The system is reset because the call is not one of the gate's code. -/
  | rejected (hcaller : ¬gate.AcceptsCaller call) :
      CallEffect gate call
        (gate.entered.resetting.after [gate.platformEvent .enterProtectedArea])
  /-- The call is answered without its service. -/
  | answered {response : Response} (hcaller : gate.AcceptsCaller call)
      (hguard : gate.interruptResponse? call = some response) :
      CallEffect gate call
        ⟨.ok response, gate.entered.afterPlatform (.exitProtectedArea call.primask),
          [gate.platformEvent .enterProtectedArea,
            gate.entered.platformEvent (.exitProtectedArea call.primask)]⟩
  /-- The service is run. -/
  | served (hcaller : gate.AcceptsCaller call) (hguard : gate.interruptResponse? call = none) :
      CallEffect gate call (gate.framed call (gate.servedOutcome call))

section Calls

variable {gate : CallGate P E F K} {call : GateCall}

/-- The service of a call, on the enclave's vector table. -/
theorem runService_ends {post : Outcome (CallGate P E F K) GateEvent SystemReset Response → Prop}
    (hreset : ∀ e served journal, gate.servedOutcome call = ⟨.error e, served, journal⟩ →
      post ⟨.error e, served, gate.entered.platformEvent gate.tableOp :: journal⟩)
    (hserved : ∀ response served journal,
      gate.servedOutcome call = ⟨.ok response, served, journal⟩ →
      let back := PlatformOp.setVectorTable (Platform.vectorTable gate.entered.platform)
      post ⟨.ok response.explained, served.afterPlatform back,
        gate.entered.platformEvent gate.tableOp :: (journal ++ [served.platformEvent back])⟩) :
    (runService call.service call.args).Ends gate.entered post := by
  refine Ends.bind_get (bind_askPlatform ?_)
  have hservice (step : Step P E F K Response)
      (hstep : serviceOf call.service call.args = step) :
      (step >>= fun response => do
        let () ← askPlatform (.setVectorTable (Platform.vectorTable gate.entered.platform))
        pure response.explained).Ends gate.prepared fun rest =>
          post (rest.after [gate.entered.platformEvent gate.tableOp]) := by
    subst hstep
    have hrun : (serviceOf call.service call.args).run gate.prepared = gate.servedOutcome call := rfl
    refine Ends.bind (Ends.of_run hrun ?_)
    generalize houtcome : gate.servedOutcome call = outcome
    rcases outcome with ⟨answer, served, journal⟩
    cases answer with
    | error e => exact hreset e served journal houtcome
    | ok response => exact bind_askPlatform (Ends.pure (hserved response served journal houtcome))
  refine Ends.ite (fun h => ?_) fun h => ?_
  · exact hservice _ (if_pos h)
  · exact hservice _ (if_neg h)

/-- What the state of interrupts lets through is served, and everything else answered at once. -/
theorem guarded_ends {post : Outcome (CallGate P E F K) GateEvent SystemReset Response → Prop}
    (hanswered : ∀ response, gate.interruptResponse? call = some response →
      post ⟨.ok response, gate.entered, []⟩)
    (hserved : gate.interruptResponse? call = none →
      (runService call.service call.args).Ends gate.entered post) :
    (guarded call.service call.args).Ends gate.entered post := by
  unfold interruptResponse? at hanswered hserved
  refine Ends.bind_get (Ends.ite (fun hexit => ?_) fun hexit => ?_)
  · simp only [if_pos hexit] at hanswered hserved
    refine Ends.ite (fun hidle => ?_) fun hbusy => ?_
    · exact Ends.pure (hanswered _ (if_pos hidle))
    · simp only [entered, afterPlatform] at hbusy
      simp only [hbusy] at hanswered hserved
      refine Ends.ite (fun hthread => ?_) fun hhandler => ?_
      · exact Ends.pure (hanswered _ (if_pos hthread))
      · exact hserved (if_neg hhandler)
  · simp only [if_neg hexit] at hanswered hserved
    refine Ends.ite (fun hbusy => ?_) fun hidle => ?_
    · exact Ends.pure (hanswered _ (if_pos hbusy))
    · exact hserved (if_neg hidle)

/-- Every call has one of the effects. -/
theorem call_effect (gate : CallGate P E F K) (call : GateCall) :
    gate.CallEffect call (gate.outcomeOf call) := by
  show (CallGate.call call.caller call.status call.primask call.service call.args).Ends gate
    (gate.CallEffect call)
  refine bind_askPlatform (Ends.bind (checkCaller_ends (fun hcaller => ?_) fun hcaller => ?_))
  · exact .rejected hcaller
  refine Ends.bind (guarded_ends (fun response hguard => ?_) fun hguard => ?_)
  · exact bind_askPlatform (Ends.pure (.answered hcaller hguard))
  have hframed : gate.CallEffect call _ := .served hcaller hguard
  refine runService_ends (fun e served journal houtcome => ?_)
    fun response served journal houtcome => ?_
  · rw [houtcome] at hframed
    exact hframed
  · rw [houtcome] at hframed
    refine bind_askPlatform (Ends.pure ?_)
    simpa [framed, Outcome.after] using hframed

theorem outcomeOf_eq_framed (hcaller : gate.AcceptsCaller call)
    (hguard : gate.interruptResponse? call = none) :
    gate.outcomeOf call = gate.framed call (gate.servedOutcome call) := by
  have heffect := gate.call_effect call
  generalize gate.outcomeOf call = outcome at heffect
  cases heffect with
  | rejected hrejected => exact absurd hcaller hrejected
  | answered _ hanswered =>
    rw [hguard] at hanswered
    cases hanswered
  | served => rfl

end Calls

end CallGate

end KeyEnclave
