import KeyEnclave.Proofs.Firmware.Lifecycle
import KeyEnclave.Proofs.Gate.Isolation
import KeyEnclave.Proofs.Kms.Run
import KeyEnclave.Simulation.Machine
import KeyEnclave.Simulation.Storage

/-!
# After the restricted services were closed

Once the restricted services are closed they stay closed, whatever is called. What is left of the
access to firmware is the validation of images, so the state of an image can only become a valid one.

## Main definitions

* `FirmwareImages.OnlyValidates` — what may have become of the images.
* `CallGate.StaysClosed` — what a call leaves of a gate whose restricted services are closed.
* `CallGate.Runs` — calls and interrupts in a row, as long as there is no reset.

## Main results

* `CallGate.outcomeOf_staysClosed` — every call keeps the gate closed.
* `CallGate.restricted_services_stay_closed` — so does every run that follows the lock.
-/

namespace KeyEnclave

open KeyEnclave.Action

-- ═══════════════════════════════════════════════════════════════════════════
-- The images
-- ═══════════════════════════════════════════════════════════════════════════

/-- What may become of the image in the `i`-th slot when it can only be validated. -/
inductive ImageLayout.Validation (layout : ImageLayout) (i : Nat) (slot : SlotConfig) :
    ImageState → ImageState → Prop
  | same {state : ImageState} : Validation layout i slot state state
  | valid (hactive : slot.kind = .active) : Validation layout i slot .selfTest .valid
  | validAll (hactive : slot.kind = .active) (hmaster : i = layout.masterSlot.toNat) :
      Validation layout i slot .selfTest .validAll

theorem ImageLayout.Validation.trans {layout : ImageLayout} {i : Nat} {slot : SlotConfig}
    {state between last : ImageState} (h : layout.Validation i slot state between)
    (hrest : layout.Validation i slot between last) : layout.Validation i slot state last := by
  cases h with
  | same => exact hrest
  | valid hactive =>
    cases hrest with
    | same => exact .valid hactive
  | validAll hactive hmaster =>
    cases hrest with
    | same => exact .validAll hactive hmaster

namespace FirmwareImages

/-- Nothing happened to the images but that some were validated. -/
structure OnlyValidates {F : Type} [HonestFlash F] (before after : FirmwareImages F) : Prop where
  layout_eq : after.layout = before.layout
  outside : ∀ a, (∀ slot ∈ before.layout.slots, slot.kind = .active →
    ¬before.layout.InStateField slot a) → after.cells a = before.cells a
  states : before.layout.FieldsDisjoint → ∀ (i : Nat) (slot : SlotConfig),
    before.layout.slots[i]? = some slot →
      before.layout.Validation i slot (before.decoded slot) (after.decoded slot)

variable {F : Type} [HonestFlash F] {images between last : FirmwareImages F}

theorem OnlyValidates.refl (images : FirmwareImages F) : images.OnlyValidates images :=
  ⟨rfl, fun _ _ => rfl, fun _ _ _ _ => .same⟩

theorem OnlyValidates.trans (h : images.OnlyValidates between)
    (hrest : between.OnlyValidates last) : images.OnlyValidates last := by
  obtain ⟨hlayout, houtside, hstates⟩ := hrest
  rw [h.layout_eq] at hlayout houtside hstates
  refine ⟨hlayout, fun a ha => (houtside a ha).trans (h.outside a ha),
    fun hdisjoint i slot hslot => ?_⟩
  exact (h.states hdisjoint i slot hslot).trans (hstates hdisjoint i slot hslot)

theorem Reads.onlyValidates {α : Type}
    {outcome : Outcome (FirmwareImages F) FlashExchange ImageError α} (h : images.Reads outcome) :
    images.OnlyValidates outcome.state := by
  have hcells := h.cells_eq
  refine ⟨h.layout_eq, fun a _ => congrFun hcells a, fun _ i slot _ => ?_⟩
  rw [decoded_congr h.layout_eq fun a _ => congrFun hcells a]
  exact .same

/-- The edges to a valid state come from the same one. -/
theorem Moves.onlyValidates {number : UInt32} {requested : ImageState}
    {outcome : Outcome (FirmwareImages F) FlashExchange ImageError Unit}
    (h : images.Moves number requested outcome)
    (hrequested : requested = .valid ∨
      requested = .validAll ∧ number = images.layout.masterSlot) :
    images.OnlyValidates outcome.state := by
  refine ⟨h.layout_eq, fun a ha => h.outside a fun slot hactive => ?_,
    fun hdisjoint i slot hslot => ?_⟩
  · obtain ⟨hslot, hkind⟩ := ImageLayout.activeSlot_eq_ok.mp hactive
    exact ha slot (List.mem_of_getElem? hslot) hkind
  · by_cases hnumber : i = number.toNat
    · subst hnumber
      rcases h.own slot hslot with hsame | ⟨hkind, hedge, hnew⟩
      · rw [hsame]
        exact .same
      · rw [hnew]
        generalize images.decoded slot = state at hedge
        rcases hrequested with rfl | ⟨rfl, rfl⟩
        · cases state <;> first | exact .valid hkind | cases hedge
        · cases state <;> first | exact .validAll hkind rfl | cases hedge
    · rw [h.others hdisjoint hslot hnumber]
      exact .same

end FirmwareImages

-- ═══════════════════════════════════════════════════════════════════════════
-- Single calls
-- ═══════════════════════════════════════════════════════════════════════════

theorem ServiceId.ofWord?_word (id : ServiceId) : Numbered.ofWord? id.word = some id := by
  cases id <;> rfl

theorem ServiceId.isKmsService_word (id : ServiceId) : isKmsService id.word = false := by
  cases id <;> rfl

namespace CallGate

variable {P E F K : Type}

/-- What is left of a gate whose restricted services are closed. -/
structure StaysClosed [HonestFlash F] (gate : CallGate P E F K) (service : UInt32)
    (outcome : Outcome (CallGate P E F K) GateEvent SystemReset Response) : Prop where
  locked : outcome.state.locked = true
  engine : ∀ exchange, .engine exchange ∉ outcome.journal
  flash : ∀ exchange, .flash exchange ∈ outcome.journal → ¬exchange.1.IsErase ∧
    (exchange.1.IsRead ∨ service = ServiceId.appValidateFw.word)
  images : gate.images.OnlyValidates outcome.state.images

/-- The services that hand something to the engine are restricted. -/
theorem Feeds.isRestricted {id : ServiceId} {args : ServiceArgs} {op : EngineOp}
    (h : Feeds id args op) : id.isRestricted = true := by
  cases h <;> rfl

section Images

variable [HonestFlash F] {images : FirmwareImages F} {service : UInt32}

/-- What an unrestricted service does to the images. -/
structure WorksClosed (images : FirmwareImages F) (service : UInt32) {α : Type}
    (outcome : Outcome (FirmwareImages F) FlashExchange ImageError α) : Prop where
  flash : ∀ exchange ∈ outcome.journal, ¬exchange.1.IsErase ∧
    (exchange.1.IsRead ∨ service = ServiceId.appValidateFw.word)
  images : images.OnlyValidates outcome.state

theorem worksClosed_of_reads {α : Type}
    {outcome : Outcome (FirmwareImages F) FlashExchange ImageError α} (h : images.Reads outcome) :
    WorksClosed images service outcome := by
  refine ⟨fun exchange hmem => ?_, h.onlyValidates⟩
  have hread := h.along.op_of_mem hmem
  refine ⟨fun herase => ?_, .inl hread⟩
  generalize exchange.1 = op at hread herase
  cases op with
  | erase => exact hread
  | read | write => exact herase

theorem worksClosed_of_moves {number : UInt32} {requested : ImageState}
    {outcome : Outcome (FirmwareImages F) FlashExchange ImageError Unit}
    (h : images.Moves number requested outcome)
    (hrequested : requested = .valid ∨
      requested = .validAll ∧ number = images.layout.masterSlot)
    (hservice : service = ServiceId.appValidateFw.word) :
    WorksClosed images service outcome := by
  have hkept : FlashAlong (fun op _ => ¬op.IsErase) images.flash outcome.journal
      outcome.state.flash := by
    refine h.accesses.mono fun op flash haccess herase => ?_
    rcases haccess with hread | ⟨slot, -, haccess⟩
    · cases op with
      | erase => exact hread
      | read | write => exact herase
    · cases haccess <;> exact herase
  exact ⟨fun exchange hmem => ⟨hkept.op_of_mem hmem, .inr hservice⟩, h.onlyValidates hrequested⟩

/-- Of the services that work on the images, those that are not restricted read or validate. -/
theorem Works.closed {id : ServiceId} {args : ServiceArgs} {α : Type}
    {step : FirmwareImages.Step F α} {outputs : α → ServiceOutputs}
    (h : Works images.layout id args α step outputs) (hid : id.isRestricted = false)
    (hword : id.word = service) : WorksClosed images service (step.run images) := by
  cases h with
  | activeInfo slot => exact worksClosed_of_reads (FirmwareImages.activeInfo_reads slot)
  | validate slot =>
    exact worksClosed_of_moves (FirmwareImages.setState_moves images slot .valid) (.inl rfl)
      hword.symm
  | validateAll =>
    exact worksClosed_of_moves (FirmwareImages.setState_moves images _ .validAll)
      (.inr ⟨rfl, rfl⟩) hword.symm
  | appState slot => exact worksClosed_of_reads (FirmwareImages.state_reads slot)
  | imageState slot => exact worksClosed_of_reads (FirmwareImages.state_reads slot)
  | setState | read | write | erase => cases hid

end Images

variable [HonestFlash F] {gate : CallGate P E F K} {service : UInt32} {args : ServiceArgs}
  {call : GateCall} {outcome : Outcome (CallGate P E F K) GateEvent SystemReset Response}

/-- What leaves the images alone and asks the core at most keeps the gate closed. -/
theorem staysClosed_of_platform (hlocked : outcome.state.locked = true)
    (himages : outcome.state.images = gate.images)
    (hjournal : ∀ event ∈ outcome.journal, (∀ exchange, event ≠ .engine exchange) ∧
      ∀ exchange, event ≠ .flash exchange) : gate.StaysClosed service outcome := by
  refine ⟨hlocked, fun exchange hmem => (hjournal _ hmem).1 exchange rfl,
    fun exchange hmem => absurd rfl ((hjournal _ hmem).2 exchange), ?_⟩
  rw [himages]
  exact .refl _

variable [Platform P] [EngineServices E] [KmsEntry K]

theorem Effect.staysClosed (h : gate.Effect service args outcome) (hlocked : gate.locked = true) :
    gate.StaysClosed service outcome := by
  have hunrestricted {id : ServiceId} (hopens : gate.Opens service id) :
      id.isRestricted = false := by
    cases hrestricted : id.isRestricted with
    | false => rfl
    | true =>
      have hunlocked := hopens.unlocked hrestricted
      rw [hlocked] at hunlocked
      cases hunlocked
  cases h with
  | reset => exact staysClosed_of_platform hlocked rfl (by simp [resetting, platformEvent])
  | refused => exact staysClosed_of_platform hlocked rfl (by simp)
  | forwarded => exact staysClosed_of_platform hlocked rfl (by simp [CallGate.forwarded])
  | engaged hopens hfeeds =>
    have hrestricted := hfeeds.isRestricted
    rw [hunrestricted hopens] at hrestricted
    cases hrestricted
  | imaged hopens hworks =>
    have hclosed := hworks.closed (hunrestricted hopens) (Numbered.word_of_ofWord? hopens.word)
    refine ⟨hlocked, fun exchange hmem => ?_, fun exchange hmem => ?_, hclosed.images⟩
    · obtain ⟨served, -, heq⟩ := List.mem_map.mp hmem
      cases heq
    · obtain ⟨served, hserved, heq⟩ := List.mem_map.mp hmem
      cases heq
      exact hclosed.flash _ hserved
  | commanded => exact staysClosed_of_platform hlocked rfl (by simp [platformEvent])
  | locked => exact staysClosed_of_platform rfl rfl (by simp [platformEvent])
  | interruptEnded =>
    exact staysClosed_of_platform hlocked rfl (by simp [resetting, platformEvent, Outcome.after])

omit [EngineServices E] [KmsEntry K] in
/-- The bookkeeping of a call is with the core alone. -/
theorem StaysClosed.framed {inner : Outcome (CallGate P E F K) GateEvent SystemReset Response}
    (h : gate.StaysClosed call.service inner) :
    gate.StaysClosed call.service (gate.framed call inner) := by
  refine ⟨?_, fun exchange hmem => ?_, fun exchange hmem => ?_, ?_⟩
  · rw [state_framed]
    exact h.locked
  · exact h.engine exchange (mem_of_mem_framed hmem fun _ heq => by cases heq)
  · exact h.flash exchange (mem_of_mem_framed hmem fun _ heq => by cases heq)
  · rw [state_framed]
    exact h.images

/-- Every call keeps a closed gate closed. -/
theorem outcomeOf_staysClosed (hlocked : gate.locked = true) (call : GateCall) :
    gate.StaysClosed call.service (gate.outcomeOf call) := by
  have heffect := gate.call_effect call
  generalize gate.outcomeOf call = outcome at heffect
  cases heffect with
  | rejected =>
    exact staysClosed_of_platform hlocked rfl (by simp [resetting, platformEvent, Outcome.after])
  | answered => exact staysClosed_of_platform hlocked rfl (by simp [platformEvent])
  | served =>
    have hserved := (gate.servedOutcome_effect call).staysClosed hlocked
    exact StaysClosed.framed ⟨hserved.locked, hserved.engine, hserved.flash, hserved.images⟩

/-- A restricted service that is called while no interrupt is being serviced resets the system,
with no exchange but with the core. -/
theorem restricted_resets (hlocked : gate.locked = true) (hidle : gate.inInterrupt = false)
    {id : ServiceId} (hid : id.isRestricted = true) (hservice : call.service = id.word)
    (hcaller : gate.AcceptsCaller call) :
    (gate.outcomeOf call).answer = .error .reset ∧
      ∀ event ∈ (gate.outcomeOf call).journal, ∃ exchange, event = .platform exchange := by
  have hword : Numbered.ofWord? call.service = some id := by rw [hservice, id.ofWord?_word]
  have hguard : gate.interruptResponse? call = none := by
    have hne : call.service ≠ ServiceId.exitInterrupt.word := by
      rw [hservice]
      rintro heq
      have hsame := id.ofWord?_word
      rw [heq, ServiceId.ofWord?_word] at hsame
      rw [← Option.some.inj hsame] at hid
      cases hid
    exact interruptResponse?_of_idle hidle hne
  have hinner : gate.servedOutcome call = gate.prepared.resetting := by
    refine (gate.servedOutcome_effect call).eq_resetting ?_ fun other hopens => ?_
    · rw [hservice, id.isKmsService_word]
    · obtain rfl : id = other := Option.some.inj (hword.symm.trans hopens.word)
      have hunlocked : gate.locked = false := hopens.unlocked hid
      rw [hlocked] at hunlocked
      cases hunlocked
  rw [outcomeOf_eq_framed hcaller hguard, hinner]
  exact framed_resetting gate call

-- ═══════════════════════════════════════════════════════════════════════════
-- Runs
-- ═══════════════════════════════════════════════════════════════════════════

/-- A call that locks the restricted services and returns has closed them. -/
theorem locked_of_lock {response : Response}
    (hservice : call.service = ServiceId.lockRestrictServices.word) (hargs : call.args = .empty)
    (hidle : gate.inInterrupt = false) (hreturned : (gate.outcomeOf call).answer = .ok response) :
    (gate.outcomeOf call).state.locked = true := by
  have hguard : gate.interruptResponse? call = none :=
    interruptResponse?_of_idle hidle (by rw [hservice]; decide)
  have hinner : gate.servedOutcome call =
      ⟨.ok (ofEngine (gate.prepared.closed.platformReply .lockKeys) .nothing),
        gate.prepared.closed.afterPlatform .lockKeys,
        [gate.prepared.platformEvent .coreCleanup,
          gate.prepared.closed.platformEvent .lockKeys]⟩ := by
    rw [servedOutcome, hservice, hargs]
    rfl
  have heffect := gate.call_effect call
  generalize gate.outcomeOf call = outcome at heffect hreturned
  cases heffect with
  | rejected => cases hreturned
  | answered _ hanswered =>
    rw [hguard] at hanswered
    cases hanswered
  | served =>
    rw [hinner]
    rfl

end CallGate

/-- What happens to the gate: a call, or an interrupt that is handed to the outside. -/
inductive GateStep
  | call (call : GateCall)
  | interrupt

namespace CallGate

variable {P E F K : Type} [Platform P] [EngineServices E] [HonestFlash F] [KmsEntry K]
  {gate last : CallGate P E F K} {lock : GateCall} {response : Response} {steps : List GateStep}

/-- The gate `last` is what steps in a row leave; every call among them returned, as nothing comes
after a reset. -/
inductive Runs : CallGate P E F K → List GateStep → CallGate P E F K → Prop
  | done {gate : CallGate P E F K} : Runs gate [] gate
  | call {gate last : CallGate P E F K} {call : GateCall} {response : Response}
      {steps : List GateStep} (hreturned : (gate.outcomeOf call).answer = .ok response)
      (hrest : Runs (gate.outcomeOf call).state steps last) : Runs gate (.call call :: steps) last
  | interrupt {gate last : CallGate P E F K} {steps : List GateStep}
      (hrest : Runs gate.enterInterrupt steps last) : Runs gate (.interrupt :: steps) last

/-- By induction on the run: every step keeps the gate closed. -/
theorem Runs.staysClosed (h : Runs gate steps last) (hlocked : gate.locked = true) :
    last.locked = true ∧ gate.images.OnlyValidates last.images := by
  induction h with
  | done => exact ⟨hlocked, .refl _⟩
  | @call gate last call response steps _ _ ih =>
    have hclosed := outcomeOf_staysClosed hlocked call
    obtain ⟨hlast, himages⟩ := ih hclosed.locked
    exact ⟨hlast, hclosed.images.trans himages⟩
  | interrupt _ ih => exact ih hlocked

/-- Whatever is called after the restricted services were closed, they stay closed, and the images
are only validated. -/
theorem restricted_services_stay_closed
    (hservice : lock.service = ServiceId.lockRestrictServices.word) (hargs : lock.args = .empty)
    (hidle : gate.inInterrupt = false) (hreturned : (gate.outcomeOf lock).answer = .ok response)
    (hruns : Runs (gate.outcomeOf lock).state steps last) (call : GateCall) :
    last.StaysClosed call.service (last.outcomeOf call) ∧
      (∀ id : ServiceId, id.isRestricted = true → call.service = id.word →
        last.AcceptsCaller call → last.inInterrupt = false →
        (last.outcomeOf call).answer = .error .reset ∧
          ∀ event ∈ (last.outcomeOf call).journal, ∃ exchange, event = .platform exchange) ∧
      (gate.outcomeOf lock).state.images.OnlyValidates (last.outcomeOf call).state.images := by
  have hlocked := locked_of_lock hservice hargs hidle hreturned
  obtain ⟨hlast, himages⟩ := hruns.staysClosed hlocked
  have hclosed := outcomeOf_staysClosed hlast call
  refine ⟨hclosed, fun id hid hword hcaller hquiet => ?_, himages.trans hclosed.images⟩
  exact restricted_resets hlast hquiet hid hword hcaller

/-- Flash in which the image in the first slot waits for its validation. -/
def waitingFlash : SteadyFlash :=
  ⟨{ cell := fun a => if (a - 0x1038).toNat < 4 then 0 else erasedCell }, rfl⟩

/-- A gate whose restricted services are still open. -/
def openGate : CallGate SimulatedCore SimulatedEngine SteadyFlash
    (Kms NoCrypto NoExternalToken SimulatedNvm) :=
  CallGate.new ⟨false, 0, 0x08000000, .ok (), fun _ => 0⟩ ⟨fun _ => none, []⟩
    ⟨waitingFlash, FirmwareImages.pairLayout⟩ (Kms.plain .standard .mk .mk {})
    { interfaceRom := ⟨0x08000000, 0x1000⟩, ram := ⟨0x20000000, 0x10000⟩,
      enclaveRam := ⟨0x20000000, 0x4000⟩, bootloaderRam := ⟨0x20004000, 0x4000⟩ }

/-- A call from the code of the gate. -/
def callOf (id : ServiceId) (args : ServiceArgs) : GateCall :=
  ⟨0x08000010, 0x20008000, 0, id.word, args⟩

def lockedGate : CallGate SimulatedCore SimulatedEngine SteadyFlash
    (Kms NoCrypto NoExternalToken SimulatedNvm) :=
  (openGate.outcomeOf (callOf .lockRestrictServices .empty)).state

/-- The image is validated after the lock, and erasing its header resets the system. -/
theorem erasing_resets_after_lock :
    (lockedGate.outcomeOf (callOf .appValidateFw (.slot 0))).state.images.decoded
        ⟨.active, 0x1000⟩ = .valid ∧
      ((lockedGate.outcomeOf (callOf .appValidateFw (.slot 0))).state.outcomeOf
        (callOf .imgErase (.erase 0x1000 0x100))).answer = .error .reset := by
  refine ⟨by decide +kernel, ?_⟩
  have hlocked : (openGate.outcomeOf (callOf .lockRestrictServices .empty)).answer =
      .ok ⟨.success, .engine .ok, .nothing⟩ := by decide +kernel
  have hvalidated : (lockedGate.outcomeOf (callOf .appValidateFw (.slot 0))).answer =
      .ok ⟨.success, .engine .ok, .nothing⟩ := by decide +kernel
  have hclosed := restricted_services_stay_closed rfl rfl rfl hlocked (.call hvalidated .done)
    (callOf .imgErase (.erase 0x1000 0x100))
  refine (hclosed.2.1 .imgErase rfl rfl ?_ ?_).1
  · exact ⟨by decide, by decide⟩
  · decide +kernel

end CallGate

end KeyEnclave
