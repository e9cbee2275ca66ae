import KeyEnclave.Proofs.Gate.Effect

/-!
# The enclave's memory is out of reach

Whatever a call hands over, the gate lets nothing be read or written through it that lies in the
enclave's RAM, or outside of the RAM that the service may use.

## Main definitions

* `GateEvent.UsesMemory` — an exchange for which memory of the caller is read or written.
* `CallGate.Guards` — how a call treats the memory that it was handed.

## Main results

* `CallGate.call_guards_memory` — every call treats it so, over every memory map.
-/

namespace KeyEnclave

/-- An exchange for which memory that a call hands over is read or written. -/
def GateEvent.UsesMemory : GateEvent → Prop
  | .engine _ | .flash _ | .kms .. => True
  | .platform ⟨.saveDisableIrq _, _⟩ | .platform ⟨.restoreEnableIrq _, _⟩ => True
  | .platform _ => False

namespace CallGate

/-- How a call treats the memory that it was handed. -/
structure Guards {P E F K : Type} (gate : CallGate P E F K) (call : GateCall)
    (outcome : Outcome (CallGate P E F K) GateEvent SystemReset Response) : Prop where
  /-- The request that is dispatched is the one handed over, and all its buffers may be used. -/
  forwarded : ∀ word request events, .kms word request events ∈ outcome.journal →
    call.args = .kms request ∧
      ∀ span, request.Carries span → span.LiesIn gate.memory.ram gate.memory.enclaveRam
  /-- A request with another buffer resets the system, and is not dispatched. -/
  refused : ∀ request span, call.args = .kms request → isKmsService call.service = true →
    gate.inInterrupt = false → request.Carries span →
    ¬span.LiesIn gate.memory.ram gate.memory.enclaveRam →
    outcome.answer = .error .reset ∧ outcome.state.kms = gate.kms ∧
      ∀ word request events, .kms word request events ∉ outcome.journal
  /-- The engine is asked only with what was handed over, all of it in the bootloader's RAM. -/
  engaged : ∀ op reply, .engine ⟨op, reply⟩ ∈ outcome.journal →
    (∃ id, Feeds id call.args op) ∧ ∀ span ∈ call.args.spans,
      span.LiesIn gate.memory.bootloaderRam gate.memory.enclaveRam
  /-- No exchange uses memory that a call may not hand over. -/
  used : ∀ event ∈ outcome.journal, event.UsesMemory → call.args.Admissible gate.memory
  /-- Nothing is written to memory that a call may not hand over. -/
  written : ∀ response, outcome.answer = .ok response →
    response.outputs ≠ call.args.untouched → call.args.Admissible gate.memory

/-- An exchange with the core that uses no memory. -/
def IsBookkeeping (event : GateEvent) : Prop :=
  (∃ exchange, event = .platform exchange) ∧ ¬event.UsesMemory

theorem isBookkeeping_of_op {op : PlatformOp} {reply : op.Reply}
    (h : op = .enterProtectedArea ∨ op = .reset ∨ (∃ table, op = .setVectorTable table) ∨
      ∃ primask, op = .exitProtectedArea primask) :
    IsBookkeeping (.platform ⟨op, reply⟩) := by
  refine ⟨⟨_, rfl⟩, ?_⟩
  rcases h with rfl | rfl | ⟨table, rfl⟩ | ⟨primask, rfl⟩ <;> exact id

/-- A call that does nothing but bookkeeping uses no memory. -/
theorem guards_of_bookkeeping {P E F K : Type} {gate : CallGate P E F K} {call : GateCall}
    {outcome : Outcome (CallGate P E F K) GateEvent SystemReset Response}
    (hjournal : ∀ event ∈ outcome.journal, IsBookkeeping event)
    (houtputs : ∀ response, outcome.answer = .ok response →
      response.outputs = call.args.untouched)
    (hreset : isKmsService call.service = true → gate.inInterrupt = false →
      outcome.answer = .error .reset)
    (hkms : outcome.state.kms = gate.kms) : gate.Guards call outcome := by
  have hplatform : ∀ event ∈ outcome.journal, ∃ exchange, event = .platform exchange :=
    fun event hmem => (hjournal event hmem).1
  refine ⟨fun _ _ _ hmem => ?_, fun _ _ _ hservice hidle _ _ => ⟨hreset hservice hidle, hkms, ?_⟩,
    fun _ _ hmem => ?_, fun event hmem huse => ?_, fun response hanswer hne => ?_⟩
  · obtain ⟨exchange, heq⟩ := hplatform _ hmem
    cases heq
  · intro word request events hmem
    obtain ⟨exchange, heq⟩ := hplatform _ hmem
    cases heq
  · obtain ⟨exchange, heq⟩ := hplatform _ hmem
    cases heq
  · exact absurd huse (hjournal event hmem).2
  · exact absurd (houtputs response hanswer) hne

section Frame

variable {P E F K : Type} [Platform P] {gate : CallGate P E F K} {call : GateCall}
  {inner : Outcome (CallGate P E F K) GateEvent SystemReset Response}

theorem isBookkeeping_enter (gate : CallGate P E F K) :
    IsBookkeeping (gate.platformEvent .enterProtectedArea) :=
  isBookkeeping_of_op (.inl rfl)

theorem isBookkeeping_reset (gate : CallGate P E F K) :
    IsBookkeeping (gate.platformEvent .reset) :=
  isBookkeeping_of_op (.inr (.inl rfl))

theorem isBookkeeping_table (gate : CallGate P E F K) (table : UInt64) :
    IsBookkeeping (gate.platformEvent (.setVectorTable table)) :=
  isBookkeeping_of_op (.inr (.inr (.inl ⟨table, rfl⟩)))

theorem isBookkeeping_exit (gate : CallGate P E F K) (primask : UInt32) :
    IsBookkeeping (gate.platformEvent (.exitProtectedArea primask)) :=
  isBookkeeping_of_op (.inr (.inr (.inr ⟨primask, rfl⟩)))

/-- Beside the exchanges of its service a call makes some with the core, which use no memory. -/
theorem mem_framed {event : GateEvent} (h : event ∈ (gate.framed call inner).journal) :
    event ∈ inner.journal ∨ IsBookkeeping event := by
  rcases inner with ⟨answer, served, journal⟩
  cases answer with
  | error e =>
    simp only [framed, List.mem_append, List.mem_cons, List.not_mem_nil, or_false] at h
    rcases h with (rfl | rfl) | h
    · exact .inr (isBookkeeping_enter _)
    · exact .inr (isBookkeeping_table _ _)
    · exact .inl h
  | ok response =>
    simp only [framed, List.mem_append, List.mem_cons, List.not_mem_nil, or_false] at h
    rcases h with (rfl | rfl) | h | rfl | rfl
    · exact .inr (isBookkeeping_enter _)
    · exact .inr (isBookkeeping_table _ _)
    · exact .inl h
    · exact .inr (isBookkeeping_table _ _)
    · exact .inr (isBookkeeping_exit _ _)

/-- Every other exchange of a call is one of its service. -/
theorem mem_of_mem_framed {event : GateEvent} (h : event ∈ (gate.framed call inner).journal)
    (hevent : ∀ exchange, event ≠ .platform exchange) : event ∈ inner.journal := by
  rcases mem_framed h with hmem | ⟨⟨exchange, heq⟩, -⟩
  · exact hmem
  · exact absurd heq (hevent exchange)

/-- A call whose service resets at once has no exchange but with the core. -/
theorem framed_resetting (gate : CallGate P E F K) (call : GateCall) :
    (gate.framed call gate.prepared.resetting).answer = .error .reset ∧
      ∀ event ∈ (gate.framed call gate.prepared.resetting).journal,
        ∃ exchange, event = .platform exchange := by
  refine ⟨rfl, fun event hmem => ?_⟩
  rcases mem_framed hmem with hmem | ⟨hplatform, -⟩
  · exact ⟨_, List.mem_singleton.mp hmem⟩
  · exact hplatform

theorem answer_framed :
    (gate.framed call inner).answer = inner.answer.map Response.explained := by
  rcases inner with ⟨answer, served, journal⟩
  cases answer with
  | error e => rfl
  | ok response => rfl

/-- A call that is kept from its service writes nothing. -/
theorem outputs_of_interruptResponse? {response : Response}
    (h : gate.interruptResponse? call = some response) :
    response.outputs = call.args.untouched := by
  unfold interruptResponse? at h
  split at h
  · split at h
    · cases h
      rfl
    · split at h
      · cases h
        rfl
      · cases h
  · split at h
    · cases h
      rfl
    · cases h

@[simp] theorem outputs_explained (response : Response) :
    response.explained.outputs = response.outputs := by
  unfold Response.explained
  split
  · rfl
  · rfl

end Frame

theorem Feeds.area_eq {id : ServiceId} {args : ServiceArgs} {op : EngineOp}
    (h : Feeds id args op) : args.area = MemoryMap.bootloaderRam := by
  cases h <;> rfl

theorem ne_exitInterrupt {service : UInt32} (h : isKmsService service = true) :
    service ≠ ServiceId.exitInterrupt.word := by
  rintro rfl
  exact absurd h (by decide)

variable {P E F K : Type} [Platform P] [EngineServices E] [Flash F] [KmsEntry K]
  {gate : CallGate P E F K} {service : UInt32} {args : ServiceArgs}
  {outcome : Outcome (CallGate P E F K) GateEvent SystemReset Response}

/-- Only a service whose memory was found admissible uses any, or writes to it. -/
theorem Effect.uses_admissible (h : gate.Effect service args outcome) :
    args.Admissible gate.memory ∨
      (∀ event ∈ outcome.journal, ¬event.UsesMemory) ∧
        ∀ response, outcome.answer = .ok response → response.outputs = args.untouched := by
  cases h with
  | reset =>
    refine .inr ⟨fun event hmem => ?_, fun _ hanswer => by cases hanswer⟩
    rw [List.mem_singleton.mp hmem]
    exact (isBookkeeping_reset gate).2
  | refused =>
    refine .inr ⟨fun event hmem => ?_, fun response hanswer => ?_⟩
    · cases hmem
    · obtain rfl := Except.ok.inj hanswer
      rfl
  | forwarded hargs _ hmemory =>
    subst hargs
    exact .inl fun span hspan => Span.liesIn_of_mayForward (hmemory span hspan)
  | engaged _ _ hmemory => exact .inl hmemory
  | imaged _ _ hmemory => exact .inl hmemory
  | commanded _ _ hmemory => exact .inl hmemory
  | locked hargs =>
    subst hargs
    exact .inl (ServiceArgs.admissible_of_nil rfl)
  | interruptEnded =>
    refine .inr ⟨fun event hmem => ?_, fun _ hanswer => by cases hanswer⟩
    simp only [Outcome.after, resetting, List.mem_append, List.mem_singleton] at hmem
    rcases hmem with rfl | rfl
    · exact id
    · exact (isBookkeeping_reset _).2

/-- A dispatched request is the one handed over, with memory that may be forwarded. -/
theorem Effect.of_kms_mem (h : gate.Effect service args outcome) {word : UInt32}
    {request : Request} {events : List KmsEvent}
    (hmem : .kms word request events ∈ outcome.journal) :
    args = .kms request ∧ ∀ span ∈ request.spans, mayForward gate.memory span = true := by
  rcases h.forwarded_or with ⟨handed, hargs, hmemory, rfl⟩ | ⟨-, hnone⟩
  · simp only [CallGate.forwarded, List.mem_singleton, GateEvent.kms.injEq] at hmem
    obtain ⟨-, rfl, -⟩ := hmem
    exact ⟨hargs, hmemory⟩
  · exact absurd hmem (hnone word request events)

/-- The engine is asked only with what was handed over. -/
theorem Effect.of_engine_mem (h : gate.Effect service args outcome) {op : EngineOp}
    {reply : op.Reply} (hmem : .engine ⟨op, reply⟩ ∈ outcome.journal) :
    (∃ id, gate.Opens service id ∧ Feeds id args op) ∧ args.Admissible gate.memory := by
  cases h with
  | engaged hopens hfeeds hmemory =>
    simp only [engineEvent, List.mem_singleton, GateEvent.engine.injEq, Sigma.mk.injEq] at hmem
    obtain ⟨rfl, -⟩ := hmem
    exact ⟨⟨_, hopens, hfeeds⟩, hmemory⟩
  | imaged =>
    obtain ⟨exchange, -, heq⟩ := List.mem_map.mp hmem
    cases heq
  | _ => simp [resetting, platformEvent, Outcome.after, CallGate.forwarded] at hmem

/-- A request with memory that may not be forwarded resets the system. -/
theorem Effect.of_inadmissible {request : Request} (h : gate.Effect service (.kms request) outcome)
    (hservice : isKmsService service = true) {span : Span} (hspan : span ∈ request.spans)
    (hlies : ¬span.LiesIn gate.memory.ram gate.memory.enclaveRam) : outcome = gate.resetting := by
  have hclosed (id : ServiceId) : ¬gate.Opens service id := by
    intro hopens
    rw [hopens.notKms] at hservice
    cases hservice
  cases h with
  | reset => rfl
  | refused h =>
    rcases h with ⟨-, hargs⟩ | ⟨id, hopens⟩
    · exact absurd rfl (hargs request)
    · exact absurd hopens (hclosed id)
  | forwarded hargs _ hmemory =>
    obtain rfl := ServiceArgs.kms.inj hargs
    exact absurd (Span.liesIn_of_mayForward (hmemory span hspan)) hlies
  | engaged hopens => exact absurd hopens (hclosed _)
  | imaged hopens => exact absurd hopens (hclosed _)
  | commanded hopens => exact absurd hopens (hclosed _)
  | locked _ hopens => exact absurd hopens (hclosed _)
  | interruptEnded hopens => exact absurd hopens (hclosed _)

/-- A call uses the memory that its service uses. -/
theorem guards_of_effect {call : GateCall}
    {inner : Outcome (CallGate P E F K) GateEvent SystemReset Response}
    (h : gate.prepared.Effect call.service call.args inner) :
    gate.Guards call (gate.framed call inner) := by
  constructor
  case forwarded =>
    intro word request events hmem
    obtain ⟨hargs, hspans⟩ := h.of_kms_mem (mem_of_mem_framed hmem fun _ heq => by cases heq)
    exact ⟨hargs, fun span hcarries =>
      Span.liesIn_of_mayForward (hspans span (Request.carries_iff.mp hcarries))⟩
  case refused =>
    intro request span hargs hservice _ hcarries hlies
    rw [hargs] at h
    obtain rfl := h.of_inadmissible hservice (Request.carries_iff.mp hcarries) hlies
    refine ⟨rfl, rfl, fun word request events hmem => ?_⟩
    have hmem := mem_of_mem_framed hmem fun _ heq => by cases heq
    simp [resetting, platformEvent] at hmem
  case engaged =>
    intro op reply hmem
    have hmem := mem_of_mem_framed hmem fun _ heq => by cases heq
    obtain ⟨⟨id, -, hfeeds⟩, hmemory⟩ := h.of_engine_mem hmem
    refine ⟨⟨id, hfeeds⟩, fun span hspan => ?_⟩
    have hlies := hmemory span hspan
    rwa [hfeeds.area_eq] at hlies
  case used =>
    intro event hmem huse
    rcases mem_framed hmem with hmem | ⟨-, hunused⟩
    · rcases h.uses_admissible with hadmissible | ⟨hunused, -⟩
      · exact hadmissible
      · exact absurd huse (hunused event hmem)
    · exact absurd huse hunused
  case written =>
    intro response hanswer hne
    rcases h.uses_admissible with hadmissible | ⟨-, huntouched⟩
    · exact hadmissible
    · rw [answer_framed] at hanswer
      cases hserved : inner.answer with
      | error e =>
        rw [hserved] at hanswer
        cases hanswer
      | ok served =>
        rw [hserved] at hanswer
        obtain rfl := Except.ok.inj hanswer
        rw [outputs_explained] at hne
        exact absurd (huntouched served hserved) hne

/-- No call has the memory it was handed read or written where that is not allowed. -/
theorem call_guards_memory (gate : CallGate P E F K) (call : GateCall) :
    gate.Guards call (gate.outcomeOf call) := by
  have heffect := gate.call_effect call
  generalize gate.outcomeOf call = outcome at heffect
  cases heffect with
  | rejected =>
    refine guards_of_bookkeeping (fun event hmem => ?_) (fun _ h => by cases h) (fun _ _ => rfl) rfl
    simp only [Outcome.after, resetting, List.mem_append, List.mem_singleton] at hmem
    rcases hmem with rfl | rfl
    · exact isBookkeeping_enter _
    · exact isBookkeeping_reset _
  | answered _ hguard =>
    refine guards_of_bookkeeping (fun event hmem => ?_) (fun _ h => ?_) (fun hservice hidle => ?_) rfl
    · simp only [List.mem_cons, List.not_mem_nil, or_false] at hmem
      rcases hmem with rfl | rfl
      · exact isBookkeeping_enter _
      · exact isBookkeeping_exit _ _
    · obtain rfl := Except.ok.inj h
      exact outputs_of_interruptResponse? hguard
    · rw [interruptResponse?_of_idle hidle (ne_exitInterrupt hservice)] at hguard
      cases hguard
  | served => exact guards_of_effect (gate.servedOutcome_effect call)

end CallGate

end KeyEnclave
