import KeyEnclave.Proofs.Gate.Coherence
import KeyEnclave.Proofs.Kms.Admission

/-!
# Forwarding is dispatching

A request that comes through the gate is answered as if it had been dispatched within the enclave,
whatever origin its service word claims to have. The gate drops that claim and the selection of the
service family, and the dispatcher drops the origin, so only the number of the function is left.

## Main definitions

* `directWord` — the function word of a service word, under the tag of an origin.
* `Request.Forwardable` — the gate accepts all memory of a request.
* `CallGate.Forwards` — how forwarding a request compares with dispatching it.
* `CallGate.ReachesNoFunction` — key management refused what was dispatched, if anything was.

## Main results

* `CallGate.forwarding_is_dispatching` — forwarding agrees with dispatching, and a service word with
  stray bits reaches no function.
-/

namespace KeyEnclave

open KeyEnclave.Action

-- ═══════════════════════════════════════════════════════════════════════════
-- Function words
-- ═══════════════════════════════════════════════════════════════════════════

/-- The function word that a service word carries besides the service family and the origin, under
the tag of an origin. -/
def directWord (service tag : UInt32) : UInt32 :=
  (service &&& ~~~0x70FF0000) ||| (tag &&& originMask)

theorem or_and_mask (word other mask : UInt32) :
    (word ||| other) &&& mask = word &&& mask ||| other &&& mask :=
  UInt32.toBitVec_inj.mp BitVec.and_or_distrib_right

theorem forwardedWord_eq (service : UInt32) :
    CallGate.forwardedWord service = directWord service Origin.unsecure.word :=
  rfl

theorem directWord_and_originMask (service tag : UInt32) :
    directWord service tag &&& originMask = tag &&& originMask := by
  have hcleared : ~~~0x70FF0000 &&& originMask = 0 := rfl
  have hkept : originMask &&& originMask = originMask := rfl
  rw [directWord, or_and_mask, UInt32.and_assoc, UInt32.and_assoc, hcleared, hkept,
    UInt32.and_zero, UInt32.zero_or]

theorem withoutOrigin_directWord (service tag : UInt32) :
    FunctionId.withoutOrigin (directWord service tag) = service &&& ~~~0x70FF0000 := by
  have hkept : ~~~0x70FF0000 &&& ~~~originMask = ~~~0x70FF0000 := rfl
  have hcleared : originMask &&& ~~~originMask = 0 := rfl
  rw [FunctionId.withoutOrigin, directWord, or_and_mask, UInt32.and_assoc, UInt32.and_assoc, hkept,
    hcleared, UInt32.and_zero, UInt32.or_zero]

/-- Functions have numbers below `0x47`, so a word with a higher bit set has the number of none. -/
theorem endWord_le_of_stray {service : UInt32} (h : service &&& 0x8F00FF80 ≠ 0) :
    FunctionId.endWord ≤ service &&& ~~~0x70FF0000 := by
  by_contra hbelow
  have hlow : (service &&& ~~~0x70FF0000) &&& 0x7F = service &&& ~~~0x70FF0000 := by
    have hlt : (service &&& ~~~0x70FF0000).toNat < 0x47 :=
      UInt32.lt_iff_toNat_lt.mp (UInt32.not_le.mp hbelow)
    refine UInt32.toNat_inj.mp ?_
    rw [UInt32.toNat_and, show (0x7F : UInt32).toNat = 2 ^ 7 - 1 from rfl,
      Nat.and_two_pow_sub_one_eq_mod, Nat.mod_eq_of_lt (by omega)]
  refine h ?_
  calc service &&& 0x8F00FF80
      = (service &&& ~~~0x70FF0000) &&& 0x8F00FF80 := by rw [UInt32.and_assoc]; rfl
    _ = ((service &&& ~~~0x70FF0000) &&& 0x7F) &&& 0x8F00FF80 := by rw [hlow]
    _ = (service &&& ~~~0x70FF0000) &&& 0 := by rw [UInt32.and_assoc]; rfl
    _ = 0 := UInt32.and_zero

-- ═══════════════════════════════════════════════════════════════════════════
-- Requests
-- ═══════════════════════════════════════════════════════════════════════════

/-- All memory that a request hands over lies in RAM that is not the enclave's. -/
def Request.Forwardable (request : Request) (memory : MemoryMap) : Prop :=
  ∀ span, request.Carries span → span.len ≠ 0 → memory.inCallerRam span.address span.len = true

theorem Request.Forwardable.mayForward {request : Request} {memory : MemoryMap}
    (h : request.Forwardable memory) :
    ∀ span ∈ request.spans, CallGate.mayForward memory span = true := by
  intro span hspan
  simp only [CallGate.mayForward, Bool.or_eq_true, beq_iff_eq]
  exact or_iff_not_imp_left.mpr (h span (Request.carries_iff.mpr hspan))

/-- What is dispatched in an exchange, and the exchanges it leads to. -/
def GateEvent.dispatch? : GateEvent → Option (UInt32 × Request × List KmsEvent)
  | .kms word request events => some (word, request, events)
  | .platform _ | .engine _ | .flash _ => none

namespace Kms

variable {C T N : Type} [CryptoProvider C] [ExternalToken T] [NvmStorage N]

/-- The tag of a word plays no part. -/
theorem dispatch_directWord (kms : Kms C T N) (service tag other : UInt32) (request : Request) :
    kms.dispatch (directWord service tag) request =
      kms.dispatch (directWord service other) request := by
  refine dispatch_congr ?_ kms request
  rw [withoutOrigin_directWord, withoutOrigin_directWord]

theorem dispatch_stray {service : UInt32} (h : service &&& 0x8F00FF80 ≠ 0) (kms : Kms C T N)
    (tag : UInt32) (request : Request) : kms.dispatch (directWord service tag) request =
      (⟨.functionFailed, request.untouched⟩, kms, []) := by
  refine dispatch_of_refused (admitted_of_failed (.inr (.inl ?_)))
  rw [withoutOrigin_directWord]
  exact endWord_le_of_stray h

end Kms

namespace CallGate

variable {P E F C T N : Type}

theorem explained_forwardedResponse (answer : Answer) :
    (forwardedResponse answer).explained = forwardedResponse answer :=
  if_neg fun h => by cases h.2

section Comparison

variable [CryptoProvider C] [ExternalToken T] [NvmStorage N]

/-- Forwarding a request of the service word `service` left `outcome`, with what dispatching the
request answers and exchanges. -/
structure Forwards (gate : CallGate P E F (Kms C T N)) (service : UInt32) (request : Request)
    (outcome : Outcome (CallGate P E F (Kms C T N)) GateEvent SystemReset Response)
    (answer : Answer) (events : List KmsEvent) : Prop where
  /-- The request is dispatched once, under a word that says it comes from outside. -/
  dispatched : ∃ word,
    outcome.journal.filterMap GateEvent.dispatch? = [(word, request, events)] ∧
      word &&& originMask = Origin.unsecure.word ∧
      FunctionId.withoutOrigin word = service &&& ~~~0x70FF0000
  /-- Dispatched directly, under any tag, it has the same answer and leads to the same state. -/
  direct : ∀ tag,
    gate.kms.dispatch (directWord service tag) request = (answer, outcome.state.kms, events)
  /-- The call comes back with code and outputs, and succeeds exactly when the code says so. -/
  returned : outcome.answer =
    .ok ⟨if answer.code = .ok then .success else .error, .kms answer.code, .kms answer.outputs⟩
  /-- Beside key management only the core is asked for anything. -/
  rest : outcome.state =
    { gate with platform := outcome.state.platform, kms := outcome.state.kms }
  /-- A word with stray bits is that of no function. -/
  stray : service &&& 0x8F00FF80 ≠ 0 →
    answer = ⟨.functionFailed, request.untouched⟩ ∧ outcome.state.kms = gate.kms ∧ events = []

/-- Nothing happened to key management, and all that was dispatched to it was refused. -/
structure ReachesNoFunction (gate : CallGate P E F (Kms C T N))
    (outcome : Outcome (CallGate P E F (Kms C T N)) GateEvent SystemReset Response) : Prop where
  kms : outcome.state.kms = gate.kms
  refused : ∀ word request events, .kms word request events ∈ outcome.journal →
    gate.kms.dispatch word request = (⟨.functionFailed, request.untouched⟩, gate.kms, []) ∧
      events = []

variable {gate : CallGate P E F (Kms C T N)} {service : UInt32} {request : Request}
  {outcome : Outcome (CallGate P E F (Kms C T N)) GateEvent SystemReset Response}

/-- What is around the dispatching of a request makes no difference. -/
theorem forwards_of_dispatched {answer : Answer} {events : List KmsEvent}
    (hdispatch : gate.kms.dispatch (forwardedWord service) request =
      (answer, outcome.state.kms, events))
    (hreturned : outcome.answer = .ok (forwardedResponse answer))
    (hjournal : outcome.journal.filterMap GateEvent.dispatch? =
      [(forwardedWord service, request, events)])
    (hrest : outcome.state =
      { gate with platform := outcome.state.platform, kms := outcome.state.kms }) :
    gate.Forwards service request outcome answer events := by
  rw [forwardedWord_eq] at hdispatch hjournal
  refine ⟨⟨_, hjournal, directWord_and_originMask _ _, withoutOrigin_directWord _ _⟩,
    fun tag => ?_, hreturned, hrest, fun hstray => ?_⟩
  · rw [← hdispatch]
    exact gate.kms.dispatch_directWord service tag _ request
  · rw [Kms.dispatch_stray hstray] at hdispatch
    obtain ⟨hanswer, hafter⟩ := Prod.mk.inj hdispatch
    obtain ⟨hkms, hevents⟩ := Prod.mk.inj hafter
    exact ⟨hanswer.symm, hkms.symm, hevents.symm⟩

end Comparison

section Forwarding

variable [Platform P] [EngineServices E] [Flash F] [CryptoProvider C] [ExternalToken T]
  [NvmStorage N] {gate : CallGate P E F (Kms C T N)} {call : GateCall} {request : Request}
  {service : UInt32}

omit [EngineServices E] [Flash F] in
theorem forward_forwards (hmemory : request.Forwardable gate.memory) :
    ∃ answer events, gate.Forwards service request
      ((forward service (.kms request)).run gate) answer events := by
  rw [forward_run hmemory.mayForward]
  exact ⟨_, _, forwards_of_dispatched rfl rfl rfl rfl⟩

/-- A call that no interrupt keeps from its service forwards its request on the enclave's vector
table, and nothing of the answer is lost on the way back. -/
theorem outcomeOf_forwards (hidle : gate.inInterrupt = false)
    (hservice : isKmsService call.service = true) (hargs : call.args = .kms request)
    (hmemory : request.Forwardable gate.memory) (hcaller : gate.AcceptsCaller call) :
    ∃ answer events, gate.Forwards call.service request (gate.outcomeOf call) answer events := by
  have hguard : gate.interruptResponse? call = none :=
    interruptResponse?_of_idle hidle (ne_exitInterrupt hservice)
  have hserved : gate.servedOutcome call = gate.prepared.forwarded call.service request := by
    rw [servedOutcome, serviceOf, if_pos hservice, hargs]
    exact forward_run hmemory.mayForward
  rw [outcomeOf_eq_framed hcaller hguard, hserved]
  refine ⟨_, _, forwards_of_dispatched rfl ?_ rfl rfl⟩
  rw [answer_framed, ← explained_forwardedResponse]
  rfl

/-- A service word with stray bits reaches no function, whatever else is wrong with the call. -/
theorem outcomeOf_reachesNoFunction (hstray : call.service &&& 0x8F00FF80 ≠ 0) :
    gate.ReachesNoFunction (gate.outcomeOf call) := by
  have heffect := gate.call_effect call
  generalize gate.outcomeOf call = outcome at heffect
  cases heffect with
  | rejected => exact ⟨rfl, by simp [resetting, platformEvent, Outcome.after]⟩
  | answered => exact ⟨rfl, by simp [platformEvent]⟩
  | served =>
    rcases (gate.servedOutcome_effect call).forwarded_or with
      ⟨handed, -, -, hforwarded⟩ | ⟨hkms, hnone⟩
    · have hrefused := Kms.dispatch_stray hstray gate.kms Origin.unsecure.word handed
      rw [hforwarded]
      refine ⟨?_, fun word request events hmem => ?_⟩
      · rw [state_framed]
        exact congrArg (fun served => served.2.1) hrefused
      · have hmem := mem_of_mem_framed hmem fun _ heq => by cases heq
        obtain ⟨rfl, rfl, rfl⟩ := GateEvent.kms.inj (List.mem_singleton.mp hmem)
        exact ⟨hrefused, congrArg (fun served => served.2.2) hrefused⟩
    · refine ⟨?_, fun word request events hmem => ?_⟩
      · rw [state_framed]
        exact hkms
      · have hmem := mem_of_mem_framed hmem fun _ heq => by cases heq
        exact absurd hmem (hnone word request events)

/-- While no interrupt is being serviced, a request whose memory the gate accepts is forwarded as it
would be dispatched, unless the call itself is not accepted. With stray bits in its service word, no
call reaches a function. -/
theorem forwarding_is_dispatching (gate : CallGate P E F (Kms C T N)) :
    (∀ call request, gate.inInterrupt = false → call.service &&& 0x70000000 = 0x10000000 →
      call.args = .kms request → request.Forwardable gate.memory →
        (∃ answer events, gate.Forwards call.service request
          ((forward call.service call.args).run gate) answer events) ∧
        (gate.AcceptsCaller call → ∃ answer events,
          gate.Forwards call.service request (gate.outcomeOf call) answer events) ∧
        (¬gate.AcceptsCaller call → gate.ResetsAlone (gate.outcomeOf call))) ∧
      ∀ call, call.service &&& 0x8F00FF80 ≠ 0 → gate.ReachesNoFunction (gate.outcomeOf call) := by
  refine ⟨fun call request hidle hservice hargs hmemory => ?_,
    fun _ hstray => outcomeOf_reachesNoFunction hstray⟩
  refine ⟨?_, fun hcaller => ?_, fun hcaller => ?_⟩
  · rw [hargs]
    exact forward_forwards hmemory
  · exact outcomeOf_forwards hidle (beq_iff_eq.mpr hservice) hargs hmemory hcaller
  · exact (Trespasses.caller hcaller).resetsAlone

end Forwarding

/-- A request to initialise that claims to come from within the enclave is dispatched as one from
outside, with the effect it has without any origin; with a stray bit it has none. -/
theorem claimed_origin_is_dropped :
    let call := { callOf .init (.kms .initialise) with service := 0x10A10001 }
    (∃ word events, (openGate.outcomeOf call).journal.filterMap GateEvent.dispatch? =
        [(word, .initialise, events)] ∧ word &&& originMask = Origin.unsecure.word) ∧
      (openGate.outcomeOf call).state.kms =
        (openGate.kms.dispatch FunctionId.initialise.word .initialise).2.1 ∧
      (openGate.outcomeOf { call with service := 0x10A10081 }).state.kms = openGate.kms := by
  intro call
  obtain ⟨hforwarding, hstray⟩ := forwarding_is_dispatching openGate
  have hmemory : Request.initialise.Forwardable openGate.memory := by
    intro span hspan
    cases Request.carries_iff.mp hspan
  obtain ⟨answer, events, hforwards⟩ :=
    (hforwarding call .initialise rfl (by decide) rfl hmemory).2.1 ⟨by decide, by decide⟩
  refine ⟨?_, ?_, (hstray _ (by decide)).kms⟩
  · obtain ⟨word, hjournal, horigin, -⟩ := hforwards.dispatched
    exact ⟨word, events, hjournal, horigin⟩
  · have hword : directWord call.service 0 = FunctionId.initialise.word := by decide
    rw [← hword, hforwards.direct 0]

end CallGate

end KeyEnclave
