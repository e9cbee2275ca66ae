import KeyEnclave.Proofs.Gate.Lockdown

/-!
# What a call leaves of the core, and what it reports

A call runs its service on the enclave's vector table, inside protected execution. However the
service ends, a call that returns has put the caller's table back and left protected execution as
its last exchange, and the status word bears out the result.

## Main definitions

* `SteadyTable` — a core whose vector table is a cell that only one operation changes.
* `CallGate.Restored` — how a call that returned left the core, and what it reported.
* `CallGate.Trespasses`, `CallGate.ResetsAlone` — what the gate never serves, and what it does then.
* `CallGate.returns` — the calls that return among steps in a row, each with the gate it found.
* `CallGate.Waits`, `CallGate.TurnedAway` — a gate while an interrupt is serviced outside, and a
  call of it.

## Main results

* `CallGate.calls_are_coherent` — all of this for every gate, call and sequence of steps.
-/

namespace KeyEnclave

open KeyEnclave.Action

/-- A core whose vector table is a cell: setting it stores an address, and nothing else changes
it. -/
class SteadyTable (P : Type) extends Platform P where
  vectorTable_set : ∀ (address : UInt64) (core : P),
    vectorTable (serve (.setVectorTable address) core).2 = address
  vectorTable_other : ∀ (op : PlatformOp) (core : P), (∀ address, op ≠ .setVectorTable address) →
    vectorTable (serve op core).2 = vectorTable core

instance : SteadyTable SimulatedCore where
  vectorTable_set _ _ := rfl
  vectorTable_other op _ h := by
    cases op with
    | setVectorTable address => exact absurd rfl (h address)
    | _ => rfl

/-- An exchange in which protected execution is entered or left. -/
def GateEvent.Crosses : GateEvent → Prop
  | .platform ⟨.enterProtectedArea, _⟩ | .platform ⟨.exitProtectedArea _, _⟩ => True
  | .platform _ | .engine _ | .flash _ | .kms .. => False

-- ═══════════════════════════════════════════════════════════════════════════
-- Responses
-- ═══════════════════════════════════════════════════════════════════════════

/-- What a service may report: a success comes with a status word that says so, and a request that
failed with one that does not. -/
structure Response.Reports (response : Response) : Prop where
  success : response.result = .success →
    response.status = .engine .ok ∨ response.status = .kms .ok
  error : response.result = .error → response.status ≠ .kms .ok

namespace Response.Reports

open CallGate

theorem succeed (outputs : ServiceOutputs) : (succeed outputs).Reports :=
  ⟨fun _ => .inl rfl, nofun⟩

theorem refuse (args : ServiceArgs) : (refuse args).Reports :=
  ⟨nofun, nofun⟩

/-- An engine that fails may report any status, also that all went well. -/
theorem ofEngine (result : Except EngineStatus Unit) (outputs : ServiceOutputs) :
    (ofEngine result outputs).Reports := by
  cases result with
  | ok => exact succeed outputs
  | error status => exact ⟨nofun, nofun⟩

theorem ofImages {α : Type} (args : ServiceArgs) (result : Except ImageError α)
    (outputs : α → ServiceOutputs) : (ofImages args result outputs).Reports := by
  cases result with
  | ok a => exact succeed _
  | error e => exact refuse args

theorem forwardedResponse (answer : Answer) : (forwardedResponse answer).Reports := by
  by_cases hok : answer.code = .ok
  · refine ⟨fun _ => .inr (congrArg Status.kms hok), fun herror => ?_⟩
    rw [CallGate.forwardedResponse, if_pos hok] at herror
    cases herror
  · refine ⟨fun hsuccess => ?_, fun _ hstatus => hok (Status.kms.inj hstatus)⟩
    rw [CallGate.forwardedResponse, if_neg hok] at hsuccess
    cases hsuccess

theorem response (op : EngineOp) (reply : op.Reply) : (op.response reply).Reports := by
  cases op <;> exact ofEngine _ _

/-- A failure for which no reason is reported is given one before the caller sees it. -/
theorem explained {response : Response} (h : response.Reports) :
    (response.explained.result = .success →
        response.explained.status = .engine .ok ∨ response.explained.status = .kms .ok) ∧
      (response.explained.result = .error →
        response.explained.status ≠ .engine .ok ∧ response.explained.status ≠ .kms .ok) := by
  unfold Response.explained
  split
  · next hfailed =>
    refine ⟨fun hsuccess => ?_, fun _ => ⟨fun hstatus => ?_, fun hstatus => ?_⟩⟩
    · rw [hfailed.1] at hsuccess
      cases hsuccess
    · cases hstatus
    · cases hstatus
  · next hgiven =>
    exact ⟨h.success, fun herror => ⟨fun hstatus => hgiven ⟨herror, hstatus⟩, h.error herror⟩⟩

end Response.Reports

namespace CallGate

variable {P E F K : Type}

-- ═══════════════════════════════════════════════════════════════════════════
-- Services
-- ═══════════════════════════════════════════════════════════════════════════

section Services

variable [Platform P] [EngineServices E] [Flash F] [KmsEntry K] {gate : CallGate P E F K}
  {call : GateCall} {service : UInt32} {args : ServiceArgs}
  {outcome : Outcome (CallGate P E F K) GateEvent SystemReset Response}

/-- Every service that returns reports what its result is. -/
theorem Effect.reports (h : gate.Effect service args outcome) {response : Response}
    (hreturned : outcome.answer = .ok response) : response.Reports := by
  cases h with
  | reset => cases hreturned
  | refused =>
    obtain rfl := Except.ok.inj hreturned
    exact .refuse args
  | forwarded =>
    obtain rfl := Except.ok.inj hreturned
    exact .forwardedResponse _
  | engaged =>
    obtain rfl := Except.ok.inj hreturned
    exact .response _ _
  | imaged =>
    obtain rfl := Except.ok.inj hreturned
    exact .ofImages args _ _
  | commanded =>
    obtain rfl := Except.ok.inj hreturned
    exact .succeed _
  | locked =>
    obtain rfl := Except.ok.inj hreturned
    exact .ofEngine _ _
  | interruptEnded => cases hreturned

/-- No service enters or leaves protected execution. -/
theorem Effect.not_crosses (h : gate.Effect service args outcome) {event : GateEvent}
    (hmem : event ∈ outcome.journal) : ¬event.Crosses := by
  cases h with
  | reset =>
    obtain rfl := List.mem_singleton.mp hmem
    exact id
  | refused => cases hmem
  | forwarded =>
    obtain rfl := List.mem_singleton.mp hmem
    exact id
  | engaged =>
    obtain rfl := List.mem_singleton.mp hmem
    exact id
  | imaged =>
    obtain ⟨exchange, -, rfl⟩ := List.mem_map.mp hmem
    exact id
  | commanded _ hcommands =>
    obtain rfl := List.mem_singleton.mp hmem
    cases hcommands <;> exact id
  | locked =>
    simp only [List.mem_cons, List.not_mem_nil, or_false] at hmem
    rcases hmem with rfl | rfl <;> exact id
  | interruptEnded =>
    simp only [Outcome.after, resetting, List.mem_append, List.mem_singleton] at hmem
    rcases hmem with rfl | rfl <;> exact id

/-- The servicing of an interrupt ends with a reset. -/
theorem servedOutcome_exitInterrupt (hservice : call.service = ServiceId.exitInterrupt.word) :
    (gate.servedOutcome call).answer = .error .reset := by
  rw [servedOutcome, hservice]
  rfl

end Services

-- ═══════════════════════════════════════════════════════════════════════════
-- Calls that return
-- ═══════════════════════════════════════════════════════════════════════════

/-- How a call that returned with `response` left the core, and what it reported. -/
structure Restored [Platform P] (gate : CallGate P E F K) (call : GateCall)
    (outcome : Outcome (CallGate P E F K) GateEvent SystemReset Response) (response : Response) :
    Prop where
  /-- The call came from the code of the gate. -/
  caller : gate.memory.interfaceRom.Holds call.caller.toNat
  /-- The status word lies in RAM, with no byte in the enclave's. -/
  status : Span.LiesIn ⟨call.status, statusLength⟩ gate.memory.ram gate.memory.enclaveRam
  /-- The vector table is the one that the call found. -/
  table : Platform.vectorTable outcome.state.platform = Platform.vectorTable gate.platform
  /-- Protected execution was entered first and left last, each once, and left with the caller's
  interrupt mask. -/
  bracketed : ∃ between, outcome.journal = .platform ⟨.enterProtectedArea, ()⟩ ::
    (between ++ [.platform ⟨.exitProtectedArea call.primask, ()⟩]) ∧
      ∀ event ∈ between, ¬event.Crosses
  /-- A success comes with a status word that says so, unless an interrupt is being serviced. -/
  success : response.result = .success → response.status = .engine .ok ∨
    response.status = .engine .busy ∨ response.status = .kms .ok
  /-- A failure comes with a status word that says so, unless an interrupt is said to be over while
  none is being serviced. -/
  error : response.result = .error → response.status = .engine .ok ∨ response.status = .kms .ok →
    call.service = ServiceId.exitInterrupt.word ∧ gate.inInterrupt = false

section Table

variable [SteadyTable P] {gate : CallGate P E F K}

@[simp] theorem vectorTable_afterSet (gate : CallGate P E F K) (address : UInt64) :
    Platform.vectorTable (gate.afterPlatform (.setVectorTable address)).platform = address :=
  SteadyTable.vectorTable_set address gate.platform

theorem vectorTable_afterPlatform {op : PlatformOp} (h : ∀ address, op ≠ .setVectorTable address) :
    Platform.vectorTable (gate.afterPlatform op).platform = Platform.vectorTable gate.platform :=
  SteadyTable.vectorTable_other op gate.platform h

@[simp] theorem vectorTable_afterExit (gate : CallGate P E F K) (primask : UInt32) :
    Platform.vectorTable (gate.afterPlatform (.exitProtectedArea primask)).platform =
      Platform.vectorTable gate.platform :=
  vectorTable_afterPlatform fun _ h => by cases h

@[simp] theorem vectorTable_entered (gate : CallGate P E F K) :
    Platform.vectorTable gate.entered.platform = Platform.vectorTable gate.platform :=
  vectorTable_afterPlatform fun _ h => by cases h

end Table

section Callers

variable {gate : CallGate P E F K} {call : GateCall}

theorem AcceptsCaller.holds (h : gate.AcceptsCaller call) :
    gate.memory.interfaceRom.Holds call.caller.toNat := by
  obtain ⟨-, -, hfirst, hlast⟩ := Region.contains_eq_true.mp h.1
  exact ⟨hfirst, by omega⟩

theorem AcceptsCaller.liesIn (h : gate.AcceptsCaller call) :
    Span.LiesIn ⟨call.status, statusLength⟩ gate.memory.ram gate.memory.enclaveRam :=
  Span.liesIn_of_inCallerRam h.2

end Callers

section Restored

variable [SteadyTable P] {gate : CallGate P E F K} {call : GateCall} {response : Response}

/-- A call that is answered without its service. -/
theorem restored_of_answered (hcaller : gate.AcceptsCaller call)
    (hguard : gate.interruptResponse? call = some response) :
    gate.Restored call ⟨.ok response, gate.entered.afterPlatform (.exitProtectedArea call.primask),
      [gate.platformEvent .enterProtectedArea,
        gate.entered.platformEvent (.exitProtectedArea call.primask)]⟩ response := by
  have hreport : response.result = .success ∧ response.status = .engine .busy ∨
      response.result = .error ∧ call.service = ServiceId.exitInterrupt.word ∧
        gate.inInterrupt = false := by
    unfold interruptResponse? at hguard
    split at hguard
    · next hexit =>
      split at hguard
      · next hidle =>
        obtain rfl := Option.some.inj hguard
        exact .inr ⟨rfl, hexit, by simpa using hidle⟩
      · split at hguard
        · obtain rfl := Option.some.inj hguard
          exact .inl ⟨rfl, rfl⟩
        · cases hguard
    · split at hguard
      · obtain rfl := Option.some.inj hguard
        exact .inl ⟨rfl, rfl⟩
      · cases hguard
  refine ⟨hcaller.holds, hcaller.liesIn, by simp, ⟨[], rfl, fun _ h => by cases h⟩,
    fun hsuccess => ?_, fun herror _ => ?_⟩
  · rcases hreport with ⟨-, hbusy⟩ | ⟨hfailed, -⟩
    · exact .inr (.inl hbusy)
    · rw [hsuccess] at hfailed
      cases hfailed
  · rcases hreport with ⟨hdone, -⟩ | ⟨-, hexit⟩
    · rw [herror] at hdone
      cases hdone
    · exact hexit

variable [EngineServices E] [Flash F] [KmsEntry K]

/-- A call whose service was run. The table is put back whatever the service left there. -/
theorem restored_of_served (hcaller : gate.AcceptsCaller call)
    {inner : Outcome (CallGate P E F K) GateEvent SystemReset Response}
    (heffect : gate.prepared.Effect call.service call.args inner)
    (hreturned : (gate.framed call inner).answer = .ok response) :
    gate.Restored call (gate.framed call inner) response := by
  rcases inner with ⟨answer, served, journal⟩
  cases answer with
  | error e => cases hreturned
  | ok reported =>
    obtain rfl := Except.ok.inj hreturned
    obtain ⟨hsuccess, herror⟩ := (heffect.reports rfl).explained
    refine ⟨hcaller.holds, hcaller.liesIn, by simp [framed],
      ⟨gate.entered.platformEvent gate.tableOp :: (journal ++ [served.platformEvent
        (.setVectorTable (Platform.vectorTable gate.entered.platform))]), ?_, fun event hmem => ?_⟩,
      fun h => (hsuccess h).imp id .inr, fun h hstatus => ?_⟩
    · simp [framed, platformEvent]
    · simp only [List.mem_cons, List.mem_append, List.not_mem_nil, or_false] at hmem
      rcases hmem with rfl | hmem | rfl
      · exact id
      · exact heffect.not_crosses hmem
      · exact id
    · rcases hstatus with hengine | hkms
      · exact absurd hengine (herror h).1
      · exact absurd hkms (herror h).2

theorem outcomeOf_restored (hreturned : (gate.outcomeOf call).answer = .ok response) :
    gate.Restored call (gate.outcomeOf call) response := by
  have heffect := gate.call_effect call
  generalize gate.outcomeOf call = outcome at heffect hreturned
  cases heffect with
  | rejected => cases hreturned
  | answered hcaller hguard =>
    obtain rfl := Except.ok.inj hreturned
    exact restored_of_answered hcaller hguard
  | served hcaller =>
    exact restored_of_served hcaller (gate.servedOutcome_effect call) hreturned

end Restored

-- ═══════════════════════════════════════════════════════════════════════════
-- Calls that never return
-- ═══════════════════════════════════════════════════════════════════════════

/-- A call that the gate never serves. -/
inductive Trespasses (gate : CallGate P E F K) (call : GateCall) : Prop
  /-- It comes from outside of the gate's code, or has its status word elsewhere than in RAM that is
  not the enclave's. -/
  | caller (h : ¬gate.AcceptsCaller call)
  /-- Its word stands neither for a request nor for a service. -/
  | service (hidle : gate.inInterrupt = false) (hkms : isKmsService call.service = false)
      (hword : (Numbered.ofWord? call.service : Option ServiceId) = none)

/-- The system is reset, and nothing but the core was asked for anything. -/
structure ResetsAlone (gate : CallGate P E F K)
    (outcome : Outcome (CallGate P E F K) GateEvent SystemReset Response) : Prop where
  answer : outcome.answer = .error .reset
  journal : ∀ event ∈ outcome.journal, ∃ exchange, event = .platform exchange
  state : outcome.state = { gate with platform := outcome.state.platform }

section Resets

variable [Platform P] [EngineServices E] [Flash F] [KmsEntry K] {gate : CallGate P E F K}
  {call : GateCall}

theorem Trespasses.resetsAlone (h : gate.Trespasses call) :
    gate.ResetsAlone (gate.outcomeOf call) := by
  have heffect := gate.call_effect call
  generalize gate.outcomeOf call = outcome at heffect
  cases heffect with
  | rejected =>
    refine ⟨rfl, fun event hmem => ?_, rfl⟩
    simp only [Outcome.after, resetting, List.mem_append, List.mem_singleton] at hmem
    rcases hmem with rfl | rfl <;> exact ⟨_, rfl⟩
  | answered hcaller hguard =>
    cases h with
    | caller hrejected => exact absurd hcaller hrejected
    | service hidle _ hword =>
      have hservice : call.service ≠ ServiceId.exitInterrupt.word := by
        intro heq
        rw [heq, ServiceId.ofWord?_word] at hword
        cases hword
      rw [interruptResponse?_of_idle hidle hservice] at hguard
      cases hguard
  | served hcaller =>
    cases h with
    | caller hrejected => exact absurd hcaller hrejected
    | service _ hkms hword =>
      have hinner : gate.servedOutcome call = gate.prepared.resetting := by
        refine (gate.servedOutcome_effect call).eq_resetting hkms fun id hopens => ?_
        rw [hopens.word] at hword
        cases hword
      rw [hinner]
      exact ⟨rfl, (framed_resetting gate call).2, rfl⟩

end Resets

-- ═══════════════════════════════════════════════════════════════════════════
-- While an interrupt is being serviced
-- ═══════════════════════════════════════════════════════════════════════════

/-- The gate `later`, while an interrupt is being serviced outside, is `gate` but for what the core
has done to itself; its vector table is the same. -/
structure Waits [Platform P] (gate later : CallGate P E F K) : Prop where
  state : later = { gate with platform := later.platform, inInterrupt := true }
  table : Platform.vectorTable later.platform = Platform.vectorTable gate.platform

section Waiting

variable [Platform P] {gate later : CallGate P E F K} {call : GateCall}

theorem waits_enterInterrupt (gate : CallGate P E F K) : gate.Waits gate.enterInterrupt :=
  ⟨rfl, rfl⟩

theorem Waits.enterInterrupt (h : gate.Waits later) : gate.Waits later.enterInterrupt := by
  rw [h.state]
  exact ⟨rfl, h.table⟩

/-- Only the end of the interrupt is let through to its service. -/
theorem interruptResponse?_of_inInterrupt (hbusy : gate.inInterrupt = true) :
    gate.interruptResponse? call = some ⟨.success, .engine .busy, call.args.untouched⟩ ∨
      gate.interruptResponse? call = none ∧ call.service = ServiceId.exitInterrupt.word := by
  unfold interruptResponse?
  rw [hbusy]
  by_cases hexit : call.service = ServiceId.exitInterrupt.word
  · cases hhandler : Platform.inHandlerMode gate.entered.platform with
    | false => exact .inl (if_pos hexit)
    | true => exact .inr ⟨if_pos hexit, hexit⟩
  · exact .inl (if_neg hexit)

end Waiting

section Interrupts

variable [SteadyTable P] [EngineServices E] [Flash F] [KmsEntry K] {gate found : CallGate P E F K}
  {call : GateCall} {response : Response}

/-- A call that returns while an interrupt is being serviced outside was told that the enclave is
busy. Nothing was touched but the core's protected execution. -/
structure TurnedAway (gate found : CallGate P E F K) (call : GateCall) : Prop where
  answer : (found.outcomeOf call).answer = .ok ⟨.success, .engine .busy, call.args.untouched⟩
  journal : (found.outcomeOf call).journal = [.platform ⟨.enterProtectedArea, ()⟩,
    .platform ⟨.exitProtectedArea call.primask, ()⟩]
  waits : gate.Waits (found.outcomeOf call).state

/-- What is let through does not return, so a call that returns is turned away. -/
theorem Waits.turnedAway (h : gate.Waits found)
    (hreturned : (found.outcomeOf call).answer = .ok response) : gate.TurnedAway found call := by
  have hbusy : found.inInterrupt = true := by rw [h.state]
  suffices houtcome : found.outcomeOf call = ⟨.ok ⟨.success, .engine .busy, call.args.untouched⟩,
      found.entered.afterPlatform (.exitProtectedArea call.primask),
      [found.platformEvent .enterProtectedArea,
        found.entered.platformEvent (.exitProtectedArea call.primask)]⟩ by
    refine ⟨by rw [houtcome], by rw [houtcome]; rfl, ?_⟩
    rw [houtcome]
    refine ⟨?_, by simp [h.table]⟩
    rw [h.state]
    rfl
  have heffect := found.call_effect call
  generalize found.outcomeOf call = outcome at heffect hreturned
  cases heffect with
  | rejected => cases hreturned
  | answered _ hguard =>
    rcases interruptResponse?_of_inInterrupt hbusy with hanswer | ⟨hnone, -⟩
    · rw [hguard] at hanswer
      rw [Option.some.inj hanswer]
    · rw [hguard] at hnone
      cases hnone
  | served _ hguard =>
    rcases interruptResponse?_of_inInterrupt hbusy with hanswer | ⟨-, hexit⟩
    · rw [hguard] at hanswer
      cases hanswer
    · rw [answer_framed, servedOutcome_exitInterrupt hexit] at hreturned
      cases hreturned

/-- While an interrupt is being serviced every call of the gate's code returns, but for the end of
the interrupt. -/
theorem returns_of_inInterrupt (hbusy : gate.inInterrupt = true) (hcaller : gate.AcceptsCaller call)
    (hservice : call.service ≠ ServiceId.exitInterrupt.word) :
    ∃ response, (gate.outcomeOf call).answer = .ok response := by
  have heffect := gate.call_effect call
  generalize gate.outcomeOf call = outcome at heffect
  cases heffect with
  | rejected hrejected => exact absurd hcaller hrejected
  | answered => exact ⟨_, rfl⟩
  | served _ hguard =>
    rcases interruptResponse?_of_inInterrupt hbusy with hanswer | ⟨-, hexit⟩
    · rw [hguard] at hanswer
      cases hanswer
    · exact absurd hexit hservice

/-- The calls that return among steps in a row, each with the gate it found; nothing comes after a
reset. -/
def returns (gate : CallGate P E F K) : List GateStep → List (CallGate P E F K × GateCall)
  | [] => []
  | .interrupt :: steps => gate.enterInterrupt.returns steps
  | .call call :: steps =>
    match (gate.outcomeOf call).answer with
    | .ok _ => (gate, call) :: (gate.outcomeOf call).state.returns steps
    | .error _ => []

/-- By induction on the steps: the gate goes on waiting. -/
theorem Waits.turnedAway_of_returns {steps : List GateStep} (h : gate.Waits found)
    {later : CallGate P E F K} (hmem : (later, call) ∈ found.returns steps) :
    gate.TurnedAway later call := by
  induction steps generalizing found with
  | nil => cases hmem
  | cons step steps ih =>
    cases step with
    | interrupt => exact ih h.enterInterrupt hmem
    | call first =>
      rw [returns] at hmem
      split at hmem
      · next hreturned =>
        have haway := h.turnedAway hreturned
        rcases List.mem_cons.mp hmem with heq | hmem
        · obtain ⟨rfl, rfl⟩ := Prod.mk.inj heq
          exact haway
        · exact ih haway.waits hmem
      · cases hmem

end Interrupts

-- ═══════════════════════════════════════════════════════════════════════════
-- The law of the gate
-- ═══════════════════════════════════════════════════════════════════════════

/-- Every call that returns leaves the core as it found it and reports what happened. What the gate
never serves resets the system with no exchange but with the core. While an interrupt is being
serviced the calls of its code return, but for the end of the interrupt, and every call that returns
is turned away. -/
theorem calls_are_coherent [SteadyTable P] [EngineServices E] [Flash F] [KmsEntry K]
    (gate : CallGate P E F K) :
    (∀ call response, (gate.outcomeOf call).answer = .ok response →
        gate.Restored call (gate.outcomeOf call) response) ∧
      (∀ call, gate.Trespasses call → gate.ResetsAlone (gate.outcomeOf call)) ∧
      (∀ call, gate.inInterrupt = true → gate.AcceptsCaller call →
        call.service ≠ ServiceId.exitInterrupt.word →
          ∃ response, (gate.outcomeOf call).answer = .ok response) ∧
      ∀ steps found call, (found, call) ∈ gate.enterInterrupt.returns steps →
        gate.TurnedAway found call :=
  ⟨fun _ _ => outcomeOf_restored, fun _ => Trespasses.resetsAlone,
    fun _ => returns_of_inInterrupt,
    fun _ _ _ => (waits_enterInterrupt gate).turnedAway_of_returns⟩

/-- The open gate sets the clock on the enclave's table and returns on the caller's, resets at a
word without a service, and sets no clock while an interrupt is being serviced. -/
theorem open_gate_is_coherent :
    Platform.vectorTable (openGate.outcomeOf (callOf .init .empty)).state.platform =
        Platform.vectorTable openGate.platform ∧
      (openGate.outcomeOf { callOf .init .empty with service := 0xFFFFFFFF }).answer =
        .error .reset ∧
      (openGate.enterInterrupt.outcomeOf (callOf .init .empty)).journal =
        [.platform ⟨.enterProtectedArea, ()⟩, .platform ⟨.exitProtectedArea 0, ()⟩] := by
  obtain ⟨hrestored, hresets, -, haway⟩ := calls_are_coherent openGate
  refine ⟨(hrestored (callOf .init .empty) ⟨.success, .engine .ok, .nothing⟩ ?_).table,
    (hresets _ (.service rfl rfl rfl)).answer,
    (haway [.call (callOf .init .empty)] _ _ (List.mem_singleton_self _)).journal⟩
  decide +kernel

end CallGate

end KeyEnclave
