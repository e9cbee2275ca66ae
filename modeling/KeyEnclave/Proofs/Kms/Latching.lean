import KeyEnclave.Proofs.Kms.Sessions
import KeyEnclave.Provider.Software
import KeyEnclave.Simulation.Machine
import KeyEnclave.Simulation.Storage

/-!
# Latched keys

A key is latched exactly by the requests that say so, and for good. From then on no collaborator is
handed the key, its object can not be reached, and an operation that had begun with it ends with the
next step.

## Main definitions

* `Served.Latches` — a served call latched a key.
* `Kms.Withholds` — what does not happen to a key when a call is served.

## Main results

* `Kms.isKeyLocked_after` — the latched keys after a run.
* `Kms.withholds_of_isKeyLocked` — a well-formed service withholds a latched key from every call.
* `Kms.latched_key_stays_withheld` — both, for every run of a service that was configured.
-/

namespace KeyEnclave

namespace Latches

variable {handle : ObjectHandle}

theorem isKeyLocked_lockKeys (hhandle : handle.toNat < Limits.lockableKeys)
    (keys : List ObjectHandle) (latches : Latches) :
    (keys.foldl lockKey latches).isKeyLocked handle = true ↔
      latches.isKeyLocked handle = true ∨ handle ∈ keys := by
  induction keys generalizing latches with
  | nil => simp
  | cons key keys ih =>
    rw [List.foldl_cons, ih, isKeyLocked_lockKey, List.mem_cons, decide_eq_true hhandle,
      Bool.true_and, Bool.or_eq_true, beq_iff_eq, or_assoc, eq_comm (a := key)]

theorem isKeyLocked_lockFunctions (functions : List UInt32) (latches : Latches) :
    (functions.foldl lockFunction latches).isKeyLocked handle = latches.isKeyLocked handle := by
  induction functions generalizing latches with
  | nil => rfl
  | cons function functions ih => rw [List.foldl_cons, ih, isKeyLocked_lockFunction]

end Latches

/-- A call to latch keys was answered with `ok`, and a key was among them. -/
def Served.Latches (served : Served) (handle : ObjectHandle) : Prop :=
  ∃ keys, served.call.request = .lockKeys keys ∧ served.answer.code = .ok ∧ handle ∈ keys.value

/-- The object that a request reads, changes or destroys. -/
def Request.accessed? : Request → Option ObjectHandle
  | .destroyObject _ object | .getAttributeValue _ object _ | .setAttributeValue _ object _ =>
    some object
  | _ => none

/-- The object that a collaborator is handed in an exchange, as what it is to work with. -/
def KmsEvent.handed? : KmsEvent → Option ObjectHandle
  | .provider exchange => exchange.1.key?.map ObjectView.handle
  | .token exchange => exchange.1.object?
  | .nvm _ => none

namespace Request

variable {request : Request} {state : SessionState} {op : ProviderOp}

theorem key?_of_step (h : request.step? = some (state, op)) : op.key? = none := by
  cases request <;> cases h <;> rfl

theorem object?_of_step (h : request.step? = some (state, op))
    {external : SessionHandle → UInt32} {tokenOp : TokenOp}
    (hop : request.tokenOp? external = some tokenOp) : tokenOp.object? = none := by
  cases request <;> cases h <;> cases hop <;> rfl

theorem isKeyed_of_step (h : request.step? = some (state, op)) (hstate : state ≠ .digesting) :
    state.isKeyed = true := by
  cases request <;> cases h <;> first | rfl | exact absurd rfl hstate

end Request

namespace Kms

open KeyEnclave.Action

variable {C T N : Type} {kms : Kms C T N} {request : Request} {handle : ObjectHandle}
  {layout : ObjectLayout} {embedded : List Bytes}

-- ═══════════════════════════════════════════════════════════════════════════
-- Keys in exchanges and checks
-- ═══════════════════════════════════════════════════════════════════════════

@[simp] theorem handed_nvm (journal : List NvmExchange) :
    (journal.map KmsEvent.nvm).filterMap KmsEvent.handed? = [] := by
  induction journal with
  | nil => rfl
  | cons exchange journal ih => exact ih

@[simp] theorem handed_conclusion (session : SessionHandle) (isEnded : Bool) :
    (conclusion session isEnded).filterMap KmsEvent.handed? = [] := by
  cases isEnded <;> rfl

theorem handed_told [ExternalToken T] (kms : Kms C T N) (isTold : Bool) {op : TokenOp}
    (hop : op.object? = none) :
    (kms.toldEvents isTold op).filterMap KmsEvent.handed? = [] := by
  cases isTold with
  | false => rfl
  | true =>
    have hevent : (kms.tokenEvent op).handed? = none := hop
    simp [toldEvents, hevent]

/-- An object that can be seen carries the handle it is found under, which is not latched. -/
theorem unlatched_of_lookup (hsound : kms.IsSound layout embedded) {key : ObjectHandle}
    {object : ObjectView} (h : kms.lookup key = some object) :
    kms.latches.isKeyLocked object.handle = false := by
  unfold lookup at h
  split at h
  · cases h
  · next hlatch =>
    rw [hsound.store.handle_of_get? h]
    exact Bool.eq_false_iff.mpr hlatch

theorem Begins.unlatched (hsound : kms.IsSound layout embedded) {session : SessionHandle}
    {state : SessionState} {key : ObjectHandle} {op : ProviderOp}
    (h : kms.Begins request session state key op) {object : ObjectView}
    (hobject : op.key? = some object) : kms.latches.isKeyLocked object.handle = false := by
  cases h with
  | digest => cases hobject
  | encryption hkey | decryption hkey | signature hkey | verification hkey =>
    obtain rfl := Option.some.inj hobject
    exact unlatched_of_lookup hsound hkey

theorem Makes.unlatched (hsound : kms.IsSound layout embedded) {op : ProviderOp}
    (h : kms.Makes request op) {object : ObjectView} (hobject : op.key? = some object) :
    kms.latches.isKeyLocked object.handle = false := by
  cases h with
  | pair => cases hobject
  | derived length hkey =>
    obtain rfl := Option.some.inj hobject
    exact unlatched_of_lookup hsound hkey

theorem run_operationKey_eq [CryptoProvider C] (kms : Kms C T N) (session : SessionHandle)
    (state : SessionState) :
    (operationKey session state : Step C T N ObjectHandle).run kms =
      match kms.requireState session state with
      | .error code => ⟨.error code, kms, []⟩
      | .ok record =>
        if record.key ≠ noKey ∧ kms.latches.isKeyLocked record.key = true then
          ⟨.error .keyHandleInvalid, kms.ended session, [releaseEvent session]⟩
        else ⟨.ok record.key, kms, []⟩ := by
  show Ends (operationKey session state) kms fun outcome => outcome = _
  refine Ends.bind_get (Ends.bind_ofExcept (fun code h => ?_) fun record h => ?_)
  · rw [h]
  · rw [h]
    refine Ends.ite (fun hlatch => ?_) fun hlatch => ?_
    · exact bind_conclude (Ends.bind_throw (if_pos hlatch).symm)
    · exact Ends.pure (if_neg hlatch).symm

theorem run_operationKey [CryptoProvider C] {session : SessionHandle} {state : SessionState}
    {record : Session}
    (hstate : kms.requireState session state = .ok record) (hkey : record.key ≠ noKey)
    (hlatch : kms.latches.isKeyLocked record.key = true) :
    (operationKey session state : Step C T N ObjectHandle).run kms =
      ⟨.error .keyHandleInvalid, kms.ended session, [releaseEvent session]⟩ := by
  rw [run_operationKey_eq, hstate]
  exact if_pos ⟨hkey, hlatch⟩

variable [CryptoProvider C] [ExternalToken T] [NvmStorage N] {after : Kms C T N}
  {events : List KmsEvent}

-- ═══════════════════════════════════════════════════════════════════════════
-- Which keys are latched
-- ═══════════════════════════════════════════════════════════════════════════

/-- A request that sets latches is answered with `ok` if it sets them, and otherwise sets none. -/
theorem dispatch_latching (p : Prop) [Decidable p] (latch : Latches → Latches)
    (hserve : (serve request : Step C T N Answer) = codeOnly do
      let kms ← get
      Action.ofExcept kms.requireUp
      if p then throw .argumentsBad
      set { kms with latches := latch kms.latches }
      pure .ok) (kms : Kms C T N) (word : UInt32) :
    (kms.dispatch word request).1.code = .ok ∧
        (kms.dispatch word request).2.1.latches = latch kms.latches ∨
      (kms.dispatch word request).1.code ≠ .ok ∧
        (kms.dispatch word request).2.1.latches = kms.latches := by
  cases hadmitted : kms.admitted word request with
  | error code =>
    rw [dispatch_of_refused hadmitted]
    exact .inr ⟨ne_ok_of_refused hadmitted, rfl⟩
  | ok u =>
    refine dispatch_ends (fun answer after _ =>
      answer.code = .ok ∧ after.latches = _ ∨ answer.code ≠ .ok ∧ after.latches = _) hadmitted ?_
    rw [hserve]
    refine codeOnly_ends (Ends.bind_get (Ends.bind_ofExcept (fun code hdown => ?_) fun _ _ => ?_))
    · refine .inr ⟨?_, rfl⟩
      rintro rfl
      unfold requireUp at hdown
      split at hdown <;> cases hdown
    · exact Ends.failing (fun _ => .inr ⟨(fun h => by cases h), rfl⟩) fun _ =>
        Ends.bind_set (Ends.pure (.inl ⟨rfl, rfl⟩))

theorem dispatch_lockKeys (kms : Kms C T N) (word : UInt32) (keys : Placed (List ObjectHandle)) :
    (kms.dispatch word (.lockKeys keys)).1.code = .ok ∧
        (kms.dispatch word (.lockKeys keys)).2.1.latches =
          keys.value.foldl Latches.lockKey kms.latches ∨
      (kms.dispatch word (.lockKeys keys)).1.code ≠ .ok ∧
        (kms.dispatch word (.lockKeys keys)).2.1.latches = kms.latches :=
  dispatch_latching (keys.value = []) (keys.value.foldl Latches.lockKey) rfl kms word

/-- A request leaves the latches as they are, or sets those of keys or of functions. -/
theorem Effect.latches_cases (h : kms.Effect request after events) :
    after.latches = kms.latches ∨
      (∃ keys, request = .lockKeys keys ∧
        after.latches = keys.value.foldl Latches.lockKey kms.latches) ∨
      ∃ functions, request = .lockServices functions ∧
        after.latches = (functions.value.map FunctionId.withoutOrigin).foldl Latches.lockFunction
          kms.latches := by
  cases h with
  | latchedKeys => exact .inr (.inl ⟨_, rfl, rfl⟩)
  | latchedServices => exact .inr (.inr ⟨_, rfl, rfl⟩)
  | raised hup isTold | cameUp hdown isTold | stayedDown hdown isTold | lowered hnesting isTold
  | wentDown hnesting isTold => exact .inl (told_latches kms isTold _)
  | closed hsession isTold => exact .inl (told_latches kms isTold _)
  | stepped => exact .inl (concluded_latches _ _ _)
  | steppedOnToken =>
    left
    rw [concluded_latches, told_latches]
  | _ => exact .inl rfl

/-- No other request latches a key, or takes a latch back. -/
theorem Effect.isKeyLocked (h : kms.Effect request after events)
    (hrequest : ∀ keys, request ≠ .lockKeys keys) :
    after.latches.isKeyLocked handle = kms.latches.isKeyLocked handle := by
  rcases h.latches_cases with hsame | ⟨keys, hkeys, -⟩ | ⟨functions, -, hafter⟩
  · rw [hsame]
  · exact absurd hkeys (hrequest keys)
  · rw [hafter]
    exact Latches.isKeyLocked_lockFunctions _ _

theorem isKeyLocked_next (hhandle : handle.toNat < Limits.lockableKeys) (kms : Kms C T N)
    (call : Call) :
    (kms.next call).latches.isKeyLocked handle = true ↔
      kms.latches.isKeyLocked handle = true ∨ (kms.served call).Latches handle := by
  by_cases hrequest : ∃ keys, call.request = .lockKeys keys
  · obtain ⟨keys, hkeys⟩ := hrequest
    have hlatches : (kms.served call).Latches handle ↔
        (kms.answerTo call).code = .ok ∧ handle ∈ keys.value := by
      constructor
      · rintro ⟨keys', hkeys', hcode, hmem⟩
        obtain rfl : keys' = keys := by simpa [served, hkeys] using hkeys'.symm
        exact ⟨hcode, hmem⟩
      · rintro ⟨hcode, hmem⟩
        exact ⟨keys, hkeys, hcode, hmem⟩
    rw [hlatches]
    unfold next answerTo
    rw [hkeys]
    rcases dispatch_lockKeys kms call.word keys with ⟨hcode, hafter⟩ | ⟨hcode, hafter⟩
    · rw [hafter, Latches.isKeyLocked_lockKeys hhandle]
      simp [hcode]
    · rw [hafter]
      simp [hcode]
  · have hnone : ¬(kms.served call).Latches handle := fun ⟨keys, hkeys, _⟩ => hrequest ⟨keys, hkeys⟩
    rw [(kms.next_effect call).isKeyLocked fun keys hkeys => hrequest ⟨keys, hkeys⟩]
    simp [hnone]

omit [CryptoProvider C] [ExternalToken T] [NvmStorage N] in
/-- A service that was configured starts with every latch open. -/
theorem isKeyLocked_of_new {config : KmsConfig} {crypto : C} {token : T} {nvm : N}
    {start : Kms C T N} (hnew : Kms.new config crypto token nvm = .ok start) :
    start.latches.isKeyLocked handle = false := by
  obtain ⟨-, rfl⟩ := new_eq_ok hnew
  exact BitVec.getLsbD_zero

/-- A key is latched after a run if it was before, or if a request of the run latched it. -/
theorem isKeyLocked_after (hhandle : handle.toNat < Limits.lockableKeys) (kms : Kms C T N)
    (calls : List Call) :
    (kms.after calls).latches.isKeyLocked handle = true ↔
      kms.latches.isKeyLocked handle = true ∨
        ∃ served ∈ kms.history calls, served.Latches handle := by
  induction calls generalizing kms with
  | nil => simp [history]
  | cons call calls ih =>
    rw [after_cons, ih, isKeyLocked_next hhandle]
    simp [history, or_assoc]

-- ═══════════════════════════════════════════════════════════════════════════
-- What collaborators are handed
-- ═══════════════════════════════════════════════════════════════════════════

/-- No collaborator is handed a latched key. -/
theorem Effect.handed_unlatched (hsound : kms.IsSound layout embedded)
    (h : kms.Effect request after events) :
    ∀ handle ∈ events.filterMap KmsEvent.handed?, kms.latches.isKeyLocked handle = false := by
  have hnone {events : List KmsEvent} (hevents : events.filterMap KmsEvent.handed? = []) :
      ∀ handle ∈ events.filterMap KmsEvent.handed?, kms.latches.isKeyLocked handle = false := by
    rw [hevents]
    exact fun _ hmem => by cases hmem
  have hprovider {op : ProviderOp} {rest : List KmsEvent}
      (hop : ∀ object, op.key? = some object → kms.latches.isKeyLocked object.handle = false)
      (hrest : rest.filterMap KmsEvent.handed? = []) :
      ∀ handle ∈ (kms.providerEvent op :: rest).filterMap KmsEvent.handed?,
        kms.latches.isKeyLocked handle = false := by
    intro handle hmem
    obtain ⟨event, hevent, hhanded⟩ := List.mem_filterMap.mp hmem
    cases hevent with
    | head =>
      obtain ⟨object, hobject, rfl⟩ := Option.map_eq_some_iff.mp hhanded
      exact hop object hobject
    | tail _ hevent =>
      have hmem := List.mem_filterMap.mpr ⟨event, hevent, hhanded⟩
      rw [hrest] at hmem
      cases hmem
  have htoken {op : TokenOp}
      (hop : ∀ object, op.object? = some object → kms.latches.isKeyLocked object = false) :
      ∀ handle ∈ [kms.tokenEvent op].filterMap KmsEvent.handed?,
        kms.latches.isKeyLocked handle = false := by
    intro handle hmem
    obtain ⟨event, hevent, hhanded⟩ := List.mem_filterMap.mp hmem
    obtain rfl := List.mem_singleton.mp hevent
    exact hop handle hhanded
  cases h with
  | nothing | opened | searchBegun | paged | searchEnded | latchedKeys | latchedServices =>
    exact hnone rfl
  | asked op _ _ _ hobject => exact htoken hobject
  | raised hup isTold | lowered hnesting isTold => exact hnone (handed_told kms isTold rfl)
  | cameUp hdown isTold | stayedDown hdown isTold =>
    exact hnone (by rw [List.filterMap_append, handed_told kms isTold rfl, handed_nvm]; rfl)
  | wentDown hnesting isTold =>
    exact hnone (by rw [List.filterMap_append, handed_told kms isTold rfl]; rfl)
  | openedOnToken => exact htoken fun _ h => by cases h
  | closed hsession isTold =>
    exact hnone (by rw [List.filterMap_append, handed_told kms isTold rfl]; rfl)
  | began hbegins | notBegun hbegins =>
    exact hprovider (fun _ hobject => hbegins.unlatched hsound hobject) rfl
  | beganOnToken hbegins _ _ hlatch =>
    refine htoken fun object hobject => ?_
    cases hbegins with
    | signature | verification =>
      obtain rfl := Option.some.inj hobject
      exact hlatch
  | stepLatched => exact hnone rfl
  | stepped op hstep =>
    refine hprovider (fun object hobject => ?_) (handed_conclusion _ _)
    rw [Request.key?_of_step hstep] at hobject
    cases hobject
  | steppedOnToken hstep _ hop _ _ _ isTold isEnded =>
    exact hnone (by
      rw [List.filterMap_append, handed_told kms isTold (Request.object?_of_step hstep hop),
        handed_conclusion]
      rfl)
  | stored | installed => exact hnone (handed_nvm _)
  | made hmakes => exact hprovider (fun _ hobject => hmakes.unlatched hsound hobject) (handed_nvm _)

-- ═══════════════════════════════════════════════════════════════════════════
-- Operations that had begun
-- ═══════════════════════════════════════════════════════════════════════════

/-- A step of an operation whose key was latched since does not get to the provider or the token,
whether it is refused or ends the operation. -/
theorem Effect.events_of_latched_step (hsound : kms.IsSound layout embedded)
    (h : kms.Effect request after events) {session : SessionHandle} {state : SessionState}
    {op : ProviderOp} {record : Session} (hstep : request.step? = some (state, op))
    (hkeyed : state ≠ .digesting) (hnamed : request.session? = some session)
    (hget : kms.sessions.sessions.get? session = some record)
    (hlatch : kms.latches.isKeyLocked record.key = true) :
    ∀ event ∈ events, event = releaseEvent session := by
  have hlatched {state' : SessionState} {op' : ProviderOp} {session' : SessionHandle}
      {record' : Session} (hstep' : request.step? = some (state', op'))
      (hnamed' : request.session? = some session')
      (hstate' : kms.requireState session' state' = .ok record') : ¬kms.IsOpen record'.key := by
    obtain ⟨rfl, -⟩ := Prod.mk.inj (Option.some.inj (hstep.symm.trans hstep'))
    obtain rfl := Option.some.inj (hnamed.symm.trans hnamed')
    obtain ⟨hsession', hstate'⟩ := requireState_eq_ok.mp hstate'
    obtain rfl := Option.some.inj (hget.symm.trans (requireSession_eq_ok.mp hsession').2)
    rintro (hnokey | hopen)
    · have hstate := Request.isKeyed_of_step hstep hkeyed
      rw [← hstate'] at hstate
      exact (hsound.session session record hget).key_ne.mpr hstate hnokey
    · rw [hlatch] at hopen
      cases hopen
  cases h with
  | nothing => exact fun _ h => by cases h
  | asked op' hop hstep' =>
    rw [hstep] at hstep'
    cases hstep'
  | stepLatched hstep' hnamed' =>
    obtain rfl := Option.some.inj (hnamed.symm.trans hnamed')
    exact fun _ h => List.mem_singleton.mp h
  | stepped op' hstep' hnamed' hstate' hopen =>
    obtain ⟨rfl, rfl⟩ := Prod.mk.inj (Option.some.inj (hstep.symm.trans hstep'))
    exact absurd (hopen hkeyed) (hlatched hstep' hnamed' hstate')
  | steppedOnToken hstep' hnamed' _ hstate' hopen =>
    exact absurd hopen (hlatched hstep' hnamed' hstate')
  | began hbegins | notBegun hbegins => cases hbegins <;> cases hstep
  | beganOnToken hbegins => cases hbegins <;> cases hstep
  | stored hrequest => cases hrequest <;> cases hstep
  | made hmakes => cases hmakes <;> cases hstep
  | _ => cases hstep

/-- A step of an operation whose key was latched since ends the operation. -/
theorem run_latched_step {session : SessionHandle} {state : SessionState} {op : ProviderOp}
    {record : Session} (hstep : request.step? = some (state, op)) (hkeyed : state ≠ .digesting)
    (hnamed : request.session? = some session)
    (hstate : kms.requireState session state = .ok record) (hkey : record.key ≠ noKey)
    (hlatch : kms.latches.isKeyLocked record.key = true) :
    (serve request : Step C T N Answer).run kms =
      ⟨.error .keyHandleInvalid, kms.ended session, [releaseEvent session]⟩ := by
  have hrun := run_operationKey hstate hkey hlatch
  have hbind {α : Type} {next : ObjectHandle → Step C T N α} :
      (operationKey session state >>= next).run kms =
        ⟨.error .keyHandleInvalid, kms.ended session, [releaseEvent session]⟩ := by
    rw [run_bind, hrun]
  cases request with
  | encrypt | encryptUpdate | encryptFinal | decrypt | decryptUpdate | decryptFinal | sign =>
    cases hstep
    cases hnamed
    exact hbind
  | verify =>
    cases hstep
    cases hnamed
    show Ends (codeOnly (Kms.verify _ _ _)) kms fun outcome => outcome = _
    refine codeOnly_ends ?_
    unfold Ends Kms.verify
    rw [hbind]
    rfl
  | digest | digestUpdate | digestFinal =>
    cases hstep
    exact absurd rfl hkeyed
  | _ => cases hstep

-- ═══════════════════════════════════════════════════════════════════════════
-- Latched keys are withheld
-- ═══════════════════════════════════════════════════════════════════════════

/-- What does not happen to a key when a call is served, and how a request for it is refused. -/
structure Withholds (kms : Kms C T N) (handle : ObjectHandle) (call : Call) : Prop where
  /-- The key stays latched. -/
  latched : (kms.next call).latches.isKeyLocked handle = true
  /-- The provider is not handed the object of the key. -/
  provider : ∀ exchange, .provider exchange ∈ kms.eventsOf call →
    ∀ object, exchange.1.key? = some object →
      object.handle ≠ handle ∧ kms.store.get? handle ≠ some object
  /-- The token is not handed the key. -/
  token : ∀ exchange, .token exchange ∈ kms.eventsOf call → exchange.1.object? ≠ some handle
  /-- The object of the key can not be reached. -/
  access : call.request.accessed? = some handle → kms.Accepts call → ∀ session record,
    call.request.session? = some session → kms.requireSession session = .ok record →
      (kms.answerTo call).code = .objectHandleInvalid
  /-- No step of an operation with the key gets to the provider or the token. -/
  step : ∀ state op session record, call.request.step? = some (state, op) → state ≠ .digesting →
    call.request.session? = some session → kms.sessions.sessions.get? session = some record →
      record.key = handle → ∀ event ∈ kms.eventsOf call, event = releaseEvent session
  /-- A step in the state of such an operation ends the operation. -/
  ending : ∀ state op session record, call.request.step? = some (state, op) → state ≠ .digesting →
    call.request.session? = some session → kms.requireState session state = .ok record →
      record.key = handle → kms.Accepts call →
        (kms.answerTo call).code = .keyHandleInvalid ∧ kms.next call = kms.ended session ∧
          (kms.next call).sessions.sessions.get? session = some record.reset ∧
          kms.eventsOf call = [releaseEvent session]

/-- The object of a latched key can not be reached by any request. -/
theorem code_of_accessed {call : Call} (haccessed : call.request.accessed? = some handle)
    (haccepts : kms.Accepts call) {session : SessionHandle} {record : Session}
    (hnamed : call.request.session? = some session)
    (hsession : kms.requireSession session = .ok record)
    (hlatch : kms.latches.isKeyLocked handle = true) :
    (kms.answerTo call).code = .objectHandleInvalid := by
  have hchecked {β : Type} {next : Session → Step C T N β}
      {post : Outcome (Kms C T N) KmsEvent ReturnCode β → Prop}
      (h : (next record).Ends kms post) :
      (Action.ofExcept (kms.requireSession session) >>= next).Ends kms post := by
    rw [hsession]
    exact h
  refine dispatch_ends (fun answer _ _ => answer.code = _) haccepts.admitted ?_
  cases hrequest : call.request with
  | destroyObject | setAttributeValue =>
    rw [hrequest] at haccessed hnamed
    cases haccessed
    cases hnamed
    exact codeOnly_ends (Ends.bind_get (hchecked (Ends.failing (fun _ => rfl) (absurd hlatch))))
  | getAttributeValue =>
    rw [hrequest] at haccessed hnamed
    cases haccessed
    cases hnamed
    exact Ends.bind_get (hchecked (Ends.failing (fun _ => rfl) (absurd hlatch)))
  | _ =>
    rw [hrequest] at haccessed
    cases haccessed

/-- A well-formed service withholds a latched key from every call. -/
theorem withholds_of_isKeyLocked (hsound : kms.IsSound layout embedded)
    (hhandle : handle.toNat < Limits.lockableKeys)
    (hlatch : kms.latches.isKeyLocked handle = true) (call : Call) :
    kms.Withholds handle call := by
  have heffect := kms.next_effect call
  have hhanded : ∀ event ∈ kms.eventsOf call, event.handed? ≠ some handle := by
    intro event hmem hevent
    have hopen := heffect.handed_unlatched hsound handle
      (List.mem_filterMap.mpr ⟨event, hmem, hevent⟩)
    rw [hlatch] at hopen
    cases hopen
  constructor
  case latched => exact (isKeyLocked_next hhandle kms call).mpr (.inl hlatch)
  case provider =>
    intro exchange hmem object hobject
    have hne : object.handle ≠ handle := by
      rintro rfl
      exact hhanded _ hmem (by rw [KmsEvent.handed?, hobject]; rfl)
    exact ⟨hne, fun hget => hne (hsound.store.handle_of_get? hget)⟩
  case token => exact fun exchange hmem => hhanded _ hmem
  case access =>
    exact fun haccessed haccepts session record hnamed hsession =>
      code_of_accessed haccessed haccepts hnamed hsession hlatch
  case step =>
    rintro state op session record hstep hkeyed hnamed hget rfl
    exact heffect.events_of_latched_step hsound hstep hkeyed hnamed hget hlatch
  case ending =>
    rintro state op session record hstep hkeyed hnamed hstate rfl haccepts
    obtain ⟨hsession, hrecord⟩ := requireState_eq_ok.mp hstate
    have hget := (requireSession_eq_ok.mp hsession).2
    have hkey : record.key ≠ noKey := by
      refine (hsound.session session record hget).key_ne.mpr ?_
      rw [hrecord]
      exact Request.isKeyed_of_step hstep hkeyed
    have hrun := run_latched_step hstep hkeyed hnamed hstate hkey hlatch
    have hnext : kms.next call = kms.ended session := by
      unfold next
      rw [dispatch_of_admitted haccepts.admitted, hrun]
    refine ⟨?_, hnext, ?_, ?_⟩
    · unfold answerTo
      rw [dispatch_of_admitted haccepts.admitted, hrun]
      rfl
    · rw [hnext]
      show (kms.sessions.reset session).sessions.get? session = _
      rw [SessionTable.get?_reset, if_pos rfl, hget]
      rfl
    · unfold eventsOf
      rw [dispatch_of_admitted haccepts.admitted, hrun]

/-- In every run of a service that was configured, a key is latched exactly when a request that was
answered with `ok` latched it, and from then on it is withheld from every call. -/
theorem latched_key_stays_withheld {config : KmsConfig} {crypto : C} {token : T} {nvm : N}
    {start : Kms C T N} (hnew : Kms.new config crypto token nvm = .ok start) (calls : List Call)
    (handle : ObjectHandle) (hhandle : handle.toNat < Limits.lockableKeys) :
    ((start.after calls).latches.isKeyLocked handle = true ↔
        ∃ served ∈ start.history calls, served.Latches handle) ∧
      ((start.after calls).latches.isKeyLocked handle = true →
        ∀ call, (start.after calls).Withholds handle call) := by
  refine ⟨?_, withholds_of_isKeyLocked (isSound_after hnew calls) hhandle⟩
  rw [isKeyLocked_after hhandle, isKeyLocked_of_new hnew]
  simp

/-- A run in which a session begins to sign with a key, which is then latched. -/
def latchingRun : List Call :=
  [⟨FunctionId.initialise.word, .initialise⟩,
    ⟨FunctionId.openSession.word, .openSession 1 SessionFlags.serialSession none default⟩,
    ⟨FunctionId.createObject.word, .createObject 1 (templateOf
      [(AttributeKind.objectClass, Bytes.ofWord ObjectClass.secretKey),
        (AttributeKind.keyType, Bytes.ofWord KeyKind.genericSecret),
        (AttributeKind.value, [1, 2, 3, 4])]) default⟩,
    ⟨FunctionId.signInit.word, .signInit 1 (some ⟨MechanismKind.sha256Hmac, default⟩) 50⟩,
    ⟨FunctionId.lockKeys.word, .lockKeys ⟨default, [50]⟩⟩]

/-- Nothing is signed with the key of that run, and the session learns so. -/
theorem latched_signing_key_is_withheld :
    let start := plain .standard (SoftwareCrypto.new (default : XorShift)) NoExternalToken.mk
      (default : SimulatedNvm)
    let sign : Call := ⟨FunctionId.sign.word, .sign 1 ⟨default, [5, 6]⟩ (some default) default⟩
    (start.after latchingRun).latches.isKeyLocked 50 = true ∧
      (start.after latchingRun).Withholds 50 sign ∧
      ((start.after latchingRun).answerTo sign).code = .keyHandleInvalid := by
  intro start sign
  have hlatched : (start.after latchingRun).latches.isKeyLocked 50 = true := by decide +kernel
  have hwithheld := (latched_key_stays_withheld (new_plain (by decide) _ _ _) latchingRun 50
    (by decide)).2 hlatched sign
  exact ⟨hlatched, hwithheld, by decide +kernel⟩

end Kms

end KeyEnclave
