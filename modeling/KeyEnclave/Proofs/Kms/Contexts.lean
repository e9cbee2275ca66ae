import KeyEnclave.Proofs.Kms.Sessions
import KeyEnclave.Proofs.Provider.Contexts
import KeyEnclave.Simulation.Machine
import KeyEnclave.Simulation.Storage

/-!
# Sessions and contexts

The service and its provider decide on their own when an operation of a session begins and ends. With
the software provider they always agree: there is a context exactly for the sessions in an operation
that the enclave itself serves.

## Main definitions

* `Session.served?` — the state of a session in an operation that the provider serves.
* `SoftwareCrypto.Agrees` — the contexts are those of the sessions in such an operation.
* `ContextView` — a way to see for which sessions a provider keeps a context.
* `Kms.InStep` — everything the sessions and the contexts have in common.

## Main results

* `Kms.Effect.agrees` — no request breaks the agreement.
* `Kms.Effect.finds` — the provider never finds a context missing or in the way.
* `Kms.inStep_after` — sessions and contexts are in step after every run.
-/

namespace KeyEnclave

/-- The state of a session in an operation that the provider serves: one without a key, or with a
key that is not on the token. -/
def Session.served? (layout : ObjectLayout) (record : Session) : Option SessionState :=
  if record.state.isOperation && !(layout.classify record.key).isExternal then some record.state
  else none

namespace Session

variable {layout : ObjectLayout} {record : Session}

theorem served?_eq_some {state : SessionState} : record.served? layout = some state ↔
    record.state = state ∧ state.isOperation = true ∧
      (layout.classify record.key).isExternal = false := by
  unfold served?
  split
  · next h =>
    simp only [Bool.and_eq_true, Bool.not_eq_true'] at h
    constructor
    · rintro ⟨⟩
      exact ⟨rfl, h⟩
    · rintro ⟨rfl, -⟩
      rfl
  · next h =>
    simp only [Bool.and_eq_true, Bool.not_eq_true'] at h
    constructor
    · rintro ⟨⟩
    · rintro ⟨rfl, hserved⟩
      exact absurd hserved h

theorem served?_of_state (h : record.state.isOperation = false) : record.served? layout = none := by
  unfold served?
  rw [h]
  rfl

theorem served?_of_external (h : (layout.classify record.key).isExternal = true) :
    record.served? layout = none := by
  unfold served?
  rw [h, Bool.not_true, Bool.and_false]
  rfl

end Session

namespace SoftwareCrypto

variable {R : Type} {layout : ObjectLayout} {table table' : PerSession Session}
  {crypto crypto' : SoftwareCrypto R} {session : SessionHandle}

/-- The provider keeps contexts for the sessions in an operation that it serves, and each is one of
that operation. -/
def Agrees (layout : ObjectLayout) (table : PerSession Session) (crypto : SoftwareCrypto R) : Prop :=
  ∀ session, crypto.stateOf session = (table.get? session).bind (Session.served? layout)

theorem Agrees.change (h : Agrees layout table crypto) {entry : Option Session}
    (htable : ∀ other, table'.get? other = if other = session then entry else table.get? other)
    (hothers : ∀ other, other ≠ session → crypto'.stateOf other = crypto.stateOf other)
    (hentry : crypto'.stateOf session = entry.bind (Session.served? layout)) :
    Agrees layout table' crypto' := by
  intro other
  rw [htable]
  split
  · next heq =>
    subst heq
    exact hentry
  · next hne => rw [hothers other hne, h other]

theorem Agrees.of_operations (h : Agrees layout table crypto)
    (hsame : crypto'.operations = crypto.operations) : Agrees layout table crypto' := by
  intro session
  rw [← h session]
  unfold stateOf
  rw [hsame]

end SoftwareCrypto

namespace ProviderOp

variable {op : ProviderOp} {session : SessionHandle} {state : SessionState}

theorem isOperation_of_begins (h : op.begins? = some (session, state)) :
    state.isOperation = true := by
  cases op <;> cases h <;> rfl

theorem isOperation_of_continues (h : op.continues? = some (session, state)) :
    state.isOperation = true := by
  cases op <;> cases h <;> rfl

end ProviderOp

theorem Request.continues?_of_step {request : Request} {session : SessionHandle}
    {state : SessionState} {op : ProviderOp} (hstep : request.step? = some (state, op))
    (hnamed : request.session? = some session) : op.continues? = some (session, state) := by
  cases request <;> cases hstep <;> cases hnamed <;> rfl

theorem Kms.Begins.begins?_eq {C T N : Type} {kms : Kms C T N} {request : Request}
    {session : SessionHandle} {state : SessionState} {key : ObjectHandle} {op : ProviderOp}
    (h : kms.Begins request session state key op) : op.begins? = some (session, state) := by
  cases h <;> rfl

/-- The provider did not find a context in the way of an operation that begins, or missing in one
that goes on. -/
def KmsEvent.Finds : KmsEvent → Prop
  | .provider exchange =>
    (exchange.1.begins?.isSome = true → exchange.1.code exchange.2 ≠ .operationActive) ∧
      (exchange.1.continues?.isSome = true →
        exchange.1.code exchange.2 ≠ .operationNotInitialised)
  | .nvm _ | .token _ => True

/-- A way to see for which sessions a provider keeps a context: dropping the context of one leaves
it without and gives none to another, and only handles of sessions have one. -/
structure ContextView (C : Type) [CryptoProvider C] where
  Holds : C → SessionHandle → Prop
  not_released (crypto : C) (session : SessionHandle) :
    ¬Holds (CryptoProvider.serve (.release session) crypto).2 session
  of_released (crypto : C) (session other : SessionHandle) :
    Holds (CryptoProvider.serve (.release session) crypto).2 other → Holds crypto other
  mem_all (crypto : C) (session : SessionHandle) :
    Holds crypto session → session ∈ SessionHandle.all

/-- The contexts of the software provider. -/
def SoftwareCrypto.contexts {R : Type} [RandomSource R] : ContextView (SoftwareCrypto R) where
  Holds crypto session := crypto.stateOf session ≠ none
  not_released crypto session h := by
    have hstate : (crypto.release session).stateOf session ≠ none := h
    rw [stateOf_release, if_pos rfl] at hstate
    exact hstate rfl
  of_released crypto session other h := by
    have hstate : (crypto.release session).stateOf other ≠ none := h
    rw [stateOf_release] at hstate
    split at hstate
    · exact absurd rfl hstate
    · exact hstate
  mem_all crypto session h := by
    refine Decidable.byContradiction fun hout => h ?_
    rw [stateOf, PerSession.get?_of_not_mem_all hout]
    rfl

namespace ContextView

variable {C : Type} [CryptoProvider C] (contexts : ContextView C)

theorem of_releasedContexts {sessions : List SessionHandle} {crypto : C} {session : SessionHandle}
    (h : contexts.Holds (Kms.releasedContexts sessions crypto) session) :
    contexts.Holds crypto session ∧ session ∉ sessions := by
  induction sessions generalizing crypto with
  | nil => exact ⟨h, List.not_mem_nil⟩
  | cons first sessions ih =>
    obtain ⟨hholds, hnot⟩ := ih h
    refine ⟨contexts.of_released crypto first session hholds, ?_⟩
    rw [List.mem_cons, not_or]
    refine ⟨?_, hnot⟩
    rintro rfl
    exact contexts.not_released crypto session hholds

/-- No context is left when those of all sessions were dropped. -/
theorem not_releasedContexts_all (crypto : C) (session : SessionHandle) :
    ¬contexts.Holds (Kms.releasedContexts SessionHandle.all crypto) session := by
  intro h
  obtain ⟨hholds, hnot⟩ := contexts.of_releasedContexts h
  exact hnot (contexts.mem_all crypto session hholds)

end ContextView

namespace Kms

section Finds

theorem finds_nvm (journal : List NvmExchange) : ∀ event ∈ journal.map KmsEvent.nvm, event.Finds :=
  List.forall_mem_map.mpr fun _ _ => trivial

theorem finds_told {C T N : Type} [ExternalToken T] (kms : Kms C T N) (isTold : Bool) (op : TokenOp) :
    ∀ event ∈ kms.toldEvents isTold op, event.Finds := by
  cases isTold with
  | true => exact List.forall_mem_singleton.mpr trivial
  | false => exact fun _ hmem => by cases hmem

theorem finds_release (session : SessionHandle) : (releaseEvent session).Finds :=
  ⟨fun h => (by cases h), fun h => by cases h⟩

theorem finds_conclusion (session : SessionHandle) (isEnded : Bool) :
    ∀ event ∈ conclusion session isEnded, event.Finds := by
  cases isEnded with
  | true => exact List.forall_mem_singleton.mpr (finds_release session)
  | false => exact fun _ hmem => by cases hmem

end Finds

variable {R T N : Type} {kms after : Kms (SoftwareCrypto R) T N} {request : Request}
  {session : SessionHandle} {layout : ObjectLayout} {embedded : List Bytes}

/-- The provider keeps no context for a session outside of operations. -/
theorem stateOf_eq_none {record : Session} (hagrees : kms.crypto.Agrees layout kms.sessions.sessions)
    (hsession : kms.requireSession session = .ok record)
    (hstate : record.state.isOperation = false) : kms.crypto.stateOf session = none := by
  rw [hagrees session, (requireSession_eq_ok.mp hsession).2]
  exact Session.served?_of_state hstate

/-- The provider keeps a context for a session whose step it is to serve. -/
theorem stateOf_of_step {state : SessionState} {op : ProviderOp} {record : Session}
    (hsound : kms.IsSound layout embedded)
    (hagrees : kms.crypto.Agrees layout kms.sessions.sessions)
    (hcontinues : op.continues? = some (session, state))
    (hstate : kms.requireState session state = .ok record)
    (hplace : state ∈ [SessionState.signing, .verifying] →
      (layout.classify record.key).isExternal = false) :
    kms.crypto.stateOf session = some state := by
  obtain ⟨hsession, hrecord⟩ := requireState_eq_ok.mp hstate
  have hget := (requireSession_eq_ok.mp hsession).2
  have hlocal : (layout.classify record.key).isExternal = false := by
    by_cases hsignature : state ∈ [SessionState.signing, .verifying]
    · exact hplace hsignature
    · exact (hsound.session session record hget).key_local (hrecord ▸ hsignature)
  rw [hagrees session, hget]
  exact Session.served?_eq_some.mpr
    ⟨hrecord, ProviderOp.isOperation_of_continues hcontinues, hlocal⟩

/-- A session that is in no operation may get another record that is in none. -/
theorem agrees_put {record record' : Session}
    (hagrees : kms.crypto.Agrees kms.layout kms.sessions.sessions)
    (hsession : kms.requireSession session = .ok record)
    (hstate : record.state.isOperation = false) (hserved : record'.served? kms.layout = none) :
    kms.crypto.Agrees kms.layout (kms.sessions.put session record').sessions := by
  refine hagrees.change (fun _ => SessionTable.get?_put (requireSession_eq_ok.mp hsession).2)
    (fun _ _ => rfl) ?_
  rw [stateOf_eq_none hagrees hsession hstate]
  exact hserved.symm

/-- A new session is in no operation, and the provider has no context left from an earlier one. -/
theorem agrees_opened {record : Session}
    (hagrees : kms.crypto.Agrees kms.layout kms.sessions.sessions)
    (hfree : kms.sessions.sessions.firstFree? = some session)
    (hstate : record.state.isOperation = false) :
    kms.crypto.Agrees kms.layout (kms.sessions.put session record).sessions := by
  have hindex := PerSession.index?_isSome_of_firstFree? hfree
  refine hagrees.change (fun _ => SessionTable.get?_put_of_index hindex) (fun _ _ => rfl) ?_
  rw [hagrees session, PerSession.get?_firstFree? hfree]
  exact (Session.served?_of_state hstate).symm

variable [RandomSource R]

/-- When the library goes down no context is left. -/
theorem stateOf_releasedContexts_all (crypto : SoftwareCrypto R) :
    (releasedContexts SessionHandle.all crypto).stateOf session = none :=
  Decidable.not_not.mp (SoftwareCrypto.contexts.not_releasedContexts_all crypto session)

/-- An operation that ended leaves neither a state nor a context behind. -/
theorem agrees_ended {crypto : SoftwareCrypto R}
    (h : crypto.Agrees layout kms.sessions.sessions)
    (hothers : ∀ other, other ≠ session → kms.crypto.stateOf other = crypto.stateOf other) :
    (kms.ended session).crypto.Agrees layout (kms.ended session).sessions.sessions := by
  have hcrypto : (kms.ended session).crypto = kms.crypto.release session := rfl
  have hsessions : (kms.ended session).sessions = kms.sessions.reset session := rfl
  rw [hcrypto, hsessions]
  refine h.change (fun _ => SessionTable.get?_reset) (fun other hne => ?_) ?_
  · rw [SoftwareCrypto.stateOf_release, if_neg hne, hothers other hne]
  · rw [SoftwareCrypto.stateOf_release, if_pos rfl]
    cases kms.sessions.sessions.get? session with
    | none => rfl
    | some record => exact (Session.served?_of_state rfl).symm

/-- What the provider does when it is to begin an operation of an idle session. -/
theorem serve_of_begins {state : SessionState} {key : ObjectHandle} {op : ProviderOp}
    {record : Session} (hagrees : kms.crypto.Agrees layout kms.sessions.sessions)
    (hbegins : kms.Begins request session state key op)
    (hsession : kms.requireSession session = .ok record) (hidle : record.state = .idle) :
    op.code (kms.providerReply op) = .ok ∧
        (∀ other, (kms.afterProvider op).crypto.stateOf other =
          if other = session then some state else kms.crypto.stateOf other) ∨
      op.code (kms.providerReply op) ∈ unusableCodes ∧ (kms.afterProvider op).crypto = kms.crypto :=
  SoftwareCrypto.serve_begins hbegins.begins?_eq
    (PerSession.index?_isSome_of_get? (requireSession_eq_ok.mp hsession).2)
    (stateOf_eq_none hagrees hsession (by rw [hidle]; rfl))

theorem agrees_begun {state : SessionState} {key : ObjectHandle} {op : ProviderOp}
    {record : Session} (hnull : kms.layout.classify noKey = .unknown)
    (hagrees : kms.crypto.Agrees kms.layout kms.sessions.sessions)
    (hbegins : kms.Begins request session state key op)
    (hsession : kms.requireSession session = .ok record) (hidle : record.state = .idle)
    (hcode : op.code (kms.providerReply op) = .ok) :
    (kms.afterProvider op).crypto.Agrees kms.layout
      (kms.sessions.put session { record with state := state, key := key }).sessions := by
  obtain ⟨-, hlocal⟩ := hbegins.fits hnull
  have hget := (requireSession_eq_ok.mp hsession).2
  rcases serve_of_begins hagrees hbegins hsession hidle with ⟨-, hafter⟩ | ⟨hrefused, -⟩
  · refine hagrees.change (fun _ => SessionTable.get?_put hget) (fun other hne => ?_) ?_
    · rw [hafter other, if_neg hne]
    · have hserved : Session.served? kms.layout { record with state := state, key := key } =
          some state :=
        Session.served?_eq_some.mpr
          ⟨rfl, ProviderOp.isOperation_of_begins hbegins.begins?_eq, hlocal⟩
      rw [hafter session, if_pos rfl]
      exact hserved.symm
  · exact absurd hcode (ne_of_mem_of_not_mem hrefused (by decide))

theorem agrees_concluded {state : SessionState} {op : ProviderOp}
    (hagrees : kms.crypto.Agrees layout kms.sessions.sessions)
    (hcontinues : op.continues? = some (session, state))
    (hcontext : kms.crypto.stateOf session = some state) :
    ((kms.afterProvider op).concluded session (op.ends (kms.providerReply op))).crypto.Agrees layout
      ((kms.afterProvider op).concluded session
        (op.ends (kms.providerReply op))).sessions.sessions := by
  have hgoesOn := SoftwareCrypto.serve_continues hcontinues hcontext
  cases hends : op.ends (kms.providerReply op) with
  | true => exact agrees_ended hagrees hgoesOn.others
  | false =>
    intro other
    refine Eq.trans ?_ (hagrees other)
    by_cases heq : other = session
    · subst heq
      rw [hcontext]
      exact hgoesOn.stays hends
    · exact hgoesOn.others other heq

variable [ExternalToken T] [NvmStorage N] {events : List KmsEvent}

/-- No request breaks the agreement. -/
theorem Effect.agrees (hvalid : layout.validate = .ok ())
    (hsound : kms.IsSound layout embedded) (h : kms.Effect request after events)
    (hagrees : kms.crypto.Agrees layout kms.sessions.sessions) :
    after.crypto.Agrees layout after.sessions.sessions := by
  obtain rfl := hsound.layout_eq
  have hnull := hsound.classify_noKey hvalid
  cases h with
  | nothing | asked | stored | installed | latchedKeys | latchedServices => exact hagrees
  | raised hup isTold =>
    rw [← told_crypto kms isTold .initialise, ← SessionTable.sessions_bringUp hup] at hagrees
    exact hagrees
  | lowered hnesting isTold =>
    rw [← told_crypto kms isTold .finalise, ← SessionTable.sessions_bringDown hnesting] at hagrees
    exact hagrees
  | cameUp hisDown isTold | stayedDown hisDown isTold =>
    intro session
    show (kms.told isTold .initialise).crypto.stateOf session = (PerSession.empty.get? session).bind _
    rw [told_crypto, PerSession.get?_empty, hagrees session, hsound.closed hisDown session]
  | wentDown hnesting isTold =>
    intro session
    show (releasedContexts SessionHandle.all kms.crypto).stateOf session =
      (PerSession.empty.get? session).bind _
    rw [stateOf_releasedContexts_all, PerSession.get?_empty]
    rfl
  | opened hup hfree => exact agrees_opened hagrees hfree rfl
  | openedOnToken hup hfree => exact agrees_opened hagrees hfree rfl
  | @closed session record hsession isTold =>
    show ((kms.told isTold _).crypto.release session).Agrees kms.layout _
    rw [told_crypto]
    refine hagrees.change (fun _ => SessionTable.get?_drop) (fun other hne => ?_) ?_
    · rw [SoftwareCrypto.stateOf_release, if_neg hne]
    · rw [SoftwareCrypto.stateOf_release, if_pos rfl]
      rfl
  | searchBegun hsession hidle =>
    exact agrees_put hagrees hsession (by rw [hidle]; rfl) (Session.served?_of_state rfl)
  | paged hsession hstate =>
    have hquiet : Session.served? kms.layout _ = none :=
      Session.served?_of_state (congrArg SessionState.isOperation hstate)
    exact agrees_put hagrees hsession (congrArg SessionState.isOperation hstate) hquiet
  | searchEnded hsession hstate =>
    rw [SessionTable.reset_eq_put (requireSession_eq_ok.mp hsession).2]
    exact agrees_put hagrees hsession (by rw [hstate]; rfl) (Session.served?_of_state rfl)
  | began hbegins hsession hidle hcode =>
    exact agrees_begun hnull hagrees hbegins hsession hidle hcode
  | notBegun hbegins hsession hidle hcode =>
    rcases serve_of_begins hagrees hbegins hsession hidle with ⟨hok, -⟩ | ⟨-, hafter⟩
    · exact absurd hok hcode
    · rw [hafter]
      exact hagrees
  | beganOnToken hbegins hsession hidle hlatch hexternal =>
    exact agrees_put hagrees hsession (by rw [hidle]; rfl) (Session.served?_of_external hexternal)
  | stepLatched => exact agrees_ended hagrees fun _ _ => rfl
  | stepped op hstep hnamed hstate hopen hplace =>
    have hcontinues := Request.continues?_of_step hstep hnamed
    exact agrees_concluded hagrees hcontinues
      (stateOf_of_step hsound hagrees hcontinues hstate hplace)
  | @steppedOnToken _ session _ _ tokenOp _ _ _ _ _ _ _ isTold isEnded =>
    rw [← told_sessions kms isTold tokenOp] at hagrees
    cases isEnded with
    | true => exact agrees_ended hagrees fun _ _ => by rw [told_crypto]
    | false =>
      rw [← told_crypto kms isTold tokenOp] at hagrees
      exact hagrees
  | @made _ op _ _ hmakes =>
    have hsame : (kms.afterProvider op).crypto.operations = kms.crypto.operations := by
      cases hmakes with
      | derived => rfl
      | pair => exact SoftwareCrypto.operations_generateKeyPair _ _ _ _
    exact hagrees.of_operations hsame

/-- The provider never finds a context in the way of an operation that begins, or missing in one that
goes on. -/
theorem Effect.finds (hsound : kms.IsSound layout embedded) (h : kms.Effect request after events)
    (hagrees : kms.crypto.Agrees layout kms.sessions.sessions) :
    ∀ event ∈ events, event.Finds := by
  obtain rfl := hsound.layout_eq
  have hbegun {session : SessionHandle} {state : SessionState} {key : ObjectHandle}
      {op : ProviderOp} {record : Session} (hbegins : kms.Begins request session state key op)
      (hsession : kms.requireSession session = .ok record) (hidle : record.state = .idle) :
      ∀ event ∈ [kms.providerEvent op], event.Finds := by
    have hcode : op.code (kms.providerReply op) ≠ .operationActive := by
      rcases serve_of_begins hagrees hbegins hsession hidle with ⟨hok, -⟩ | ⟨hrefused, -⟩
      · rw [hok]
        decide
      · exact ne_of_mem_of_not_mem hrefused (by decide)
    refine List.forall_mem_singleton.mpr ⟨fun _ => hcode, fun hcontinues => ?_⟩
    cases hbegins <;> cases hcontinues
  cases h with
  | nothing | opened | searchBegun | paged | searchEnded | latchedKeys | latchedServices =>
    exact fun _ hmem => by cases hmem
  | asked | openedOnToken | beganOnToken => exact List.forall_mem_singleton.mpr trivial
  | raised hup isTold | lowered hnesting isTold => exact finds_told kms isTold _
  | cameUp hdown isTold | stayedDown hdown isTold =>
    exact List.forall_mem_append.mpr ⟨finds_told kms isTold _, finds_nvm _⟩
  | wentDown hnesting isTold =>
    refine List.forall_mem_append.mpr ⟨finds_told kms isTold _, fun event hmem => ?_⟩
    obtain ⟨session, -, rfl⟩ := List.mem_map.mp hmem
    exact finds_release session
  | closed hsession isTold =>
    exact List.forall_mem_append.mpr
      ⟨finds_told kms isTold _, List.forall_mem_singleton.mpr (finds_release _)⟩
  | began hbegins hsession hidle | notBegun hbegins hsession hidle =>
    exact hbegun hbegins hsession hidle
  | stepLatched => exact List.forall_mem_singleton.mpr (finds_release _)
  | stepped op hstep hnamed hstate hopen hplace =>
    have hcontinues := Request.continues?_of_step hstep hnamed
    have hgoesOn := SoftwareCrypto.serve_continues hcontinues
      (stateOf_of_step hsound hagrees hcontinues hstate hplace)
    refine List.forall_mem_cons.mpr ⟨⟨fun hbegins => ?_, fun _ => hgoesOn.code_ne⟩,
      finds_conclusion _ _⟩
    cases op <;> cases hcontinues <;> cases hbegins
  | steppedOnToken _ _ _ _ _ _ isTold isEnded =>
    exact List.forall_mem_append.mpr ⟨finds_told kms isTold _, finds_conclusion _ _⟩
  | stored | installed => exact finds_nvm _
  | made hmakes =>
    refine List.forall_mem_cons.mpr ⟨?_, finds_nvm _⟩
    cases hmakes with
    | derived | pair => exact ⟨fun h => (by cases h), fun h => by cases h⟩

/-- What the sessions and the contexts of a service have in common, and what follows for a call. -/
structure InStep (layout : ObjectLayout) (kms : Kms (SoftwareCrypto R) T N) : Prop where
  /-- There is a context exactly for the sessions in an operation that the provider serves. -/
  holds : ∀ session, (kms.crypto.operations.get? session).isSome = true ↔
    ∃ record, kms.sessions.sessions.get? session = some record ∧
      record.state.isOperation = true ∧ (layout.classify record.key).isExternal = false
  /-- A context is one of the operation that its session is in. -/
  kind : ∀ session operation, kms.crypto.operations.get? session = some operation →
    ∃ record, kms.sessions.sessions.get? session = some record ∧ record.state = operation.state
  /-- There is no context while the library is down. -/
  down : kms.sessions.isUp = false → ∀ session, kms.crypto.operations.get? session = none
  /-- What is remembered of a session fits its state. -/
  session : ∀ session record, kms.sessions.sessions.get? session = some record →
    (record.key ≠ noKey ↔ record.state.isKeyed = true) ∧
      (record.state ≠ .searching → record.found = []) ∧ record.cursor ≤ record.found.length
  /-- No call takes a session from one operation to another. -/
  transition : ∀ call session before after, kms.sessions.sessions.get? session = some before →
    (kms.next call).sessions.sessions.get? session = some after → before.state ≠ .idle →
      after.state ≠ .idle → after.state = before.state
  /-- No operation that begins finds a context in its way. -/
  beginning : ∀ call exchange, .provider exchange ∈ kms.eventsOf call →
    exchange.1.begins?.isSome = true → exchange.1.code exchange.2 ≠ .operationActive
  /-- No operation that goes on misses its context. -/
  continuing : ∀ call exchange, .provider exchange ∈ kms.eventsOf call →
    exchange.1.continues?.isSome = true → exchange.1.code exchange.2 ≠ .operationNotInitialised

theorem inStep_of_agrees (hvalid : layout.validate = .ok ()) (hsound : kms.IsSound layout embedded)
    (hagrees : kms.crypto.Agrees layout kms.sessions.sessions) : kms.InStep layout := by
  have hstateOf {session : SessionHandle} {operation : Operation}
      (hget : kms.crypto.operations.get? session = some operation) :
      ∃ record, kms.sessions.sessions.get? session = some record ∧
        record.served? layout = some operation.state := by
    have hstate := hagrees session
    rw [SoftwareCrypto.stateOf, hget] at hstate
    exact Option.bind_eq_some_iff.mp hstate.symm
  constructor
  case holds =>
    intro session
    constructor
    · intro hsome
      obtain ⟨operation, hget⟩ := Option.isSome_iff_exists.mp hsome
      obtain ⟨record, hrecord, hserved⟩ := hstateOf hget
      obtain ⟨hstate, hoperation, hlocal⟩ := Session.served?_eq_some.mp hserved
      exact ⟨record, hrecord, hstate ▸ hoperation, hlocal⟩
    · rintro ⟨record, hrecord, hoperation, hlocal⟩
      have hstate := hagrees session
      rw [hrecord, Option.bind_some, Session.served?_eq_some.mpr ⟨rfl, hoperation, hlocal⟩] at hstate
      obtain ⟨operation, hget, -⟩ := SoftwareCrypto.stateOf_eq_some.mp hstate
      exact Option.isSome_iff_exists.mpr ⟨operation, hget⟩
  case kind =>
    intro session operation hget
    obtain ⟨record, hrecord, hserved⟩ := hstateOf hget
    exact ⟨record, hrecord, (Session.served?_eq_some.mp hserved).1⟩
  case down =>
    intro hdown session
    have hstate := hagrees session
    rw [hsound.closed hdown session] at hstate
    exact Option.map_eq_none_iff.mp hstate
  case session =>
    intro session record hrecord
    have hrecord := hsound.session session record hrecord
    exact ⟨hrecord.key_ne, hrecord.found_eq, hrecord.cursor_le⟩
  case transition =>
    exact fun call session before after => state_of_next hvalid hsound call
  case beginning =>
    exact fun call exchange hmem => ((kms.next_effect call).finds hsound hagrees _ hmem).1
  case continuing =>
    exact fun call exchange hmem => ((kms.next_effect call).finds hsound hagrees _ hmem).2

theorem agrees_after {config : KmsConfig} {rng : R} {token : T} {nvm : N}
    {start : Kms (SoftwareCrypto R) T N}
    (hnew : Kms.new config (SoftwareCrypto.new rng) token nvm = .ok start) (calls : List Call) :
    (start.after calls).crypto.Agrees config.layout (start.after calls).sessions.sessions := by
  obtain ⟨hvalid, hstart⟩ := new_eq_ok hnew
  have hinitially : start.crypto.Agrees config.layout start.sessions.sessions := by
    intro session
    rw [hstart]
    show (SoftwareCrypto.new rng).stateOf session = (PerSession.empty.get? session).bind _
    rw [SoftwareCrypto.stateOf_new, PerSession.get?_empty]
    rfl
  have hsound : start.IsSound config.layout config.embedded := isSound_after hnew []
  have hagrees : (start.after calls).IsSound config.layout config.embedded ∧
      (start.after calls).crypto.Agrees config.layout (start.after calls).sessions.sessions :=
    after_of_effect (P := fun kms => kms.IsSound config.layout config.embedded ∧
        kms.crypto.Agrees config.layout kms.sessions.sessions)
      (fun _ _ _ _ heffect h => ⟨heffect.isSound hvalid h.1, heffect.agrees hvalid h.1 h.2⟩)
      ⟨hsound, hinitially⟩ calls
  exact hagrees.2

/-- The sessions of a service and the contexts of the software provider are in step after every
run. -/
theorem inStep_after {config : KmsConfig} {rng : R} {token : T} {nvm : N}
    {start : Kms (SoftwareCrypto R) T N}
    (hnew : Kms.new config (SoftwareCrypto.new rng) token nvm = .ok start) (calls : List Call) :
    (start.after calls).InStep config.layout :=
  inStep_of_agrees (new_eq_ok hnew).1 (isSound_after hnew calls) (agrees_after hnew calls)

/-- A session that computes a digest is in step with its context. -/
theorem digest_inStep :
    let start := plain .standard (SoftwareCrypto.new (default : XorShift)) NoExternalToken.mk
      (default : SimulatedNvm)
    let digesting := start.after
      [⟨FunctionId.initialise.word, .initialise⟩,
        ⟨FunctionId.openSession.word, .openSession 1 SessionFlags.serialSession none default⟩,
        ⟨FunctionId.digestInit.word, .digestInit 1 (some ⟨MechanismKind.sha256, default⟩)⟩]
    (digesting.crypto.operations.get? 1).isSome = true ∧ digesting.InStep .standard :=
  ⟨by decide +kernel, inStep_after (new_plain (by decide) _ _ _) _⟩

end Kms

end KeyEnclave
