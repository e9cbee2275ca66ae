import KeyEnclave.Proofs.Action.Alike
import KeyEnclave.Proofs.Kms.Latching
import KeyEnclave.Proofs.Provider.Frame

/-!
# Services that are the same for one session

Two services over the software provider that may differ in everything that belongs to other sessions,
and in the source of random numbers. What a request of the session reads is the same in both, and each
thing that it may do leaves services that are the same for the session again.

## Main definitions

* `Kms.SameFor` — two services are the same for a session.

## Main results

* `Kms.SameFor.lookup_eq`, `SameFor.requireSession_eq`, … — what is read is the same.
* `Kms.SameFor.put`, `SameFor.afterProvider`, … — what may be done keeps it.
-/

namespace KeyEnclave.Kms

open KeyEnclave.Action

variable {R T N : Type}

/-- Two services are the same for a session: whether the library is up, its record and its context,
and everything that belongs to no session but the source of random numbers. -/
structure SameFor (session : SessionHandle) (kms kms' : Kms (SoftwareCrypto R) T N) : Prop where
  latches_eq : kms'.latches = kms.latches
  isUp_eq : kms'.sessions.isUp = kms.sessions.isUp
  record_eq : kms'.sessions.sessions.get? session = kms.sessions.sessions.get? session
  context_eq : kms'.crypto.operations.get? session = kms.crypto.operations.get? session
  store_eq : kms'.store = kms.store
  token_eq : kms'.token = kms.token

namespace SameFor

variable {session : SessionHandle} {kms kms' : Kms (SoftwareCrypto R) T N}

theorem refl (session : SessionHandle) (kms : Kms (SoftwareCrypto R) T N) :
    kms.SameFor session kms :=
  ⟨rfl, rfl, rfl, rfl, rfl, rfl⟩

-- ═══════════════════════════════════════════════════════════════════════════
-- What is read
-- ═══════════════════════════════════════════════════════════════════════════

section Reads

variable (h : kms.SameFor session kms')

include h

theorem layout_eq : kms'.layout = kms.layout := congrArg ObjectStore.layout h.store_eq

theorem requireSession_eq : kms'.requireSession session = kms.requireSession session := by
  unfold requireSession requireUp SessionTable.get
  rw [h.isUp_eq, h.record_eq]

theorem requireState_eq (state : SessionState) :
    kms'.requireState session state = kms.requireState session state := by
  unfold requireState
  rw [h.requireSession_eq]

theorem lookup_eq (handle : ObjectHandle) : kms'.lookup handle = kms.lookup handle := by
  unfold lookup
  rw [h.latches_eq, h.store_eq]

theorem matching_eq (template : Template) : kms'.matching template = kms.matching template := by
  unfold matching
  rw [h.store_eq]
  simp only [h.lookup_eq]

theorem admitted_eq (word : UInt32) (request : Request) :
    kms'.admitted word request = kms.admitted word request := by
  unfold admitted
  rw [h.latches_eq]

variable [ExternalToken T]

theorem tokenImplements_eq (function : FunctionId) :
    kms'.tokenImplements function = kms.tokenImplements function := by
  unfold tokenImplements
  rw [h.token_eq]

theorem tokenSession_eq (function : FunctionId) :
    kms'.tokenSession function session = kms.tokenSession function session := by
  unfold tokenSession SessionTable.external
  rw [h.tokenImplements_eq, h.record_eq]

theorem tokenReply_eq (op : TokenOp) : kms'.tokenReply op = kms.tokenReply op := by
  unfold tokenReply
  rw [h.token_eq]

end Reads

-- ═══════════════════════════════════════════════════════════════════════════
-- What is done
-- ═══════════════════════════════════════════════════════════════════════════

theorem afterToken [ExternalToken T] (h : kms.SameFor session kms') (op : TokenOp) :
    (kms.afterToken op).SameFor session (kms'.afterToken op) := by
  have htoken : (ExternalToken.serve op kms'.token).2 = (ExternalToken.serve op kms.token).2 := by
    rw [h.token_eq]
  exact ⟨h.latches_eq, h.isUp_eq, h.record_eq, h.context_eq, h.store_eq, htoken⟩

theorem withStore (h : kms.SameFor session kms') {store store' : ObjectStore N}
    (hstore : store' = store) :
    ({ kms with store := store }).SameFor session { kms' with store := store' } :=
  ⟨h.latches_eq, h.isUp_eq, h.record_eq, h.context_eq, hstore, h.token_eq⟩

theorem withSessions (h : kms.SameFor session kms') {table table' : SessionTable}
    (hup : table'.isUp = table.isUp)
    (hrecord : table'.sessions.get? session = table.sessions.get? session) :
    ({ kms with sessions := table }).SameFor session { kms' with sessions := table' } :=
  ⟨h.latches_eq, hup, hrecord, h.context_eq, h.store_eq, h.token_eq⟩

/-- Another record for the session. -/
theorem put (h : kms.SameFor session kms') {record : Session} (record' : Session)
    (hget : kms.sessions.sessions.get? session = some record) :
    ({ kms with sessions := kms.sessions.put session record' }).SameFor session
      { kms' with sessions := kms'.sessions.put session record' } := by
  refine h.withSessions h.isUp_eq ?_
  rw [SessionTable.get?_put hget, SessionTable.get?_put (h.record_eq.trans hget), if_pos rfl,
    if_pos rfl]

theorem reset (h : kms.SameFor session kms') :
    ({ kms with sessions := kms.sessions.reset session }).SameFor session
      { kms' with sessions := kms'.sessions.reset session } := by
  refine h.withSessions ?_ ?_
  · rw [SessionTable.isUp_reset, SessionTable.isUp_reset, h.isUp_eq]
  · rw [SessionTable.get?_reset, SessionTable.get?_reset, h.record_eq]

theorem drop (h : kms.SameFor session kms') :
    ({ kms with sessions := kms.sessions.drop session }).SameFor session
      { kms' with sessions := kms'.sessions.drop session } := by
  refine h.withSessions h.isUp_eq ?_
  rw [SessionTable.get?_drop, SessionTable.get?_drop, if_pos rfl, if_pos rfl]

variable [RandomSource R]

theorem afterProvider (h : kms.SameFor session kms') {op : ProviderOp} (hop : op.Touches session) :
    kms'.providerReply op = kms.providerReply op ∧
      (kms.afterProvider op).SameFor session (kms'.afterProvider op) := by
  obtain ⟨hreply, hcontext⟩ := (SoftwareCrypto.isLocal_serve hop).alike h.context_eq
  exact ⟨hreply, h.latches_eq, h.isUp_eq, h.record_eq, hcontext, h.store_eq, h.token_eq⟩

/-- An operation that does not work with the context of the session may answer differently. -/
theorem afterUntouched (h : kms.SameFor session kms') (op : ProviderOp)
    (hop : ¬op.Touches session) :
    (kms.afterProvider op).SameFor session (kms'.afterProvider op) := by
  have hcontext := SoftwareCrypto.get?_serve hop kms.crypto
  have hcontext' := SoftwareCrypto.get?_serve hop kms'.crypto
  exact ⟨h.latches_eq, h.isUp_eq, h.record_eq, hcontext'.trans (h.context_eq.trans hcontext.symm),
    h.store_eq, h.token_eq⟩

theorem concluded (h : kms.SameFor session kms') (isEnded : Bool) :
    (kms.concluded session isEnded).SameFor session (kms'.concluded session isEnded) := by
  cases isEnded with
  | true => exact (h.reset.afterProvider (.inr rfl)).2
  | false => exact h

-- ═══════════════════════════════════════════════════════════════════════════
-- Rules
-- ═══════════════════════════════════════════════════════════════════════════

section Rules

variable {α β : Type}
  {post : Kms (SoftwareCrypto R) T N → Kms (SoftwareCrypto R) T N → Prop}

omit [RandomSource R] in
theorem askToken [ExternalToken T] (h : kms.SameFor session kms') (op : TokenOp) :
    EndsAlike (Kms.askToken op) (Kms.askToken op) kms kms' (SameFor session) :=
  ⟨congrArg Except.ok (h.tokenReply_eq op).symm, h.afterToken op⟩

theorem askProvider (h : kms.SameFor session kms') {op : ProviderOp} (hop : op.Touches session) :
    EndsAlike (Kms.askProvider op) (Kms.askProvider op) kms kms' (SameFor session) :=
  ⟨congrArg Except.ok (h.afterProvider hop).1.symm, (h.afterProvider hop).2⟩

omit [RandomSource R] in
/-- A token that is only told when it has the function. -/
theorem bind_told [ExternalToken T] (h : kms.SameFor session kms') {isTold : Bool} {op : TokenOp}
    {wrap : op.Reply → β} {silent : β} {next next' : β → Step (SoftwareCrypto R) T N α}
    (hnext : (kms.told isTold op).SameFor session (kms'.told isTold op) →
      ∀ reply, EndsAlike (next reply) (next' reply) (kms.told isTold op) (kms'.told isTold op)
        post) :
    EndsAlike
      (if isTold = true then (wrap <$> Kms.askToken op : Step _ T _ β) >>= next
        else (pure silent : Step _ T _ β) >>= next)
      (if isTold = true then (wrap <$> Kms.askToken op : Step _ T _ β) >>= next'
        else (pure silent : Step _ T _ β) >>= next') kms kms' post := by
  cases isTold with
  | true =>
    refine .bind_run rfl rfl ?_
    show EndsAlike (next (wrap (kms.tokenReply op))) (next' (wrap (kms'.tokenReply op))) _ _ post
    rw [h.tokenReply_eq]
    exact hnext (h.afterToken op) _
  | false => exact .bind_run rfl rfl (hnext h silent)

omit [RandomSource R] in
/-- A change of the session table that fails alike, or leaves services that are the same for the
session. -/
theorem bind_updateSessions (h : kms.SameFor session kms')
    {f : SessionTable → Except ReturnCode SessionTable}
    (hf : (∃ code, f kms.sessions = .error code ∧ f kms'.sessions = .error code) ∨
      ∃ table table', f kms.sessions = .ok table ∧ f kms'.sessions = .ok table' ∧
        ({ kms with sessions := table }).SameFor session { kms' with sessions := table' })
    {next next' : Unit → Step (SoftwareCrypto R) T N α}
    (hnext : ∀ kms kms', kms.SameFor session kms' →
      EndsAlike (next ()) (next' ()) kms kms' (SameFor session)) :
    EndsAlike (updateSessions f >>= next) (updateSessions f >>= next') kms kms'
      (SameFor session) := by
  rcases hf with ⟨code, herror, herror'⟩ | ⟨table, table', hok, hok', hsame⟩
  · exact .bind_failed (run_updateSessions_error herror) (run_updateSessions_error herror') h
  · exact .bind_run (run_updateSessions hok) (run_updateSessions hok') (hnext _ _ hsame)

omit [RandomSource R] in
/-- A change of the record of the session. -/
theorem bind_update (h : kms.SameFor session kms') (f : Session → Session)
    {next next' : Unit → Step (SoftwareCrypto R) T N α}
    (hnext : ∀ kms kms', kms.SameFor session kms' →
      EndsAlike (next ()) (next' ()) kms kms' (SameFor session)) :
    EndsAlike ((updateSessions fun table => table.update session f) >>= next)
      ((updateSessions fun table => table.update session f) >>= next') kms kms'
      (SameFor session) := by
  refine h.bind_updateSessions ?_ hnext
  cases hget : kms.sessions.sessions.get? session with
  | none =>
    exact .inl ⟨_, SessionTable.update_eq_error f hget,
      SessionTable.update_eq_error f (h.record_eq.trans hget)⟩
  | some record =>
    exact .inr ⟨_, _, SessionTable.update_eq_put f hget,
      SessionTable.update_eq_put f (h.record_eq.trans hget), h.put _ hget⟩

omit [RandomSource R] in
theorem bind_close (h : kms.SameFor session kms')
    {next next' : Unit → Step (SoftwareCrypto R) T N α}
    (hnext : ∀ kms kms', kms.SameFor session kms' →
      EndsAlike (next ()) (next' ()) kms kms' (SameFor session)) :
    EndsAlike ((updateSessions fun table => table.close session) >>= next)
      ((updateSessions fun table => table.close session) >>= next') kms kms'
      (SameFor session) := by
  refine h.bind_updateSessions ?_ hnext
  cases hget : kms.sessions.sessions.get? session with
  | none =>
    exact .inl ⟨_, SessionTable.close_eq_error hget,
      SessionTable.close_eq_error (h.record_eq.trans hget)⟩
  | some record =>
    exact .inr ⟨_, _, SessionTable.close_eq_drop hget,
      SessionTable.close_eq_drop (h.record_eq.trans hget), h.drop⟩

omit [RandomSource R] in
theorem onStore (h : kms.SameFor session kms') (step : ObjectStore.Step N α) :
    EndsAlike (Kms.onStore step) (Kms.onStore step) kms kms' (SameFor session) := by
  refine .within (.mapError ?_) fun _ _ => h.withStore
  rw [h.store_eq]
  exact ⟨rfl, rfl⟩

omit [RandomSource R] in
theorem storeObject [NvmStorage N] (h : kms.SameFor session kms') (range : Provenance)
    (parts : List Template) :
    EndsAlike (Kms.storeObject range parts) (Kms.storeObject range parts) kms kms'
      (SameFor session) := by
  refine .bind_get ?_
  rw [h.store_eq]
  refine .bind_ofExcept h fun free _ => ?_
  cases serialise Limits.objectLength free parts with
  | error refusal => exact .throw h
  | ok blob => exact h.onStore _

theorem bind_conclude (h : kms.SameFor session kms') {isEnded : Bool}
    {next next' : Unit → Step (SoftwareCrypto R) T N α}
    (hnext : ∀ kms kms', kms.SameFor session kms' →
      EndsAlike (next ()) (next' ()) kms kms' post) :
    EndsAlike (conclude session isEnded >>= next) (conclude session isEnded >>= next') kms kms'
      post :=
  .bind_run (run_conclude kms session isEnded) (run_conclude kms' session isEnded)
    (hnext _ _ (h.concluded isEnded))

theorem delivering {room : Option Nat} {lastStep : Bool}
    {step step' : Step (SoftwareCrypto R) T N Delivery}
    (hstep : EndsAlike step step' kms kms' (SameFor session)) :
    EndsAlike (Kms.delivering session room lastStep step)
      (Kms.delivering session room lastStep step') kms kms' (SameFor session) :=
  .bind_kept hstep fun _ _ _ h => h.bind_conclude fun _ _ h => .pure h

theorem bind_operationKey (h : kms.SameFor session kms') {state : SessionState}
    {next next' : ObjectHandle → Step (SoftwareCrypto R) T N α}
    (hnext : ∀ key, EndsAlike (next key) (next' key) kms kms' (SameFor session)) :
    EndsAlike (operationKey session state >>= next) (operationKey session state >>= next') kms kms'
      (SameFor session) := by
  have hrun := run_operationKey_eq kms session state
  have hrun' := run_operationKey_eq kms' session state
  rw [h.requireState_eq, h.latches_eq] at hrun'
  cases hstate : kms.requireState session state with
  | error code =>
    rw [hstate] at hrun hrun'
    exact .bind_failed hrun hrun' h
  | ok record =>
    simp only [hstate] at hrun hrun'
    by_cases hlatch : record.key ≠ noKey ∧ kms.latches.isKeyLocked record.key = true
    · rw [if_pos hlatch] at hrun hrun'
      exact .bind_failed hrun hrun' (h.concluded true)
    · rw [if_neg hlatch] at hrun hrun'
      exact .bind_run hrun hrun' (hnext record.key)

omit [RandomSource R] in
/-- What every beginning does with the code of the collaborator that was asked. -/
theorem settle (h : kms.SameFor session kms') (code : ReturnCode) (state : SessionState)
    (key : ObjectHandle) :
    EndsAlike (do
      Action.ofExcept code.toExcept
      updateSessions fun table => table.setState session state key
      pure ReturnCode.ok) (do
      Action.ofExcept code.toExcept
      updateSessions fun table => table.setState session state key
      pure ReturnCode.ok) kms kms' (SameFor session) :=
  .bind_ofExcept h fun _ _ => h.bind_update _ fun _ _ h => .pure h

end Rules

end SameFor

end KeyEnclave.Kms
