import KeyEnclave.Proofs.Kms.Contexts
import KeyEnclave.Proofs.Kms.Latching
import KeyEnclave.Proofs.Provider.SameOn
import KeyEnclave.Proofs.Store.SameBut

/-!
# Services that differ in one latched object

Two services over the software provider that are the same but for what a latched object contains, and
for the contexts of operations that began with it. What a request reads of a service is the same for
both, and each thing a request may do leaves services that are the same but for the object again.

## Main definitions

* `SessionTable.Remembers` — a session is open and has a key.
* `Kms.SameBut` — two services are the same but for a latched object.

## Main results

* `Kms.SameBut.lookup_eq`, `SameBut.requireSession_eq`, … — what is read is the same.
* `Kms.SameBut.afterToken`, `SameBut.withSessions`, … — what may be done keeps it.
* `Kms.SameBut.bind_operationKey` — an operation that began with the object does not go on.
-/

namespace KeyEnclave

open KeyEnclave.Action

namespace SessionTable

/-- A session is open and has a key. -/
def Remembers (table : SessionTable) (session : SessionHandle) (key : ObjectHandle) : Prop :=
  ∃ record, table.sessions.get? session = some record ∧ record.key = key

variable {table : SessionTable} {session other : SessionHandle} {key : ObjectHandle}
  {record record' : Session}

theorem Remembers.congr {table' : SessionTable} (h : table.Remembers session key)
    (hsame : table'.sessions.get? session = table.sessions.get? session) :
    table'.Remembers session key := by
  unfold Remembers
  rw [hsame]
  exact h

theorem Remembers.put (h : table.Remembers other key) (hne : other ≠ session) :
    (table.put session record).Remembers other key :=
  h.congr (PerSession.get?_set_other _ _ (Ne.symm hne))

theorem not_remembers (hget : table.sessions.get? session = some record) (hne : record.key ≠ key) :
    ¬table.Remembers session key := by
  rintro ⟨found, hfound, rfl⟩
  rw [hget] at hfound
  obtain rfl := Option.some.inj hfound
  exact hne rfl

theorem not_remembers_of_none (hget : table.sessions.get? session = none) :
    ¬table.Remembers session key := by
  rintro ⟨found, hfound, -⟩
  rw [hget] at hfound
  cases hfound

theorem not_remembers_of_isOf {op : ProviderOp} (hop : op.IsOf session)
    (hquiet : ¬table.Remembers session key) :
    ∀ other, op.IsOf other → ¬table.Remembers other key := by
  intro other hother
  rw [hop.eq hother]
  exact hquiet

end SessionTable

namespace SoftwareCrypto

variable {R : Type} [RandomSource R] {p q : SessionHandle → Prop} {crypto crypto' : SoftwareCrypto R}

theorem rng_releasedContexts (sessions : List SessionHandle) (crypto : SoftwareCrypto R) :
    (Kms.releasedContexts sessions crypto).rng = crypto.rng := by
  induction sessions generalizing crypto with
  | nil => rfl
  | cons session sessions ih => exact ih (crypto.release session)

/-- Without any context left, providers that draw from the same source are the same. -/
theorem SameOn.releasedContexts (h : SameOn p crypto crypto') :
    SameOn q (Kms.releasedContexts SessionHandle.all crypto)
      (Kms.releasedContexts SessionHandle.all crypto') := by
  refine ⟨?_, fun session _ => ?_⟩
  · rw [rng_releasedContexts, rng_releasedContexts, h.rng_eq]
  · have hnone (crypto : SoftwareCrypto R) :
        (Kms.releasedContexts SessionHandle.all crypto).operations.get? session = none :=
      Option.map_eq_none_iff.mp (Kms.stateOf_releasedContexts_all crypto)
    rw [hnone, hnone]

end SoftwareCrypto

namespace Kms

variable {R T : Type}

/-- Two services are the same but for what a latched object contains, and for the contexts of the
sessions that remember it. -/
structure SameBut (handle : ObjectHandle) (kms kms' : Kms (SoftwareCrypto R) T ScheduledNvm) :
    Prop where
  latched : kms.latches.isKeyLocked handle = true
  latches_eq : kms'.latches = kms.latches
  sessions_eq : kms'.sessions = kms.sessions
  token_eq : kms'.token = kms.token
  blobKeys_eq : kms'.blobKeys = kms.blobKeys
  store : kms.store.SameBut handle kms'.store
  crypto : kms.crypto.SameOn (fun session => ¬kms.sessions.Remembers session handle) kms'.crypto

namespace SameBut

variable {handle : ObjectHandle} {kms kms' : Kms (SoftwareCrypto R) T ScheduledNvm}

-- ═══════════════════════════════════════════════════════════════════════════
-- What is read
-- ═══════════════════════════════════════════════════════════════════════════

section Reads

variable (h : kms.SameBut handle kms')

include h

theorem layout_eq : kms'.layout = kms.layout := h.store.layout_eq

theorem requireUp_eq : kms'.requireUp = kms.requireUp := by
  unfold requireUp
  rw [h.sessions_eq]

theorem requireSession_eq (session : SessionHandle) :
    kms'.requireSession session = kms.requireSession session := by
  unfold requireSession
  rw [h.requireUp_eq, h.sessions_eq]

theorem requireState_eq (session : SessionHandle) (state : SessionState) :
    kms'.requireState session state = kms.requireState session state := by
  unfold requireState
  rw [h.requireSession_eq]

theorem requireSlot_eq (slot : UInt32) : kms'.requireSlot slot = kms.requireSlot slot := by
  unfold requireSlot
  rw [h.requireUp_eq]

theorem requireBlobKeys_eq : kms'.requireBlobKeys = kms.requireBlobKeys := by
  unfold requireBlobKeys
  rw [h.blobKeys_eq]

/-- The object itself is seen in neither. -/
theorem lookup_eq (other : ObjectHandle) : kms'.lookup other = kms.lookup other := by
  unfold lookup
  rw [h.latches_eq]
  by_cases hlatch : kms.latches.isKeyLocked other = true
  · rw [if_pos hlatch, if_pos hlatch]
  · have hne : other ≠ handle := by
      rintro rfl
      exact hlatch h.latched
    rw [if_neg hlatch, if_neg hlatch, h.store.get?_eq hne]

theorem matching_eq (template : Template) : kms'.matching template = kms.matching template := by
  unfold matching
  rw [h.store.handles_eq]
  simp only [h.lookup_eq]

theorem authenticateHeader_eq (keys : BlobKeys) (header : BlobHeader) :
    kms'.authenticateHeader keys header = kms.authenticateHeader keys header := by
  unfold authenticateHeader blobKey
  rw [h.lookup_eq]

theorem openPayload_eq (keys : BlobKeys) (header : BlobHeader) (blob : Bytes) :
    kms'.openPayload keys header blob = kms.openPayload keys header blob := by
  unfold openPayload blobKey
  rw [h.lookup_eq]

theorem admitted_eq (word : UInt32) (request : Request) :
    kms'.admitted word request = kms.admitted word request := by
  unfold admitted
  rw [h.latches_eq]

variable [ExternalToken T]

theorem tokenImplements_eq (function : FunctionId) :
    kms'.tokenImplements function = kms.tokenImplements function := by
  unfold tokenImplements
  rw [h.token_eq]

theorem tokenSession_eq (function : FunctionId) (session : SessionHandle) :
    kms'.tokenSession function session = kms.tokenSession function session := by
  unfold tokenSession
  rw [h.tokenImplements_eq, h.sessions_eq]

theorem tokenReply_eq (op : TokenOp) : kms'.tokenReply op = kms.tokenReply op := by
  unfold tokenReply
  rw [h.token_eq]

theorem tokenInfo_eq : kms'.tokenInfo = kms.tokenInfo := by
  unfold tokenInfo
  rw [h.tokenImplements_eq, h.sessions_eq]

end Reads

-- ═══════════════════════════════════════════════════════════════════════════
-- What is done
-- ═══════════════════════════════════════════════════════════════════════════

theorem afterToken [ExternalToken T] (h : kms.SameBut handle kms') (op : TokenOp) :
    (kms.afterToken op).SameBut handle (kms'.afterToken op) := by
  have htoken : (ExternalToken.serve op kms'.token).2 = (ExternalToken.serve op kms.token).2 := by
    rw [h.token_eq]
  exact ⟨h.latched, h.latches_eq, h.sessions_eq, htoken, h.blobKeys_eq, h.store, h.crypto⟩

theorem withStore (h : kms.SameBut handle kms') {store store' : ObjectStore ScheduledNvm}
    (hstore : store.SameBut handle store') :
    ({ kms with store := store }).SameBut handle { kms' with store := store' } :=
  ⟨h.latched, h.latches_eq, h.sessions_eq, h.token_eq, h.blobKeys_eq, hstore, h.crypto⟩

/-- Sessions that remember the object still do. -/
theorem withSessions (h : kms.SameBut handle kms') {table : SessionTable}
    (hkept : ∀ session, kms.sessions.Remembers session handle → table.Remembers session handle) :
    ({ kms with sessions := table }).SameBut handle { kms' with sessions := table } :=
  ⟨h.latched, h.latches_eq, rfl, h.token_eq, h.blobKeys_eq, h.store,
    h.crypto.mono fun session hnot hremembers => hnot (hkept session hremembers)⟩

theorem withLatches (h : kms.SameBut handle kms') {latches : Latches}
    (hlatched : latches.isKeyLocked handle = true) :
    ({ kms with latches := latches }).SameBut handle { kms' with latches := latches } :=
  ⟨hlatched, rfl, h.sessions_eq, h.token_eq, h.blobKeys_eq, h.store, h.crypto⟩

/-- Another record for a session that does not remember the object. -/
theorem put (h : kms.SameBut handle kms') {session : SessionHandle} (record : Session)
    (hquiet : ¬kms.sessions.Remembers session handle) :
    ({ kms with sessions := kms.sessions.put session record }).SameBut handle
      { kms' with sessions := kms.sessions.put session record } := by
  refine h.withSessions fun other hother => hother.put ?_
  rintro rfl
  exact hquiet hother

variable [RandomSource R]

theorem providerReply_eq (h : kms.SameBut handle kms') {op : ProviderOp}
    (hop : ∀ session, op.IsOf session → ¬kms.sessions.Remembers session handle) :
    kms'.providerReply op = kms.providerReply op :=
  (h.crypto.serve hop).1

theorem afterProvider (h : kms.SameBut handle kms') {op : ProviderOp}
    (hop : ∀ session, op.IsOf session → ¬kms.sessions.Remembers session handle) :
    (kms.afterProvider op).SameBut handle (kms'.afterProvider op) :=
  ⟨h.latched, h.latches_eq, h.sessions_eq, h.token_eq, h.blobKeys_eq, h.store,
    (h.crypto.serve hop).2⟩

/-- A session whose context is dropped may be changed in any way. -/
theorem released (h : kms.SameBut handle kms') {session : SessionHandle} {table : SessionTable}
    (hsame : ∀ other, other ≠ session →
      table.sessions.get? other = kms.sessions.sessions.get? other) :
    ({ kms.afterProvider (.release session) with sessions := table }).SameBut handle
      { kms'.afterProvider (.release session) with sessions := table } := by
  refine ⟨h.latched, h.latches_eq, rfl, h.token_eq, h.blobKeys_eq, h.store,
    (h.crypto.release session).mono fun other hother => ?_⟩
  by_cases heq : other = session
  · exact .inl heq
  · exact .inr fun hremembers => hother (hremembers.congr (hsame other heq))

theorem ended (h : kms.SameBut handle kms') (session : SessionHandle) :
    (kms.ended session).SameBut handle (kms'.ended session) := by
  have hsame (other : SessionHandle) (hne : other ≠ session) :
      (kms.sessions.reset session).sessions.get? other = kms.sessions.sessions.get? other := by
    rw [SessionTable.get?_reset, if_neg hne]
  unfold Kms.ended
  rw [h.sessions_eq]
  exact h.released hsame

theorem concluded (h : kms.SameBut handle kms') (session : SessionHandle) (isEnded : Bool) :
    (kms.concluded session isEnded).SameBut handle (kms'.concluded session isEnded) := by
  cases isEnded with
  | true => exact h.ended session
  | false => exact h

-- ═══════════════════════════════════════════════════════════════════════════
-- Rules
-- ═══════════════════════════════════════════════════════════════════════════

section Rules

variable {α β : Type} {post : Kms (SoftwareCrypto R) T ScheduledNvm →
  Kms (SoftwareCrypto R) T ScheduledNvm → Prop}

omit [RandomSource R] in
theorem bind_askToken [ExternalToken T] (h : kms.SameBut handle kms') {op : TokenOp}
    {next next' : op.Reply → Step (SoftwareCrypto R) T ScheduledNvm α}
    (hnext : (kms.afterToken op).SameBut handle (kms'.afterToken op) →
      EndsAlike (next (kms.tokenReply op)) (next' (kms.tokenReply op)) (kms.afterToken op)
        (kms'.afterToken op) post) :
    EndsAlike (askToken op >>= next) (askToken op >>= next') kms kms' post := by
  refine .bind_run rfl rfl ?_
  show EndsAlike (next (kms.tokenReply op)) (next' (kms'.tokenReply op)) _ _ post
  rw [h.tokenReply_eq]
  exact hnext (h.afterToken op)

omit [RandomSource R] in
theorem askToken [ExternalToken T] (h : kms.SameBut handle kms') (op : TokenOp) :
    EndsAlike (Kms.askToken op) (Kms.askToken op) kms kms' (SameBut handle) :=
  ⟨congrArg Except.ok (h.tokenReply_eq op).symm, h.afterToken op⟩

theorem askProvider (h : kms.SameBut handle kms') {op : ProviderOp}
    (hop : ∀ session, op.IsOf session → ¬kms.sessions.Remembers session handle) :
    EndsAlike (Kms.askProvider op) (Kms.askProvider op) kms kms' (SameBut handle) :=
  ⟨congrArg Except.ok (h.providerReply_eq hop).symm, h.afterProvider hop⟩

theorem bind_askProvider (h : kms.SameBut handle kms') {op : ProviderOp}
    (hop : ∀ session, op.IsOf session → ¬kms.sessions.Remembers session handle)
    {next next' : op.Reply → Step (SoftwareCrypto R) T ScheduledNvm α}
    (hnext : (kms.afterProvider op).SameBut handle (kms'.afterProvider op) →
      EndsAlike (next (kms.providerReply op)) (next' (kms.providerReply op))
        (kms.afterProvider op) (kms'.afterProvider op) post) :
    EndsAlike (Kms.askProvider op >>= next) (Kms.askProvider op >>= next') kms kms' post := by
  refine .bind_run rfl rfl ?_
  show EndsAlike (next (kms.providerReply op)) (next' (kms'.providerReply op)) _ _ post
  rw [h.providerReply_eq hop]
  exact hnext (h.afterProvider hop)

omit [RandomSource R] in
/-- A token that is only told when it has the function. -/
theorem bind_told [ExternalToken T] (h : kms.SameBut handle kms') {isTold : Bool} {op : TokenOp}
    {wrap : op.Reply → β} {silent : β} {next next' : β → Step (SoftwareCrypto R) T ScheduledNvm α}
    (hnext : (kms.told isTold op).SameBut handle (kms'.told isTold op) →
      ∀ reply, EndsAlike (next reply) (next' reply) (kms.told isTold op) (kms'.told isTold op)
        post) :
    EndsAlike
      (if isTold = true then (wrap <$> Kms.askToken op : Step _ T _ β) >>= next
        else (pure silent : Step _ T _ β) >>= next)
      (if isTold = true then (wrap <$> Kms.askToken op : Step _ T _ β) >>= next'
        else (pure silent : Step _ T _ β) >>= next') kms kms' post := by
  cases isTold with
  | true =>
    refine .bind_run rfl rfl ?_
    show EndsAlike (next (wrap (kms.tokenReply op))) (next' (wrap (kms'.tokenReply op))) _ _ post
    rw [h.tokenReply_eq]
    exact hnext (h.afterToken op) _
  | false => exact .bind_run rfl rfl (hnext h silent)

omit [RandomSource R] in
theorem bind_updateSessions (h : kms.SameBut handle kms')
    {f : SessionTable → Except ReturnCode SessionTable} {table : SessionTable}
    (hf : f kms.sessions = .ok table)
    {next next' : Unit → Step (SoftwareCrypto R) T ScheduledNvm α}
    (hnext : EndsAlike (next ()) (next' ()) { kms with sessions := table }
      { kms' with sessions := table } post) :
    EndsAlike (updateSessions f >>= next) (updateSessions f >>= next') kms kms' post :=
  .bind_run (run_updateSessions hf) (run_updateSessions (by rw [h.sessions_eq, hf])) hnext

omit [RandomSource R] in
theorem onStore (h : kms.SameBut handle kms') {step : ObjectStore.Step ScheduledNvm α}
    (hstep : EndsAlike step step kms.store kms'.store (ObjectStore.SameBut handle)) :
    EndsAlike (Kms.onStore step) (Kms.onStore step) kms kms' (SameBut handle) :=
  .within (.mapError hstep) fun _ _ hstore => h.withStore hstore

theorem bind_conclude (h : kms.SameBut handle kms') {session : SessionHandle} {isEnded : Bool}
    {next next' : Unit → Step (SoftwareCrypto R) T ScheduledNvm α}
    (hnext : ∀ kms kms', kms.SameBut handle kms' →
      EndsAlike (next ()) (next' ()) kms kms' post) :
    EndsAlike (conclude session isEnded >>= next) (conclude session isEnded >>= next') kms kms'
      post :=
  .bind_run (run_conclude kms session isEnded) (run_conclude kms' session isEnded)
    (hnext _ _ (h.concluded session isEnded))

theorem delivering {session : SessionHandle} {room : Option Nat}
    {lastStep : Bool} {step step' : Step (SoftwareCrypto R) T ScheduledNvm Delivery}
    (hstep : EndsAlike step step' kms kms' (SameBut handle)) :
    EndsAlike (Kms.delivering session room lastStep step)
      (Kms.delivering session room lastStep step') kms kms' (SameBut handle) :=
  .bind_kept hstep fun _ _ _ h => h.bind_conclude fun _ _ h => .pure h

/-- An operation that began with the object ends in both, and any other goes on in both. -/
theorem bind_operationKey (h : kms.SameBut handle kms') (hnull : handle ≠ noKey)
    {session : SessionHandle} {state : SessionState}
    {next next' : ObjectHandle → Step (SoftwareCrypto R) T ScheduledNvm α}
    (hnext : ∀ record, kms.requireState session state = .ok record →
      ¬kms.sessions.Remembers session handle →
      EndsAlike (next record.key) (next' record.key) kms kms' (SameBut handle)) :
    EndsAlike (operationKey session state >>= next) (operationKey session state >>= next') kms kms'
      (SameBut handle) := by
  have hrun := run_operationKey_eq kms session state
  have hrun' := run_operationKey_eq kms' session state
  rw [h.requireState_eq, h.latches_eq] at hrun'
  cases hstate : kms.requireState session state with
  | error code =>
    rw [hstate] at hrun hrun'
    exact .bind_failed hrun hrun' h
  | ok record =>
    simp only [hstate] at hrun hrun'
    by_cases hlatch : record.key ≠ noKey ∧ kms.latches.isKeyLocked record.key = true
    · rw [if_pos hlatch] at hrun hrun'
      exact .bind_failed hrun hrun' (h.ended session)
    · rw [if_neg hlatch] at hrun hrun'
      have hget := (requireSession_eq_ok.mp (requireState_eq_ok.mp hstate).1).2
      have hne : record.key ≠ handle := by
        rintro rfl
        exact hlatch ⟨hnull, h.latched⟩
      exact .bind_run hrun hrun' (hnext record hstate (SessionTable.not_remembers hget hne))

omit [RandomSource R] in
/-- What every beginning does with the code of the collaborator that was asked. -/
theorem settle (h : kms.SameBut handle kms') {session : SessionHandle} {record : Session}
    (hget : kms.sessions.sessions.get? session = some record) (hne : record.key ≠ handle)
    (code : ReturnCode) (state : SessionState) (key : ObjectHandle) :
    EndsAlike (do
      Action.ofExcept code.toExcept
      updateSessions fun table => table.setState session state key
      pure ReturnCode.ok) (do
      Action.ofExcept code.toExcept
      updateSessions fun table => table.setState session state key
      pure ReturnCode.ok) kms kms' (SameBut handle) :=
  .bind_ofExcept h fun _ _ => h.bind_updateSessions (SessionTable.update_eq_put _ hget)
    (.pure (h.put _ (SessionTable.not_remembers hget hne)))

omit [RandomSource R] in
theorem storeObject (h : kms.SameBut handle kms') (range : Provenance) (parts : List Template) :
    EndsAlike (Kms.storeObject range parts) (Kms.storeObject range parts) kms kms'
      (SameBut handle) := by
  refine .bind_get ?_
  rw [h.store.freeHandle_eq]
  refine .bind_ofExcept h fun free _ => ?_
  cases serialise Limits.objectLength free parts with
  | error refusal => exact .throw h
  | ok blob => exact h.onStore (h.store.insert blob)

theorem providerMechanismInfo (h : kms.SameBut handle kms') (mechanism : MechanismKind) :
    EndsAlike (Kms.providerMechanismInfo mechanism) (Kms.providerMechanismInfo mechanism) kms kms'
      (SameBut handle) := by
  have hknown (crypto : SoftwareCrypto R) : CryptoProvider.mechanismInfo crypto mechanism =
      SoftwareCrypto.mechanismInfo mechanism := rfl
  refine .bind_get ?_
  rw [hknown, hknown]
  cases SoftwareCrypto.mechanismInfo mechanism with
  | some info => exact .pure h
  | none => exact .throw h

end Rules

end SameBut

end Kms

end KeyEnclave
