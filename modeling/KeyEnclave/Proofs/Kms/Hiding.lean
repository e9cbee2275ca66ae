import KeyEnclave.Proofs.Kms.SameBut

/-!
# A latched object can not be observed

Each request is followed in two services that are the same but for a latched object. It is answered
alike, and leaves services that are the same but for that object; so are all requests of a run.

## Main definitions

* `Kms.Hides` — a step ends alike on services that are the same but for a latched object.

## Main results

* `Kms.serve_hides` — serving any request does.
* `Kms.latched_object_is_hidden` — all calls of a run are answered alike.
-/

namespace KeyEnclave.Kms

open KeyEnclave.Action

variable {R T α : Type} {layout : ObjectLayout} {embedded : List Bytes} {handle : ObjectHandle}

/-- From a well-formed service and one that is the same but for a latched object, a step ends alike
and leaves two such services. -/
def Hides (layout : ObjectLayout) (embedded : List Bytes) (handle : ObjectHandle)
    (step : Step (SoftwareCrypto R) T ScheduledNvm α) : Prop :=
  ∀ kms kms', kms.IsSound layout embedded → kms.SameBut handle kms' →
    EndsAlike step step kms kms' (SameBut handle)

theorem codeOnly_hides {step : Step (SoftwareCrypto R) T ScheduledNvm ReturnCode}
    (h : Hides layout embedded handle step) : Hides layout embedded handle (codeOnly step) :=
  fun kms kms' hsound hsame => .bind_pure (h kms kms' hsound hsame)

section Sessions

variable {kms : Kms (SoftwareCrypto R) T ScheduledNvm} {session : SessionHandle} {record : Session}

theorem isKeyed_of_idle (hidle : requireIdle record = .ok ()) : record.state.isKeyed = false := by
  rw [requireIdle_eq_ok.mp hidle]
  rfl

theorem IsSound.key_ne (hsound : kms.IsSound layout embedded) (hnull : handle ≠ noKey)
    (hsession : kms.requireSession session = .ok record) (hstate : record.state.isKeyed = false) :
    record.key ≠ handle := by
  rintro rfl
  have hrecord := hsound.session session record (requireSession_eq_ok.mp hsession).2
  rw [hrecord.key_ne.mp hnull] at hstate
  cases hstate

theorem IsSound.not_remembers (hsound : kms.IsSound layout embedded) (hnull : handle ≠ noKey)
    (hsession : kms.requireSession session = .ok record) (hstate : record.state.isKeyed = false) :
    ¬kms.sessions.Remembers session handle :=
  SessionTable.not_remembers (requireSession_eq_ok.mp hsession).2
    (hsound.key_ne hnull hsession hstate)

end Sessions

-- ═══════════════════════════════════════════════════════════════════════════
-- Requests that ask neither token nor provider
-- ═══════════════════════════════════════════════════════════════════════════

theorem getInfo_hides : Hides (R := R) (T := T) layout embedded handle getInfo := by
  intro kms kms' _ h
  refine .bind_get ?_
  rw [h.requireUp_eq]
  exact .bind_ofExcept h fun _ _ => .pure h

theorem getSlotList_hides (room : Option Nat) :
    Hides (R := R) (T := T) layout embedded handle (getSlotList room) := by
  intro kms kms' _ h
  refine .bind_get ?_
  rw [h.requireUp_eq]
  refine .bind_ofExcept h fun _ _ => ?_
  rcases room with _ | _ | room
  all_goals exact .pure h

theorem getSlotInfo_hides (slot : UInt32) :
    Hides (R := R) (T := T) layout embedded handle (getSlotInfo slot) := by
  intro kms kms' _ h
  refine .bind_get ?_
  rw [h.requireSlot_eq]
  exact .bind_ofExcept h fun _ _ => .pure h

theorem getSessionInfo_hides (session : SessionHandle) :
    Hides (R := R) (T := T) layout embedded handle (getSessionInfo session) := by
  intro kms kms' _ h
  refine .bind_get ?_
  rw [h.requireSession_eq]
  exact .bind_ofExcept h fun _ _ => .pure h

theorem importBlob_hides (header blob : Bytes) :
    Hides (R := R) (T := T) layout embedded handle (importBlob header blob) := by
  intro kms kms' _ h
  refine .bind_get ?_
  rw [h.requireUp_eq, h.sessions_eq, h.requireBlobKeys_eq, h.layout_eq]
  simp only [h.authenticateHeader_eq, h.openPayload_eq]
  refine .bind_ofExcept h fun _ _ => .failing h fun _ => ?_
  iterate 5 refine .bind_ofExcept h fun _ _ => ?_
  exact .bind_pure (h.onStore (h.store.installAll _))

theorem lockKeys_hides (keys : List ObjectHandle) :
    Hides (R := R) (T := T) layout embedded handle (lockKeys keys) := by
  intro kms kms' _ h
  refine .bind_get ?_
  rw [h.requireUp_eq, h.latches_eq]
  refine .bind_ofExcept h fun _ _ => .failing h fun _ => .bind_set (.pure (h.withLatches ?_))
  have hhandle : handle.toNat < Limits.lockableKeys := BitVec.lt_of_getLsbD h.latched
  exact (Latches.isKeyLocked_lockKeys hhandle keys kms.latches).mpr (.inl h.latched)

theorem lockServices_hides (functions : List UInt32) :
    Hides (R := R) (T := T) layout embedded handle (lockServices functions) := by
  intro kms kms' _ h
  refine .bind_get ?_
  rw [h.requireUp_eq, h.latches_eq]
  refine .bind_ofExcept h fun _ _ => .failing h fun _ => .bind_set (.pure (h.withLatches ?_))
  rw [Latches.isKeyLocked_lockFunctions]
  exact h.latched

-- ═══════════════════════════════════════════════════════════════════════════
-- Requests that ask the token
-- ═══════════════════════════════════════════════════════════════════════════

section Token

variable [ExternalToken T]

theorem getTokenInfo_hides (slot : UInt32) :
    Hides (R := R) (T := T) layout embedded handle (getTokenInfo slot) := by
  intro kms kms' _ h
  refine .bind_get ?_
  rw [h.requireSlot_eq, h.tokenInfo_eq]
  exact .bind_ofExcept h fun _ _ => .pure h

theorem bringUp_hides : Hides (R := R) (T := T) layout embedded handle bringUp := by
  intro kms kms' hsound h
  refine .bind_get ?_
  rw [h.tokenImplements_eq, h.sessions_eq]
  refine h.bind_told fun htold external => ?_
  cases hup : kms.sessions.isUp with
  | true =>
    have hsessions := SessionTable.sessions_bringUp hup
    have hown := SessionTable.bringUp_of_isUp hup
    rcases hbroughtUp : kms.sessions.bringUp with ⟨own, sessions⟩
    rw [hbroughtUp] at hsessions hown
    refine .bind_modify ?_
    rw [if_neg hown]
    refine .pure (htold.withSessions fun session hremembers => ?_)
    rw [told_sessions] at hremembers
    exact hremembers.congr (congrArg (·.get? session) hsessions)
  | false =>
    rw [SessionTable.bringUp_of_isDown hup]
    refine .bind_modify ?_
    rw [if_pos rfl]
    have hopened : ({ kms.told (kms.tokenImplements .initialise) .initialise with
        sessions := ⟨1, .empty⟩ }).SameBut handle _ :=
      htold.withSessions fun session hremembers => by
        rw [told_sessions] at hremembers
        exact absurd hremembers (SessionTable.not_remembers_of_none (hsound.closed hup session))
    -- after a failure to load, the table that was just made is closed again
    have hload : EndsAlike (onStore ObjectStore.load) (onStore ObjectStore.load) _ _
        fun after after' => after.SameBut handle after' ∧ after.sessions = ⟨1, .empty⟩ :=
      .within (.mapError hopened.store.load) fun _ _ hstore => ⟨hopened.withStore hstore, rfl⟩
    refine .bind_attempt hload fun outcome after after' ⟨hafter, hsessions⟩ => ?_
    cases outcome with
    | ok u => exact .pure hafter
    | error code =>
      refine .bind_modify (.pure ?_)
      rw [hafter.sessions_eq]
      refine hafter.withSessions fun session hremembers => ?_
      rw [hsessions] at hremembers
      exact absurd hremembers (SessionTable.not_remembers_of_none (PerSession.get?_empty session))

theorem openSession_hides (hnull : handle ≠ noKey) (slot : UInt32) (flags : Flags)
    (notify : Option Notify) :
    Hides (R := R) (T := T) layout embedded handle (openSession slot flags notify) := by
  intro kms kms' _ h
  refine .bind_get ?_
  rw [h.requireUp_eq, h.sessions_eq, h.tokenImplements_eq]
  refine .bind_ofExcept h fun _ _ => .bind_ofExcept h fun opened hopened => ?_
  rcases opened with ⟨session, sessions⟩
  obtain ⟨-, hfree, rfl⟩ := SessionTable.openSession_eq_ok hopened
  have hput := h.put (Session.fresh slot flags notify)
    (SessionTable.not_remembers_of_none (PerSession.get?_firstFree? hfree))
  have hget : (kms.sessions.put session (Session.fresh slot flags notify)).sessions.get? session =
      some (Session.fresh slot flags notify) := by
    rw [SessionTable.get?_put_of_index (PerSession.index?_isSome_of_firstFree? hfree), if_pos rfl]
  refine .bind_set (.ite (fun _ => hput.bind_askToken fun hasked => ?_) fun _ => .pure hput)
  have hblind (op : TokenOp) (sessions : SessionTable) :
      ({ kms with sessions := sessions }).tokenReply op = kms.tokenReply op := rfl
  rw [hblind]
  cases kms.tokenReply (.openSession slot flags notify.isSome) with
  | ok external =>
    exact hasked.bind_updateSessions (SessionTable.update_eq_put _ hget)
      (.pure (hasked.put _ (SessionTable.not_remembers hget hnull.symm)))
  | error code =>
    refine hasked.bind_updateSessions (SessionTable.close_eq_drop hget) (.throw ?_)
    rw [SessionTable.drop_put (PerSession.get?_firstFree? hfree)]
    exact (h.afterToken _).withSessions fun _ hremembers => hremembers

theorem createObject_hides (session : SessionHandle) (template : Template) :
    Hides (R := R) (T := T) layout embedded handle (createObject session template) := by
  intro kms kms' _ h
  refine .bind_get ?_
  rw [h.requireSession_eq, h.tokenSession_eq, h.layout_eq]
  refine .bind_ofExcept h fun record _ => ?_
  cases kms.tokenSession .createObject session with
  | ok external =>
    exact h.bind_askToken fun hasked => .bind_ofExcept hasked fun _ _ => .pure hasked
  | error code =>
    refine .bind_ofExcept h fun _ _ => .failing h fun _ => ?_
    exact .bind_pure (h.storeObject _ _)

theorem destroyObject_hides (session : SessionHandle) (object : ObjectHandle) :
    Hides (R := R) (T := T) layout embedded handle (destroyObject session object) := by
  intro kms kms' _ h
  refine .bind_get ?_
  rw [h.requireSession_eq, h.latches_eq, h.layout_eq, h.tokenSession_eq, h.lookup_eq]
  refine .bind_ofExcept h fun record _ => .failing h fun _ => ?_
  cases kms.layout.classify object with
  | extTokenStatic | extTokenDynamic =>
    exact .bind_ofExcept h fun external _ => h.askToken _
  | nvmDynamic | vmDynamic =>
    cases kms.lookup object with
    | none => exact .throw h
    | some target =>
      refine .failing h fun _ => ?_
      exact .bind_pure (h.onStore (h.store.remove object))
  | embedded | nvmStatic | unknown => exact .throw h

theorem getAttributeValue_hides (session : SessionHandle) (object : ObjectHandle)
    (queries : List AttributeQuery) :
    Hides (R := R) (T := T) layout embedded handle (getAttributeValue session object queries) := by
  intro kms kms' _ h
  refine .bind_get ?_
  rw [h.requireSession_eq, h.latches_eq, h.layout_eq, h.tokenSession_eq, h.lookup_eq]
  refine .bind_ofExcept h fun record _ => .failing h fun _ => .ite (fun _ => ?_) fun _ => ?_
  · exact .bind_ofExcept h fun external _ => h.bind_askToken .pure
  · refine .bind_ofExcept h fun _ _ => ?_
    cases kms.lookup object with
    | none => exact .throw h
    | some target => exact .ite (fun _ => .pure h) fun _ => .pure h

theorem setAttributeValue_hides (session : SessionHandle) (object : ObjectHandle)
    (template : Template) :
    Hides (R := R) (T := T) layout embedded handle (setAttributeValue session object template) := by
  intro kms kms' _ h
  refine .bind_get ?_
  rw [h.requireSession_eq, h.latches_eq, h.layout_eq, h.tokenSession_eq]
  refine .bind_ofExcept h fun record _ => .failing h fun _ => .ite (fun _ => ?_) fun _ => ?_
  · exact .bind_ofExcept h fun external _ => h.askToken _
  · exact .ite (fun _ => .throw h) fun _ => .throw h

theorem findObjectsInit_hides (hnull : handle ≠ noKey) (session : SessionHandle)
    (template : Template) :
    Hides (R := R) (T := T) layout embedded handle (findObjectsInit session template) := by
  intro kms kms' hsound h
  refine .bind_get ?_
  rw [h.requireSession_eq, h.tokenSession_eq, h.matching_eq]
  refine .bind_ofExcept h fun record hsession => ?_
  cases kms.tokenSession .findObjectsInit session with
  | ok external => exact h.askToken _
  | error code =>
    refine .bind_ofExcept h fun _ hidle => ?_
    have hget := (requireSession_eq_ok.mp hsession).2
    exact h.bind_updateSessions (SessionTable.update_eq_put _ hget)
      (.pure (h.put _ (hsound.not_remembers hnull hsession (isKeyed_of_idle hidle))))

theorem findObjects_hides (hnull : handle ≠ noKey) (session : SessionHandle) (capacity : Nat) :
    Hides (R := R) (T := T) layout embedded handle (findObjects session capacity) := by
  intro kms kms' hsound h
  refine .bind_get ?_
  rw [h.requireSession_eq, h.tokenSession_eq, h.sessions_eq]
  refine .bind_ofExcept h fun record hsession => .failing h fun _ => ?_
  cases kms.tokenSession .findObjects session with
  | ok external =>
    exact h.bind_askToken fun hasked => .bind_ofExcept hasked fun _ _ => .pure hasked
  | error code =>
    refine .bind_ofExcept h fun turned hturned => ?_
    rcases turned with ⟨page, sessions⟩
    obtain ⟨hstate, rfl, rfl⟩ :=
      SessionTable.nextFound_eq_ok (requireSession_eq_ok.mp hsession).2 hturned
    refine .bind_set (.pure (h.put _ (hsound.not_remembers hnull hsession ?_)))
    rw [hstate]
    rfl

theorem findObjectsFinal_hides (hnull : handle ≠ noKey) (session : SessionHandle) :
    Hides (R := R) (T := T) layout embedded handle (findObjectsFinal session) := by
  intro kms kms' hsound h
  refine .bind_get ?_
  rw [h.requireSession_eq, h.tokenSession_eq]
  refine .bind_ofExcept h fun record hsession => ?_
  cases kms.tokenSession .findObjectsFinal session with
  | ok external => exact h.askToken _
  | error code =>
    refine .failing h fun hstate => .bind_modify (.pure ?_)
    rw [h.sessions_eq, SessionTable.reset_eq_put (requireSession_eq_ok.mp hsession).2]
    refine h.put _ (hsound.not_remembers hnull hsession ?_)
    rw [Decidable.not_not.mp hstate]
    rfl

theorem generateRandom_hides (session : SessionHandle) (length : Nat) :
    Hides (R := R) (T := T) layout embedded handle (generateRandom session length) := by
  intro kms kms' _ h
  refine .bind_get ?_
  rw [h.requireSession_eq, h.tokenSession_eq]
  refine .bind_ofExcept h fun _ _ => .bind_ofExcept h fun external _ => ?_
  exact h.bind_askToken .pure

/-- The token is asked to begin an operation, and no session changes yet. -/
theorem signVerifyInitExternal_alike {kms kms' : Kms (SoftwareCrypto R) T ScheduledNvm}
    (h : kms.SameBut handle kms') (session : SessionHandle) (mechanism : Mechanism)
    (key : ObjectHandle) (purpose : Purpose) :
    EndsAlike (signVerifyInitExternal session mechanism key purpose)
      (signVerifyInitExternal session mechanism key purpose) kms kms'
      fun after after' => after.SameBut handle after' ∧ after.sessions = kms.sessions := by
  cases purpose with
  | signing | verifying =>
    refine .bind_get ?_
    rw [h.tokenSession_eq]
    refine .bind_ofExcept ⟨h, rfl⟩ fun external _ => ?_
    exact ⟨(h.askToken _).1, (h.askToken _).2, rfl⟩

end Token

-- ═══════════════════════════════════════════════════════════════════════════
-- Requests that ask the provider
-- ═══════════════════════════════════════════════════════════════════════════

section Provider

variable [RandomSource R]

theorem cryptInit_hides (hnull : handle ≠ noKey) (session : SessionHandle)
    (mechanism : Option PlacedMechanism) (key : ObjectHandle) (direction : Direction) :
    Hides (R := R) (T := T) layout embedded handle
      (cryptInit session mechanism key direction) := by
  intro kms kms' hsound h
  refine .bind_ofExcept h fun given _ => .bind_get ?_
  rw [h.requireSession_eq, h.layout_eq, h.lookup_eq]
  refine .bind_ofExcept h fun record hsession => .failing h fun _ => ?_
  refine .bind_ofExcept h fun _ hidle => ?_
  have hget := (requireSession_eq_ok.mp hsession).2
  have hne := hsound.key_ne hnull hsession (isKeyed_of_idle hidle)
  have hquiet := SessionTable.not_remembers hget hne
  cases kms.lookup key with
  | none => exact .throw h
  | some object =>
    cases direction with
    | encrypting | decrypting =>
      exact h.bind_askProvider (SessionTable.not_remembers_of_isOf ⟨_, .inl rfl⟩ hquiet)
        fun hasked => hasked.settle hget hne _ _ key

theorem digestInit_hides (hnull : handle ≠ noKey) (session : SessionHandle)
    (mechanism : Option PlacedMechanism) :
    Hides (R := R) (T := T) layout embedded handle (digestInit session mechanism) := by
  intro kms kms' hsound h
  refine .bind_ofExcept h fun given _ => .bind_get ?_
  rw [h.requireSession_eq]
  refine .bind_ofExcept h fun record hsession => .bind_ofExcept h fun _ hidle => ?_
  have hget := (requireSession_eq_ok.mp hsession).2
  have hne := hsound.key_ne hnull hsession (isKeyed_of_idle hidle)
  have hquiet := SessionTable.not_remembers hget hne
  exact h.bind_askProvider (SessionTable.not_remembers_of_isOf ⟨_, .inl rfl⟩ hquiet)
    fun hasked => hasked.settle hget hne _ _ _

/-- A step of a cipher, with an operation of the provider. -/
theorem cipherStep_hides (hnull : handle ≠ noKey) {session : SessionHandle} {state : SessionState}
    {room : Option Nat} {lastStep : Bool} {step : Step (SoftwareCrypto R) T ScheduledNvm Delivery}
    (hstep : ∀ kms kms', kms.SameBut handle kms' → ¬kms.sessions.Remembers session handle →
      EndsAlike step step kms kms' (SameBut handle)) :
    Hides layout embedded handle (do
      let _ ← operationKey session state
      delivering session room lastStep step) :=
  fun kms kms' _ h => h.bind_operationKey hnull fun _ _ hquiet =>
    SameBut.delivering (hstep kms kms' h hquiet)

/-- A step of a digest, with an operation of the provider. -/
theorem digestStep_hides (hnull : handle ≠ noKey) {session : SessionHandle} {room : Option Nat}
    {step : Step (SoftwareCrypto R) T ScheduledNvm Delivery}
    (hstep : ∀ kms kms', kms.SameBut handle kms' → ¬kms.sessions.Remembers session handle →
      EndsAlike step step kms kms' (SameBut handle)) :
    Hides layout embedded handle (do
      let _ ← Action.ofExcept ((← get).requireState session .digesting)
      delivering session room true step) := by
  intro kms kms' hsound h
  refine .bind_get ?_
  rw [h.requireState_eq]
  refine .bind_ofExcept h fun record hrecord => SameBut.delivering (hstep kms kms' h ?_)
  obtain ⟨hsession, hstate⟩ := requireState_eq_ok.mp hrecord
  exact hsound.not_remembers hnull hsession (by rw [hstate]; rfl)

theorem digestUpdate_hides (hnull : handle ≠ noKey) (session : SessionHandle) (data : Bytes) :
    Hides (R := R) (T := T) layout embedded handle (digestUpdate session data) := by
  intro kms kms' hsound h
  refine .bind_get ?_
  rw [h.requireState_eq]
  refine .bind_ofExcept h fun record hrecord => ?_
  obtain ⟨hsession, hstate⟩ := requireState_eq_ok.mp hrecord
  have hquiet := hsound.not_remembers hnull hsession (by rw [hstate]; rfl)
  exact h.bind_askProvider (SessionTable.not_remembers_of_isOf ⟨_, .inr rfl⟩ hquiet)
    fun hasked => hasked.bind_conclude fun _ _ h => .pure h

/-- The provider is asked to begin an operation, and no session changes yet. -/
theorem signVerifyInitLocal_alike {kms kms' : Kms (SoftwareCrypto R) T ScheduledNvm}
    (h : kms.SameBut handle kms') {session : SessionHandle}
    (hquiet : ¬kms.sessions.Remembers session handle) (mechanism : Mechanism) (key : ObjectHandle)
    (purpose : Purpose) :
    EndsAlike (signVerifyInitLocal session mechanism key purpose)
      (signVerifyInitLocal session mechanism key purpose) kms kms'
      fun after after' => after.SameBut handle after' ∧ after.sessions = kms.sessions := by
  refine .bind_get ?_
  rw [h.lookup_eq]
  cases kms.lookup key with
  | none => exact .throw ⟨h, rfl⟩
  | some object =>
    have hasked {op : ProviderOp} (hop : op.IsOf session) :
        EndsAlike (askProvider op) (askProvider op) kms kms'
          fun after after' => after.SameBut handle after' ∧ after.sessions = kms.sessions :=
      have hquiet := SessionTable.not_remembers_of_isOf hop hquiet
      ⟨(h.askProvider hquiet).1, h.afterProvider hquiet, rfl⟩
    cases purpose with
    | signing => exact hasked ⟨_, .inl rfl⟩
    | verifying => exact hasked ⟨_, .inl rfl⟩

end Provider

-- ═══════════════════════════════════════════════════════════════════════════
-- Requests that ask both
-- ═══════════════════════════════════════════════════════════════════════════

section Both

variable [RandomSource R] [ExternalToken T]

theorem getMechanismInfo_hides (slot : UInt32) (mechanism : MechanismKind) :
    Hides (R := R) (T := T) layout embedded handle (getMechanismInfo slot mechanism) := by
  intro kms kms' _ h
  refine .bind_get ?_
  rw [h.requireSlot_eq, h.tokenImplements_eq]
  refine .bind_ofExcept h fun _ _ => .ite (fun _ => h.bind_askToken fun hasked => ?_) fun _ => ?_
  · cases kms.tokenReply (.getMechanismInfo slot mechanism) with
    | ok info => exact .pure hasked
    | error code => exact hasked.providerMechanismInfo mechanism
  · exact h.providerMechanismInfo mechanism

theorem bringDown_hides : Hides (R := R) (T := T) layout embedded handle bringDown := by
  intro kms kms' _ h
  refine .bind_get ?_
  rw [h.tokenImplements_eq, h.sessions_eq]
  refine h.bind_told fun htold external => ?_
  by_cases hnesting : kms.sessions.nesting = 1
  · rw [SessionTable.bringDown_of_one hnesting]
    refine .bind_modify (.bind_run (run_releaseContexts _ _) (run_releaseContexts _ _) ?_)
    exact .bind_modify (.pure ⟨htold.latched, htold.latches_eq, rfl, htold.token_eq,
      htold.blobKeys_eq, htold.store.release, htold.crypto.releasedContexts⟩)
  · have hsessions := SessionTable.sessions_bringDown hnesting
    have hstays := SessionTable.bringDown_of_ne_one hnesting
    rcases hlowered : kms.sessions.bringDown with ⟨own, wentDown, sessions⟩
    rw [hlowered] at hsessions hstays
    obtain rfl : wentDown = false := hstays
    refine .bind_modify (.pure (htold.withSessions fun session hremembers => ?_))
    rw [told_sessions] at hremembers
    exact hremembers.congr (congrArg (·.get? session) hsessions)

theorem closeSession_hides (session : SessionHandle) :
    Hides (R := R) (T := T) layout embedded handle (closeSession session) := by
  intro kms kms' _ h
  refine .bind_get ?_
  rw [h.requireSession_eq, h.tokenImplements_eq]
  refine .bind_ofExcept h fun record hsession => h.bind_told fun htold external => ?_
  generalize (kms.tokenImplements .closeSession && _) = isTold at htold ⊢
  have hget : (kms.told isTold (.closeSession record.external)).sessions.sessions.get? session =
      some record := by
    rw [told_sessions]
    exact (requireSession_eq_ok.mp hsession).2
  refine htold.bind_askProvider (fun other h => absurd h (ProviderOp.not_isOf rfl rfl other))
    fun hasked => hasked.bind_updateSessions (SessionTable.close_eq_drop hget) (.pure ?_)
  refine htold.released fun other hne => ?_
  rw [SessionTable.get?_drop, if_neg hne]

theorem signVerifyInit_hides (hnull : handle ≠ noKey) (session : SessionHandle)
    (mechanism : Option PlacedMechanism) (key : ObjectHandle) (purpose : Purpose) :
    Hides (R := R) (T := T) layout embedded handle
      (signVerifyInit session mechanism key purpose) := by
  intro kms kms' hsound h
  refine .bind_ofExcept h fun given _ => .bind_get ?_
  rw [h.requireSession_eq, h.layout_eq, h.latches_eq]
  refine .bind_ofExcept h fun record hsession => .bind_ofExcept h fun _ hidle => ?_
  refine .failing h fun _ => ?_
  have hget := (requireSession_eq_ok.mp hsession).2
  have hne := hsound.key_ne hnull hsession (isKeyed_of_idle hidle)
  have hsettled (code : ReturnCode) (after after' : Kms (SoftwareCrypto R) T ScheduledNvm)
      (hafter : after.SameBut handle after' ∧ after.sessions = kms.sessions) :=
    hafter.1.settle (hafter.2 ▸ hget) hne code purpose.state key
  refine .ite (fun _ => ?_) fun _ => .ite (fun _ => ?_) fun _ => .bind_throw h
  · exact .bind (signVerifyInitExternal_alike h session given key purpose)
      (fun _ _ h => h.1) hsettled
  · exact .bind (signVerifyInitLocal_alike h (SessionTable.not_remembers hget hne) given key purpose)
      (fun _ _ h => h.1) hsettled

theorem sign_hides (hnull : handle ≠ noKey) (session : SessionHandle) (data : Bytes)
    (room : Option Nat) :
    Hides (R := R) (T := T) layout embedded handle (sign session data room) := by
  intro kms kms' _ h
  refine h.bind_operationKey hnull fun record _ hquiet => .bind_get ?_
  rw [h.layout_eq, h.tokenSession_eq]
  refine SameBut.delivering (.ite (fun _ => ?_) fun _ => ?_)
  · cases kms.tokenSession .sign session with
    | ok external => exact h.askToken _
    | error code => exact .pure h
  · exact h.askProvider (SessionTable.not_remembers_of_isOf ⟨_, .inr rfl⟩ hquiet)

theorem verify_hides (hnull : handle ≠ noKey) (session : SessionHandle) (data signature : Bytes) :
    Hides (R := R) (T := T) layout embedded handle (verify session data signature) := by
  intro kms kms' _ h
  refine h.bind_operationKey hnull fun record _ hquiet => .bind_get ?_
  rw [h.layout_eq, h.tokenSession_eq]
  refine .ite (fun _ => ?_) fun _ => ?_
  · cases kms.tokenSession .verify session with
    | ok external =>
      exact h.bind_askToken fun hasked => hasked.bind_conclude fun _ _ h => .pure h
    | error code => exact .bind_run rfl rfl (h.bind_conclude fun _ _ h => .pure h)
  · exact h.bind_askProvider (SessionTable.not_remembers_of_isOf ⟨_, .inr rfl⟩ hquiet)
      fun hasked => hasked.bind_conclude fun _ _ h => .pure h

theorem deriveKey_hides (session : SessionHandle) (mechanism : Option PlacedMechanism)
    (baseKey : ObjectHandle) (template : Template) :
    Hides (R := R) (T := T) layout embedded handle
      (deriveKey session mechanism baseKey template) := by
  intro kms kms' _ h
  refine .bind_ofExcept h fun given _ => .bind_get ?_
  rw [h.requireSession_eq, h.latches_eq, h.layout_eq, h.tokenSession_eq, h.lookup_eq]
  refine .bind_ofExcept h fun record _ => .failing h fun _ => ?_
  refine .ite (fun _ => ?_) fun _ => .ite (fun _ => ?_) fun _ => .throw h
  · refine .bind_ofExcept h fun external _ => ?_
    exact h.bind_askToken fun hasked => .bind_ofExcept hasked fun _ _ => .pure hasked
  · refine .bind_ofExcept h fun length _ => ?_
    cases kms.lookup baseKey with
    | none => exact .throw h
    | some base =>
      refine h.bind_askProvider (fun other h => absurd h (ProviderOp.not_isOf rfl rfl other))
        fun hasked => .bind_ofExcept hasked fun value _ => ?_
      exact .bind_pure (hasked.storeObject _ _)

theorem generateKeyPair_hides (session : SessionHandle) (mechanism : Option PlacedMechanism)
    (publicTemplate privateTemplate : Template) :
    Hides (R := R) (T := T) layout embedded handle
      (generateKeyPair session mechanism publicTemplate privateTemplate) := by
  intro kms kms' _ h
  refine .bind_ofExcept h fun given _ => .bind_get ?_
  rw [h.requireSession_eq, h.layout_eq, h.tokenSession_eq]
  refine .bind_ofExcept h fun record _ => ?_
  cases kms.tokenSession .generateKeyPair session with
  | ok external =>
    exact h.bind_askToken fun hasked => .bind_ofExcept hasked fun _ _ => .pure hasked
  | error code =>
    refine h.bind_askProvider (fun other h => absurd h (ProviderOp.not_isOf rfl rfl other))
      fun hasked => .bind_ofExcept hasked fun halves _ => ?_
    refine .bind_kept (hasked.storeObject _ _) fun publicKey _ _ h => ?_
    refine .bind_attempt (h.storeObject _ _) fun stored _ _ h => ?_
    cases stored with
    | ok privateKey => exact .pure h
    | error code =>
      exact .bind_attempt (h.onStore (h.store.remove publicKey)) fun _ _ _ h => .throw h

end Both

-- ═══════════════════════════════════════════════════════════════════════════
-- All requests
-- ═══════════════════════════════════════════════════════════════════════════

variable [RandomSource R] [ExternalToken T]

theorem serve_hides (hnull : handle ≠ noKey) (request : Request) :
    Hides (R := R) (T := T) layout embedded handle (serve request) := by
  have hstep {op : ProviderOp} {session : SessionHandle} (hop : op.IsOf session)
      (kms kms' : Kms (SoftwareCrypto R) T ScheduledNvm) (h : kms.SameBut handle kms')
      (hquiet : ¬kms.sessions.Remembers session handle) :
      EndsAlike (askProvider op) (askProvider op) kms kms' (SameBut handle) :=
    h.askProvider (SessionTable.not_remembers_of_isOf hop hquiet)
  cases request with
  | initialise => exact codeOnly_hides bringUp_hides
  | finalise => exact codeOnly_hides bringDown_hides
  | getInfo => exact getInfo_hides
  | getSlotList => exact getSlotList_hides _
  | getSlotInfo => exact getSlotInfo_hides _
  | getTokenInfo => exact getTokenInfo_hides _
  | getMechanismInfo => exact getMechanismInfo_hides _ _
  | openSession => exact openSession_hides hnull _ _ _
  | closeSession => exact codeOnly_hides (closeSession_hides _)
  | getSessionInfo => exact getSessionInfo_hides _
  | createObject => exact createObject_hides _ _
  | destroyObject => exact codeOnly_hides (destroyObject_hides _ _)
  | getAttributeValue => exact getAttributeValue_hides _ _ _
  | setAttributeValue => exact codeOnly_hides (setAttributeValue_hides _ _ _)
  | findObjectsInit => exact codeOnly_hides (findObjectsInit_hides hnull _ _)
  | findObjects => exact findObjects_hides hnull _ _
  | findObjectsFinal => exact codeOnly_hides (findObjectsFinal_hides hnull _)
  | encryptInit | decryptInit => exact codeOnly_hides (cryptInit_hides hnull _ _ _ _)
  | encrypt | encryptUpdate | encryptFinal | decrypt | decryptUpdate | decryptFinal =>
    exact cipherStep_hides hnull (hstep ⟨_, .inr rfl⟩)
  | digestInit => exact codeOnly_hides (digestInit_hides hnull _ _)
  | digest | digestFinal => exact digestStep_hides hnull (hstep ⟨_, .inr rfl⟩)
  | digestUpdate => exact codeOnly_hides (digestUpdate_hides hnull _ _)
  | signInit | verifyInit => exact codeOnly_hides (signVerifyInit_hides hnull _ _ _ _)
  | sign => exact sign_hides hnull _ _ _
  | verify => exact codeOnly_hides (verify_hides hnull _ _ _)
  | deriveKey => exact deriveKey_hides _ _ _ _
  | generateKeyPair => exact generateKeyPair_hides _ _ _ _
  | generateRandom => exact generateRandom_hides _ _
  | importBlob => exact codeOnly_hides (importBlob_hides _ _)
  | lockKeys => exact codeOnly_hides (lockKeys_hides _)
  | lockServices => exact codeOnly_hides (lockServices_hides _)
  | other => exact fun _ _ _ h => .throw h

variable {kms kms' : Kms (SoftwareCrypto R) T ScheduledNvm}

/-- One call is answered alike, and leaves services that are the same but for the object. -/
theorem SameBut.next (h : kms.SameBut handle kms') (hnull : handle ≠ noKey)
    (hsound : kms.IsSound layout embedded) (call : Call) :
    kms'.answerTo call = kms.answerTo call ∧ (kms.next call).SameBut handle (kms'.next call) :=
  next_alike (h.admitted_eq call.word call.request) h
    fun _ => serve_hides hnull call.request kms kms' hsound h

/-- Whatever is called, a latched object of the enclave has no influence on any answer: two services
that are the same but for what it contains, the contexts of operations with it included, return the
same codes and write the same outputs. -/
theorem latched_object_is_hidden (hvalid : layout.validate = .ok ())
    (hsound : kms.IsSound layout embedded) (hlocal : (layout.classify handle).isLocal = true)
    (hsame : kms.SameBut handle kms') (calls : List Call) :
    (kms'.history calls).map Served.answer = (kms.history calls).map Served.answer := by
  have hnull : handle ≠ noKey := by
    rintro rfl
    rw [noKey, ObjectLayout.classify_null hvalid] at hlocal
    cases hlocal
  induction calls generalizing kms kms' with
  | nil => rfl
  | cons call calls ih =>
    obtain ⟨hanswer, hafter⟩ := hsame.next hnull hsound call
    have hrest := ih ((kms.next_effect call).isSound hvalid hsound) hafter
    show kms'.answerTo call :: _ = kms.answerTo call :: _
    rw [hanswer, hrest]

/-- A session signs with a key that is latched. With another key under the handle, in the store and
in the context of the session, every call is answered the same. -/
theorem latched_signing_key_is_hidden :
    let storage : ScheduledNvm := ⟨fun _ => none, [], fun _ _ => .done⟩
    let kms := (plain .standard (SoftwareCrypto.new (default : XorShift)) NoExternalToken.mk
      storage).after latchingRun
    let blob := (serialise Limits.objectLength 50 [[⟨AttributeKind.value, [9]⟩]]).toOption.getD []
    let kms' := { kms with
      store := { kms.store with volatile := [⟨50, blob⟩] }
      crypto := { kms.crypto with
        operations := kms.crypto.operations.set 1 (some (.hmacSign [9])) } }
    kms'.store.get? 50 ≠ kms.store.get? 50 ∧ kms.SameBut 50 kms' ∧
      ∀ calls, (kms'.history calls).map Served.answer = (kms.history calls).map Served.answer := by
  intro storage kms blob kms'
  have hvalid : ObjectLayout.standard.validate = .ok () := by decide
  have hsound : kms.IsSound .standard [] := isSound_after (new_plain hvalid _ _ _) latchingRun
  have hcopies : ∀ o ∈ kms.store.volatile, o.IsCopyOf 50 := by decide +kernel
  obtain ⟨o, hvolatile⟩ := List.length_eq_one_iff.mp
    (show kms.store.volatile.length = 1 by decide +kernel)
  rw [hvolatile] at hcopies
  have hstore : kms.store.SameBut 50 kms'.store := {
    layout_eq := rfl
    embedded := List.forall₂_same.mpr fun _ _ => .refl _
    nvm := ⟨fun _ => .refl _, rfl, rfl⟩
    cached := List.forall₂_same.mpr fun _ _ => .refl _
    volatile := by
      rw [hvolatile]
      exact .cons (.inr ⟨hcopies o (List.mem_singleton_self o), by decide +kernel⟩) .nil }
  have hsame : kms.SameBut 50 kms' := by
    refine ⟨by decide +kernel, rfl, rfl, rfl, rfl, hstore, rfl, fun session hquiet => ?_⟩
    by_cases heq : session = 1
    · subst heq
      have hkey : (kms.sessions.sessions.get? 1).map Session.key = some 50 := by decide +kernel
      exact absurd (Option.map_eq_some_iff.mp hkey) hquiet
    · exact PerSession.get?_set_other _ _ (Ne.symm heq)
  exact ⟨by decide +kernel, hsame, latched_object_is_hidden hvalid hsound (by decide) hsame⟩

end KeyEnclave.Kms
