import KeyEnclave.Proofs.Kms.Rules

/-!
# Every request has one of the effects

Each request is followed through its checks to what it does. Requests that differ only in their
operation share one proof.

## Main definitions

* `Kms.Realises` — a step does what serving a request may do.
* `Kms.Opens` — what opening a session does, with its answer.

## Main results

* `Kms.serve_realises` — serving a request has one of the effects.
* `Kms.dispatch_effect` — so has dispatching it.
-/

namespace KeyEnclave.Kms

open KeyEnclave.Action

variable {C T N α : Type} [CryptoProvider C] [ExternalToken T] [NvmStorage N] {kms : Kms C T N}

/-- A step does to the service what serving a request may do. -/
def Realises (kms : Kms C T N) (request : Request) (step : Step C T N α) : Prop :=
  step.Ends kms fun outcome => kms.Effect request outcome.state outcome.journal

theorem codeOnly_realises {request : Request} {step : Step C T N ReturnCode}
    (h : kms.Realises request step) : kms.Realises request (codeOnly step) :=
  codeOnly_ends h

-- ═══════════════════════════════════════════════════════════════════════════
-- Information
-- ═══════════════════════════════════════════════════════════════════════════

theorem getInfo_realises (info : Address) : kms.Realises (.getInfo info) getInfo :=
  Ends.bind_get (Ends.bind_ofExcept (fun _ _ => .nothing _) fun _ _ => Ends.pure (.nothing _))

theorem getSlotList_realises (present : Bool) (slots : Option Buffer) (count : Address) :
    kms.Realises (.getSlotList present slots count) (getSlotList (slots.map Buffer.room)) := by
  refine Ends.bind_get (Ends.bind_ofExcept (fun _ _ => .nothing _) fun _ _ => ?_)
  split
  all_goals exact Ends.pure (.nothing _)

theorem getSlotInfo_realises (slot : UInt32) (info : Address) :
    kms.Realises (.getSlotInfo slot info) (getSlotInfo slot) :=
  Ends.bind_get (Ends.bind_ofExcept (fun _ _ => .nothing _) fun _ _ => Ends.pure (.nothing _))

theorem getTokenInfo_realises (slot : UInt32) (info : Address) :
    kms.Realises (.getTokenInfo slot info) (getTokenInfo slot) :=
  Ends.bind_get (Ends.bind_ofExcept (fun _ _ => .nothing _) fun _ _ => Ends.pure (.nothing _))

theorem getSessionInfo_realises (session : SessionHandle) (info : Address) :
    kms.Realises (.getSessionInfo session info) (getSessionInfo session) :=
  Ends.bind_get (Ends.bind_ofExcept (fun _ _ => .nothing _) fun _ _ => Ends.pure (.nothing _))

theorem getMechanismInfo_realises (slot : UInt32) (mechanism : MechanismKind) (info : Address) :
    kms.Realises (.getMechanismInfo slot mechanism info) (getMechanismInfo slot mechanism) := by
  have hasked : kms.Effect (.getMechanismInfo slot mechanism info)
      (kms.afterToken (.getMechanismInfo slot mechanism))
      [kms.tokenEvent (.getMechanismInfo slot mechanism)] :=
    .asked _ rfl rfl (fun _ h => by cases h) (fun _ h => by cases h)
  refine Ends.bind_get (Ends.bind_ofExcept (fun _ _ => .nothing _) fun _ _ => ?_)
  refine Ends.ite (fun _ => bind_askToken ?_) fun _ => ?_
  · split
    · exact Ends.pure hasked
    · exact providerMechanismInfo_ends fun _ => hasked
  · exact providerMechanismInfo_ends fun _ => .nothing _

-- ═══════════════════════════════════════════════════════════════════════════
-- Library and sessions
-- ═══════════════════════════════════════════════════════════════════════════

theorem bringUp_realises : kms.Realises .initialise bringUp :=
  bringUp_ends (fun hup isTold _ => .raised hup isTold)
    (fun hdown hload isTold _ => .cameUp hdown isTold hload)
    fun hdown error hload isTold _ => .stayedDown hdown isTold error hload

theorem bringDown_realises : kms.Realises .finalise bringDown := by
  refine Ends.bind_get (bind_told fun external => ?_)
  by_cases hnesting : kms.sessions.nesting = 1
  · rw [SessionTable.bringDown_of_one hnesting]
    refine Ends.bind_modify (Ends.bind_run (run_releaseContexts _ _) (Ends.bind_modify ?_))
    have heffect := Effect.wentDown hnesting (kms.tokenImplements .finalise)
    rw [← told_crypto kms (kms.tokenImplements .finalise) .finalise,
      ← told_store kms (kms.tokenImplements .finalise) .finalise] at heffect
    exact Ends.pure heffect
  · rcases hlowered : kms.sessions.bringDown with ⟨own, wentDown, sessions⟩
    have hstays := SessionTable.bringDown_of_ne_one hnesting
    have heffect := Effect.lowered hnesting (kms.tokenImplements .finalise)
    rw [hlowered] at hstays
    rw [hlowered, ← List.append_nil (kms.toldEvents _ _)] at heffect
    obtain rfl : wentDown = false := hstays
    exact Ends.bind_modify (Ends.pure heffect)

/-- What opening a session does: it is refused, or a session is opened, with or without one of the
token, or the token refuses and nothing else has changed. -/
inductive Opens (kms : Kms C T N) (slot : UInt32) (flags : Flags) (notify : Option Notify) :
    Answer → Kms C T N → List KmsEvent → Prop
  | refused (code : ReturnCode) : Opens kms slot flags notify ⟨code, .session none⟩ kms []
  | withoutToken {session : SessionHandle} (hless : kms.tokenImplements .openSession = false)
      (hup : kms.sessions.isUp = true) (hfree : kms.sessions.sessions.firstFree? = some session) :
      Opens kms slot flags notify ⟨.ok, .session (some session)⟩
        { kms with sessions := kms.sessions.put session (Session.fresh slot flags notify) } []
  | withToken {session : SessionHandle} {external : UInt32} (hup : kms.sessions.isUp = true)
      (hfree : kms.sessions.sessions.firstFree? = some session)
      (hreply : kms.tokenReply (.openSession slot flags notify.isSome) = .ok external) :
      Opens kms slot flags notify ⟨.ok, .session (some session)⟩
        { kms.afterToken (.openSession slot flags notify.isSome) with
          sessions := kms.sessions.put session
            ({ Session.fresh slot flags notify with external := external }) }
        [kms.tokenEvent (.openSession slot flags notify.isSome)]
  | refusedByToken {code : ReturnCode}
      (hreply : kms.tokenReply (.openSession slot flags notify.isSome) = .error code) :
      Opens kms slot flags notify ⟨code, .session none⟩
        (kms.afterToken (.openSession slot flags notify.isSome))
        [kms.tokenEvent (.openSession slot flags notify.isSome)]

omit [CryptoProvider C] [NvmStorage N] in
theorem openSession_ends (slot : UInt32) (flags : Flags) (notify : Option Notify)
    (address : Address) :
    (openSession slot flags notify).Ends kms fun outcome => kms.Opens slot flags notify
      ((Request.openSession slot flags notify address).concluding outcome.answer) outcome.state
      outcome.journal := by
  refine Ends.bind_get (Ends.bind_ofExcept (fun code _ => .refused code) fun _ _ => ?_)
  refine Ends.bind_ofExcept (fun code _ => .refused code) fun opened hopened => ?_
  rcases opened with ⟨session, sessions⟩
  obtain ⟨hup, hfree, rfl⟩ := SessionTable.openSession_eq_ok hopened
  have hget : (kms.sessions.put session (Session.fresh slot flags notify)).sessions.get? session =
      some (Session.fresh slot flags notify) := by
    rw [SessionTable.get?_put_of_index (PerSession.index?_isSome_of_firstFree? hfree), if_pos rfl]
  refine Ends.bind_set (Ends.ite (fun _ => bind_askToken ?_)
    fun hless => Ends.pure (.withoutToken (Bool.eq_false_iff.mpr hless) hup hfree))
  -- the token sees the table with the new session, which plays no part in its reply
  have hblind (op : TokenOp) (sessions : SessionTable) :
      ({ kms with sessions := sessions } : Kms C T N).tokenReply op = kms.tokenReply op := rfl
  rw [hblind]
  cases hreply : kms.tokenReply (.openSession slot flags notify.isSome) with
  | ok external =>
    have hopens : kms.Opens slot flags notify _ _ _ := .withToken hup hfree hreply
    rw [← SessionTable.put_put (Session.fresh slot flags notify)] at hopens
    exact bind_updateSessions (SessionTable.update_eq_put _ hget) (Ends.pure hopens)
  | error code =>
    have hsame : { kms.afterToken (.openSession slot flags notify.isSome) with
        sessions := (kms.sessions.put session (Session.fresh slot flags notify)).drop session } =
        kms.afterToken (.openSession slot flags notify.isSome) := by
      rw [SessionTable.drop_put (PerSession.get?_firstFree? hfree)]
      rfl
    have hopens : kms.Opens slot flags notify _ _ _ := .refusedByToken hreply
    rw [← hsame] at hopens
    exact bind_updateSessions (SessionTable.close_eq_drop hget) (Ends.throw hopens)

theorem Opens.effect {slot : UInt32} {flags : Flags} {notify : Option Notify} {answer : Answer}
    {after : Kms C T N} {events : List KmsEvent} (h : kms.Opens slot flags notify answer after events)
    (address : Address) : kms.Effect (.openSession slot flags notify address) after events := by
  cases h with
  | refused => exact .nothing _
  | withoutToken _ hup hfree => exact .opened hup hfree
  | withToken hup hfree hreply => exact .openedOnToken hup hfree hreply
  | refusedByToken => exact .asked _ rfl rfl (fun _ h => by cases h) (fun _ h => by cases h)

theorem openSession_realises (slot : UInt32) (flags : Flags) (notify : Option Notify)
    (address : Address) :
    kms.Realises (.openSession slot flags notify address) (openSession slot flags notify) :=
  (openSession_ends slot flags notify address).mono fun _ hopens => hopens.effect address

theorem closeSession_realises (session : SessionHandle) :
    kms.Realises (.closeSession session) (closeSession session) := by
  refine Ends.bind_get (Ends.bind_ofExcept (fun _ _ => .nothing _) fun record hsession => ?_)
  refine bind_told fun external => bind_askProvider ?_
  generalize hisTold : (kms.tokenImplements .closeSession && _) = isTold
  have hget : (kms.told isTold (.closeSession record.external)).sessions.sessions.get? session =
      some record := by
    rw [told_sessions]
    exact (requireSession_eq_ok.mp hsession).2
  refine bind_updateSessions (SessionTable.close_eq_drop hget) (Ends.pure ?_)
  have heffect := Effect.closed hsession isTold
  rw [← told_sessions kms isTold (.closeSession record.external)] at heffect
  exact heffect

-- ═══════════════════════════════════════════════════════════════════════════
-- Objects and searches
-- ═══════════════════════════════════════════════════════════════════════════

theorem createObject_realises (session : SessionHandle) (template : PlacedTemplate)
    (object : Address) :
    kms.Realises (.createObject session template object)
      (createObject session template.template) := by
  refine Ends.bind_get (Ends.bind_ofExcept (fun _ _ => .nothing _) fun record hsession => ?_)
  have hup := (requireSession_eq_ok.mp hsession).1
  cases htoken : kms.tokenSession .createObject session with
  | ok external =>
    obtain rfl := tokenSession_eq_ok htoken
    have hasked : kms.Effect (.createObject session template object) _ _ :=
      .asked _ rfl rfl (fun _ h => by cases h; exact ⟨record, hsession⟩) (fun _ h => by cases h)
    exact bind_askToken (Ends.bind_ofExcept (fun _ _ => hasked) fun _ _ => Ends.pure hasked)
  | error code =>
    refine Ends.bind_ofExcept (fun _ _ => .nothing _) fun _ _ => Ends.failing (fun _ => .nothing _)
      fun _ => Ends.bind (storeObject_ends fun answer store journal hchanges => ?_)
    have hstored : kms.Effect (.createObject session template object)
        { kms with store := store } (journal.map .nvm) :=
      .stored .created hup hchanges
    cases answer with
    | error code => exact hstored
    | ok handle =>
      rw [← List.append_nil (journal.map _)] at hstored
      exact Ends.pure hstored

theorem destroyObject_realises (session : SessionHandle) (object : ObjectHandle) :
    kms.Realises (.destroyObject session object) (destroyObject session object) := by
  refine Ends.bind_get (Ends.bind_ofExcept (fun _ _ => .nothing _) fun record hsession => ?_)
  refine Ends.failing (fun _ => .nothing _) fun hlatch => ?_
  have hasked : kms.Effect (.destroyObject session object) _ _ :=
    .asked (.destroyObject (kms.sessions.external session) object) rfl rfl
      (fun _ h => by cases h; exact ⟨record, hsession⟩)
      (fun _ h => by cases h; exact Bool.eq_false_iff.mpr hlatch)
  have hstored : kms.Effect (.destroyObject session object) _ _ :=
    .stored .destroyed (requireSession_eq_ok.mp hsession).1 (.remove object .none)
  split
  -- an object of the token
  iterate 2
    refine Ends.bind_ofExcept (fun _ _ => .nothing _) fun external htoken => ?_
    obtain rfl := tokenSession_eq_ok htoken
    exact hasked
  -- an object of the enclave
  iterate 2
    split
    · exact Ends.throw (.nothing _)
    · refine Ends.failing (fun _ => .nothing _) fun _ =>
        bind_onStore (fun _ _ => hstored) fun _ _ => Ends.pure ?_
      show kms.Effect _ _ (_ ++ [])
      rw [List.append_nil]
      exact hstored
  all_goals exact Ends.throw (.nothing _)

theorem getAttributeValue_realises (session : SessionHandle) (object : ObjectHandle)
    (values : PlacedQueries) :
    kms.Realises (.getAttributeValue session object values)
      (getAttributeValue session object values.queries) := by
  refine Ends.bind_get (Ends.bind_ofExcept (fun _ _ => .nothing _) fun record hsession => ?_)
  refine Ends.failing (fun _ => .nothing _) fun hlatch => ?_
  refine Ends.ite (fun _ => ?_) fun _ => ?_
  · refine Ends.bind_ofExcept (fun _ _ => .nothing _) fun external htoken => bind_askToken ?_
    obtain rfl := tokenSession_eq_ok htoken
    exact Ends.pure (.asked _ rfl rfl (fun _ h => by cases h; exact ⟨record, hsession⟩)
      (fun _ h => by cases h; exact Bool.eq_false_iff.mpr hlatch))
  · refine Ends.bind_ofExcept (fun _ _ => .nothing _) fun _ _ => ?_
    split
    · exact Ends.throw (.nothing _)
    · exact Ends.ite (fun _ => Ends.pure (.nothing _)) fun _ => Ends.pure (.nothing _)

theorem setAttributeValue_realises (session : SessionHandle) (object : ObjectHandle)
    (template : PlacedTemplate) :
    kms.Realises (.setAttributeValue session object template)
      (setAttributeValue session object template.template) := by
  refine Ends.bind_get (Ends.bind_ofExcept (fun _ _ => .nothing _) fun record hsession => ?_)
  refine Ends.failing (fun _ => .nothing _) fun hlatch => ?_
  refine Ends.ite (fun _ => ?_) fun _ =>
    Ends.ite (fun _ => Ends.throw (.nothing _)) fun _ => Ends.throw (.nothing _)
  refine Ends.bind_ofExcept (fun _ _ => .nothing _) fun external htoken => ?_
  obtain rfl := tokenSession_eq_ok htoken
  exact Effect.asked (.setAttributeValue _ object template.template) rfl rfl
    (fun _ h => by cases h; exact ⟨record, hsession⟩)
    (fun _ h => by cases h; exact Bool.eq_false_iff.mpr hlatch)

theorem findObjectsInit_realises (session : SessionHandle) (template : PlacedTemplate) :
    kms.Realises (.findObjectsInit session template)
      (findObjectsInit session template.template) := by
  refine Ends.bind_get (Ends.bind_ofExcept (fun _ _ => .nothing _) fun record hsession => ?_)
  cases htoken : kms.tokenSession .findObjectsInit session with
  | ok external =>
    obtain rfl := tokenSession_eq_ok htoken
    exact Effect.asked (.findObjectsInit _ template.template) rfl rfl
      (fun _ h => by cases h; exact ⟨record, hsession⟩) (fun _ h => by cases h)
  | error code =>
    refine Ends.bind_ofExcept (fun _ _ => .nothing _) fun _ hidle => ?_
    have hget := (requireSession_eq_ok.mp hsession).2
    exact bind_updateSessions (SessionTable.update_eq_put _ hget)
      (Ends.pure (.searchBegun hsession (requireIdle_eq_ok.mp hidle)))

theorem findObjects_realises (session : SessionHandle) (objects : Buffer) (count : Address) :
    kms.Realises (.findObjects session objects count) (findObjects session objects.room) := by
  refine Ends.bind_get (Ends.bind_ofExcept (fun _ _ => .nothing _) fun record hsession => ?_)
  refine Ends.failing (fun _ => .nothing _) fun _ => ?_
  cases htoken : kms.tokenSession .findObjects session with
  | ok external =>
    obtain rfl := tokenSession_eq_ok htoken
    have hasked : kms.Effect (.findObjects session objects count) _ _ :=
      .asked _ rfl rfl (fun _ h => by cases h; exact ⟨record, hsession⟩) (fun _ h => by cases h)
    exact bind_askToken (Ends.bind_ofExcept (fun _ _ => hasked) fun _ _ => Ends.pure hasked)
  | error code =>
    refine Ends.bind_ofExcept (fun _ _ => .nothing _) fun turned hturned => ?_
    rcases turned with ⟨page, sessions⟩
    obtain ⟨hstate, rfl, rfl⟩ :=
      SessionTable.nextFound_eq_ok (requireSession_eq_ok.mp hsession).2 hturned
    exact Ends.bind_set (Ends.pure (.paged hsession hstate))

theorem findObjectsFinal_realises (session : SessionHandle) :
    kms.Realises (.findObjectsFinal session) (findObjectsFinal session) := by
  refine Ends.bind_get (Ends.bind_ofExcept (fun _ _ => .nothing _) fun record hsession => ?_)
  cases htoken : kms.tokenSession .findObjectsFinal session with
  | ok external =>
    obtain rfl := tokenSession_eq_ok htoken
    exact Effect.asked (.findObjectsFinal _) rfl rfl
      (fun _ h => by cases h; exact ⟨record, hsession⟩) (fun _ h => by cases h)
  | error code =>
    refine Ends.failing (fun _ => .nothing _) fun hstate => ?_
    exact Ends.bind_modify (Ends.pure (.searchEnded hsession (Decidable.not_not.mp hstate)))

-- ═══════════════════════════════════════════════════════════════════════════
-- Operations
-- ═══════════════════════════════════════════════════════════════════════════

/-- A step with a key of the enclave. -/
theorem cipherStep_realises {request : Request} {session : SessionHandle} {state : SessionState}
    {op : ProviderOp} {room : Option Nat} {lastStep : Bool} {step : Step C T N Delivery}
    {delivery : Delivery} (hstep : request.step? = some (state, op))
    (hnamed : request.session? = some session) (hstate : state ∉ [SessionState.signing, .verifying])
    (hrun : step.run kms = ⟨.ok delivery, kms.afterProvider op, [kms.providerEvent op]⟩)
    (hends : op.ends (kms.providerReply op) = terminates delivery.code room.isSome lastStep) :
    kms.Realises request (do
      let _ ← operationKey session state
      delivering session room lastStep step) := by
  refine bind_operationKey (fun _ => .nothing _)
    (fun record hrecord hlatch => .stepLatched hstep hnamed hrecord hlatch)
    fun record hrecord hopen => delivering_ends hrun fun answer => ?_
  rw [← hends]
  exact .stepped _ hstep hnamed hrecord (fun _ => hopen) fun h => absurd h hstate

/-- A step of a digest, which has no key. -/
theorem digestStep_realises {request : Request} {session : SessionHandle} {op : ProviderOp}
    {room : Option Nat} {step : Step C T N Delivery} {delivery : Delivery}
    (hstep : request.step? = some (.digesting, op)) (hnamed : request.session? = some session)
    (hrun : step.run kms = ⟨.ok delivery, kms.afterProvider op, [kms.providerEvent op]⟩)
    (hends : op.ends (kms.providerReply op) = terminates delivery.code room.isSome true) :
    kms.Realises request (do
      let _ ← Action.ofExcept ((← get).requireState session .digesting)
      delivering session room true step) := by
  refine Ends.bind_get (Ends.bind_ofExcept (fun _ _ => .nothing _) fun record hrecord =>
    delivering_ends hrun fun answer => ?_)
  rw [← hends]
  exact .stepped _ hstep hnamed hrecord (fun h => absurd rfl h)
    (fun h => by cases h; contradiction)

theorem digestUpdate_realises (session : SessionHandle) (data : Placed Bytes) :
    kms.Realises (.digestUpdate session data) (digestUpdate session data.value) := by
  refine Ends.bind_get (Ends.bind_ofExcept (fun _ _ => .nothing _) fun record hrecord =>
    bind_askProvider (bind_conclude (Ends.pure ?_)))
  have heffect : kms.Effect (.digestUpdate session data) _ _ :=
    .stepped _ rfl rfl hrecord (fun h => absurd rfl h) (fun h => by cases h; contradiction)
  rw [← List.append_nil (conclusion _ _)] at heffect
  exact heffect

theorem sign_realises (session : SessionHandle) (data : Placed Bytes) (signature : Option Buffer)
    (count : Address) :
    kms.Realises (.sign session data signature count)
      (sign session data.value (signature.map Buffer.room)) := by
  refine bind_operationKey (fun _ => .nothing _)
    (fun record hrecord hlatch => .stepLatched rfl rfl hrecord hlatch) fun record hrecord hopen =>
      Ends.bind_get ?_
  by_cases hplace : (kms.layout.classify record.key).isExternal = true
  · rw [if_pos hplace]
    have hserved (isTold isEnded : Bool) : kms.Effect (.sign session data signature count) _ _ :=
      .steppedOnToken rfl rfl rfl hrecord hopen hplace isTold isEnded
    cases htoken : kms.tokenSession .sign session with
    | ok external =>
      obtain rfl := tokenSession_eq_ok htoken
      exact delivering_ends rfl fun _ => hserved true _
    | error code => exact delivering_ends rfl fun _ => hserved false _
  · rw [if_neg hplace]
    exact delivering_ends rfl fun _ =>
      .stepped (.sign session data.value (signature.map Buffer.room)) rfl rfl hrecord
        (fun _ => hopen) fun _ => Bool.eq_false_iff.mpr hplace

theorem verify_realises (session : SessionHandle) (data signature : Placed Bytes) :
    kms.Realises (.verify session data signature) (verify session data.value signature.value) := by
  refine bind_operationKey (fun _ => .nothing _)
    (fun record hrecord hlatch => .stepLatched rfl rfl hrecord hlatch) fun record hrecord hopen =>
      Ends.bind_get ?_
  refine Ends.ite (fun hplace => ?_) fun hplace => ?_
  · have hserved (isTold : Bool) : kms.Effect (.verify session data signature) _ _ :=
      .steppedOnToken rfl rfl rfl hrecord hopen hplace isTold true
    cases htoken : kms.tokenSession .verify session with
    | ok external =>
      obtain rfl := tokenSession_eq_ok htoken
      exact bind_askToken (bind_conclude (Ends.pure (hserved true)))
    | error code => exact Ends.bind_pure (bind_conclude (Ends.pure (hserved false)))
  · exact bind_askProvider (bind_conclude (Ends.pure
      (.stepped (.verify session data.value signature.value) rfl rfl hrecord
        (fun _ => hopen) fun _ => Bool.eq_false_iff.mpr hplace)))

-- ═══════════════════════════════════════════════════════════════════════════
-- Beginnings of operations
-- ═══════════════════════════════════════════════════════════════════════════

/-- The provider was asked to begin an operation, and the session follows its code. -/
theorem settle_begins {request : Request} {session : SessionHandle} {state : SessionState}
    {key : ObjectHandle} {op : ProviderOp} {record : Session}
    (hbegins : kms.Begins request session state key op)
    (hsession : kms.requireSession session = .ok record) (hidle : record.state = .idle) :
    Ends (do
      Action.ofExcept (op.code (kms.providerReply op)).toExcept
      updateSessions fun table => table.setState session state key
      pure ReturnCode.ok) (kms.afterProvider op) fun rest =>
        kms.Effect request (rest.after [kms.providerEvent op]).state
          (rest.after [kms.providerEvent op]).journal :=
  settle_ends (kms.afterProvider op) (requireSession_eq_ok.mp hsession).2
    (fun hcode _ => .notBegun hbegins hsession hidle hcode)
    fun hcode => .began hbegins hsession hidle hcode

/-- The request that begins an operation of a cipher. -/
def Direction.request (session : SessionHandle) (mechanism : Option PlacedMechanism)
    (key : ObjectHandle) : Direction → Request
  | .encrypting => .encryptInit session mechanism key
  | .decrypting => .decryptInit session mechanism key

theorem cryptInit_realises (session : SessionHandle) (mechanism : Option PlacedMechanism)
    (key : ObjectHandle) (direction : Direction) :
    kms.Realises (direction.request session mechanism key)
      (cryptInit session mechanism key direction) := by
  refine Ends.bind_ofExcept (fun _ _ => .nothing _) fun given hgiven => Ends.bind_get ?_
  refine Ends.bind_ofExcept (fun _ _ => .nothing _) fun record hsession => ?_
  refine Ends.failing (fun _ => .nothing _) fun _ => ?_
  refine Ends.bind_ofExcept (fun _ _ => .nothing _) fun _ hidle => ?_
  rw [requireIdle_eq_ok] at hidle
  obtain ⟨placed, rfl, rfl⟩ := requireMechanism_eq_ok hgiven
  cases hkey : kms.lookup key with
  | none => exact Ends.throw (.nothing _)
  | some object =>
    cases direction with
    | encrypting => exact bind_askProvider (settle_begins (.encryption hkey) hsession hidle)
    | decrypting => exact bind_askProvider (settle_begins (.decryption hkey) hsession hidle)

theorem digestInit_realises (session : SessionHandle) (mechanism : Option PlacedMechanism) :
    kms.Realises (.digestInit session mechanism) (digestInit session mechanism) := by
  refine Ends.bind_ofExcept (fun _ _ => .nothing _) fun given hgiven => Ends.bind_get ?_
  refine Ends.bind_ofExcept (fun _ _ => .nothing _) fun record hsession => ?_
  refine Ends.bind_ofExcept (fun _ _ => .nothing _) fun _ hidle => ?_
  obtain ⟨placed, rfl, rfl⟩ := requireMechanism_eq_ok hgiven
  exact bind_askProvider (settle_begins .digest hsession (requireIdle_eq_ok.mp hidle))

/-- The request that begins an operation on signatures. -/
def Purpose.request (session : SessionHandle) (mechanism : Option PlacedMechanism)
    (key : ObjectHandle) : Purpose → Request
  | .signing => .signInit session mechanism key
  | .verifying => .verifyInit session mechanism key

/-- The token was asked to begin an operation, and the session follows its code. -/
theorem settle_beginsOnToken {request : Request} {session : SessionHandle} {state : SessionState}
    {key : ObjectHandle} {op : TokenOp} {code : ReturnCode} {record : Session}
    (hbegins : kms.BeginsOnToken request session state key op)
    (hsession : kms.requireSession session = .ok record) (hidle : record.state = .idle)
    (hlatch : kms.latches.isKeyLocked key = false)
    (hexternal : (kms.layout.classify key).isExternal = true) :
    Ends (do
      Action.ofExcept code.toExcept
      updateSessions fun table => table.setState session state key
      pure ReturnCode.ok) (kms.afterToken op) fun rest =>
        kms.Effect request (rest.after [kms.tokenEvent op]).state
          (rest.after [kms.tokenEvent op]).journal := by
  refine settle_ends (kms.afterToken op) (requireSession_eq_ok.mp hsession).2
    (fun _ _ => ?_) fun _ => .beganOnToken hbegins hsession hidle hlatch hexternal
  cases hbegins with
  | signature | verification =>
    exact .asked _ rfl rfl (fun _ h => by cases h; exact ⟨record, hsession⟩)
      (fun _ h => by cases h; exact hlatch)

theorem signVerifyInit_realises (session : SessionHandle) (mechanism : Option PlacedMechanism)
    (key : ObjectHandle) (purpose : Purpose) :
    kms.Realises (purpose.request session mechanism key)
      (signVerifyInit session mechanism key purpose) := by
  refine Ends.bind_ofExcept (fun _ _ => .nothing _) fun given hgiven => Ends.bind_get ?_
  refine Ends.bind_ofExcept (fun _ _ => .nothing _) fun record hsession => ?_
  refine Ends.bind_ofExcept (fun _ _ => .nothing _) fun _ hidle => ?_
  refine Ends.failing (fun _ => .nothing _) fun hlatch => ?_
  rw [requireIdle_eq_ok] at hidle
  rw [Bool.not_eq_true] at hlatch
  obtain ⟨placed, rfl, rfl⟩ := requireMechanism_eq_ok hgiven
  refine Ends.ite (fun hexternal => ?_) fun _ => Ends.ite (fun _ => ?_) fun _ =>
    Ends.bind_throw (.nothing _)
  · cases purpose with
    | signing =>
      refine Ends.bind (Ends.bind_get (Ends.bind_ofExcept (fun _ _ => .nothing _)
        fun external htoken => ?_))
      obtain rfl := tokenSession_eq_ok htoken
      exact settle_beginsOnToken .signature hsession hidle hlatch hexternal
    | verifying =>
      refine Ends.bind (Ends.bind_get (Ends.bind_ofExcept (fun _ _ => .nothing _)
        fun external htoken => ?_))
      obtain rfl := tokenSession_eq_ok htoken
      exact settle_beginsOnToken .verification hsession hidle hlatch hexternal
  · refine Ends.bind (Ends.bind_get ?_)
    cases hkey : kms.lookup key with
    | none => exact Ends.throw (.nothing _)
    | some object =>
      cases purpose with
      | signing => exact settle_begins (.signature hkey) hsession hidle
      | verifying => exact settle_begins (.verification hkey) hsession hidle

-- ═══════════════════════════════════════════════════════════════════════════
-- New keys, blobs and latches
-- ═══════════════════════════════════════════════════════════════════════════

theorem deriveKey_realises (session : SessionHandle) (mechanism : Option PlacedMechanism)
    (baseKey : ObjectHandle) (template : PlacedTemplate) (address : Address) :
    kms.Realises (.deriveKey session mechanism baseKey template address)
      (deriveKey session mechanism baseKey template.template) := by
  refine Ends.bind_ofExcept (fun _ _ => .nothing _) fun given hgiven => Ends.bind_get ?_
  refine Ends.bind_ofExcept (fun _ _ => .nothing _) fun record hsession => ?_
  refine Ends.failing (fun _ => .nothing _) fun hlatch => ?_
  rw [Bool.not_eq_true] at hlatch
  obtain ⟨placed, rfl, rfl⟩ := requireMechanism_eq_ok hgiven
  refine Ends.ite (fun _ => ?_) fun _ => Ends.ite (fun _ => ?_) fun _ => Ends.throw (.nothing _)
  · refine Ends.bind_ofExcept (fun _ _ => .nothing _) fun external htoken => bind_askToken ?_
    obtain rfl := tokenSession_eq_ok htoken
    have hasked : kms.Effect (.deriveKey session (some placed) baseKey template address) _ _ :=
      .asked _ rfl rfl (fun _ h => by cases h; exact ⟨record, hsession⟩)
        (fun _ h => by cases h; exact hlatch)
    exact Ends.bind_ofExcept (fun _ _ => hasked) fun _ _ => Ends.pure hasked
  · refine Ends.bind_ofExcept (fun _ _ => .nothing _) fun length _ => ?_
    cases hkey : kms.lookup baseKey with
    | none => exact Ends.throw (.nothing _)
    | some base =>
      have hmade {store : ObjectStore N} {journal : List NvmExchange}
          (hchanges : kms.store.Changes store journal) :
          kms.Effect (.deriveKey session (some placed) baseKey template address) _ _ :=
        .made (.derived length hkey) (requireSession_eq_ok.mp hsession).1 hchanges
      refine bind_askProvider (Ends.bind_ofExcept (fun _ _ => hmade .none) fun value _ =>
        Ends.bind (storeObject_ends fun answer store journal hchanges => ?_))
      cases answer with
      | error code => exact hmade hchanges
      | ok key =>
        refine Ends.pure ?_
        show kms.Effect _ _ (_ :: (journal.map _ ++ []))
        rw [List.append_nil]
        exact hmade hchanges

theorem generateKeyPair_realises (session : SessionHandle) (mechanism : Option PlacedMechanism)
    (publicTemplate privateTemplate : PlacedTemplate) (publicKey privateKey : Address) :
    kms.Realises
      (.generateKeyPair session mechanism publicTemplate privateTemplate publicKey privateKey)
      (generateKeyPair session mechanism publicTemplate.template privateTemplate.template) := by
  refine Ends.bind_ofExcept (fun _ _ => .nothing _) fun given hgiven => Ends.bind_get ?_
  refine Ends.bind_ofExcept (fun _ _ => .nothing _) fun record hsession => ?_
  obtain ⟨placed, rfl, rfl⟩ := requireMechanism_eq_ok hgiven
  cases htoken : kms.tokenSession .generateKeyPair session with
  | ok external =>
    obtain rfl := tokenSession_eq_ok htoken
    have hasked : kms.Effect (.generateKeyPair session (some placed) publicTemplate
        privateTemplate publicKey privateKey) _ _ :=
      .asked _ rfl rfl (fun _ h => by cases h; exact ⟨record, hsession⟩) (fun _ h => by cases h)
    exact bind_askToken (Ends.bind_ofExcept (fun _ _ => hasked) fun _ _ => Ends.pure hasked)
  | error code =>
    have hmade {store : ObjectStore N} {journal : List NvmExchange}
        (hchanges : kms.store.Changes store journal) :
        kms.Effect (.generateKeyPair session (some placed) publicTemplate privateTemplate
          publicKey privateKey) _ (_ :: journal.map .nvm) :=
      .made .pair (requireSession_eq_ok.mp hsession).1 hchanges
    refine bind_askProvider (Ends.bind_ofExcept (fun _ _ => hmade .none) fun halves _ => ?_)
    refine Ends.bind (storeObject_ends fun stored store journal hchanges => ?_)
    cases stored with
    | error code => exact hmade hchanges
    | ok publicHandle =>
      refine Ends.bind_attempt (storeObject_ends fun stored last rest hrest => ?_)
      have hboth := hmade (hchanges.trans hrest)
      cases stored with
      | ok privateHandle =>
        refine Ends.pure ?_
        show kms.Effect _ _ (_ :: (journal.map _ ++ (rest.map _ ++ [])))
        rw [List.append_nil, ← List.map_append]
        exact hboth
      | error code =>
        have hundone := hmade ((hchanges.trans hrest).trans (.remove publicHandle .none))
        refine bind_attempt_onStore (Ends.throw ?_)
        show kms.Effect _ _ (_ :: (journal.map _ ++ (rest.map _ ++ (_ ++ []))))
        rw [List.append_nil, ← List.append_assoc, ← List.map_append, ← List.map_append]
        exact hundone

theorem generateRandom_realises (session : SessionHandle) (output : Buffer) :
    kms.Realises (.generateRandom session output) (generateRandom session output.room) := by
  refine Ends.bind_get (Ends.bind_ofExcept (fun _ _ => .nothing _) fun record hsession => ?_)
  refine Ends.bind_ofExcept (fun _ _ => .nothing _) fun external htoken => bind_askToken ?_
  obtain rfl := tokenSession_eq_ok htoken
  exact Ends.pure
    (.asked _ rfl rfl (fun _ h => by cases h; exact ⟨record, hsession⟩) (fun _ h => by cases h))

theorem importBlob_realises (header blob : Placed Bytes) :
    kms.Realises (.importBlob header blob) (importBlob header.value blob.value) := by
  refine Ends.bind_get (Ends.bind_ofExcept (fun _ _ => .nothing _) fun _ hup => ?_)
  refine Ends.failing (fun _ => .nothing _) fun _ => ?_
  iterate 5 refine Ends.bind_ofExcept (fun _ _ => .nothing _) fun _ _ => ?_
  have hinstalled (blobs : List Bytes) : kms.Effect (.importBlob header blob) _ _ :=
    .installed blobs (requireUp_eq_ok.mp hup)
  refine bind_onStore (fun _ _ => hinstalled _) fun _ _ => Ends.pure ?_
  show kms.Effect _ _ (_ ++ [])
  rw [List.append_nil]
  exact hinstalled _

theorem lockKeys_realises (keys : Placed (List ObjectHandle)) :
    kms.Realises (.lockKeys keys) (lockKeys keys.value) :=
  Ends.bind_get (Ends.bind_ofExcept (fun _ _ => .nothing _) fun _ hup =>
    Ends.failing (fun _ => .nothing _) fun _ =>
      Ends.bind_set (Ends.pure (.latchedKeys (requireUp_eq_ok.mp hup))))

theorem lockServices_realises (functions : Placed (List UInt32)) :
    kms.Realises (.lockServices functions) (lockServices functions.value) :=
  Ends.bind_get (Ends.bind_ofExcept (fun _ _ => .nothing _) fun _ hup =>
    Ends.failing (fun _ => .nothing _) fun _ =>
      Ends.bind_set (Ends.pure (.latchedServices (requireUp_eq_ok.mp hup))))

-- ═══════════════════════════════════════════════════════════════════════════
-- All requests
-- ═══════════════════════════════════════════════════════════════════════════

theorem serve_realises (kms : Kms C T N) (request : Request) :
    kms.Realises request (serve request) := by
  cases request with
  | initialise => exact codeOnly_realises bringUp_realises
  | finalise => exact codeOnly_realises bringDown_realises
  | getInfo => exact getInfo_realises _
  | getSlotList => exact getSlotList_realises _ _ _
  | getSlotInfo => exact getSlotInfo_realises _ _
  | getTokenInfo => exact getTokenInfo_realises _ _
  | getMechanismInfo => exact getMechanismInfo_realises _ _ _
  | openSession => exact openSession_realises _ _ _ _
  | closeSession => exact codeOnly_realises (closeSession_realises _)
  | getSessionInfo => exact getSessionInfo_realises _ _
  | createObject => exact createObject_realises _ _ _
  | destroyObject => exact codeOnly_realises (destroyObject_realises _ _)
  | getAttributeValue => exact getAttributeValue_realises _ _ _
  | setAttributeValue => exact codeOnly_realises (setAttributeValue_realises _ _ _)
  | findObjectsInit => exact codeOnly_realises (findObjectsInit_realises _ _)
  | findObjects => exact findObjects_realises _ _ _
  | findObjectsFinal => exact codeOnly_realises (findObjectsFinal_realises _)
  | encryptInit session mechanism key =>
    exact codeOnly_realises (cryptInit_realises session mechanism key .encrypting)
  | decryptInit session mechanism key =>
    exact codeOnly_realises (cryptInit_realises session mechanism key .decrypting)
  | encrypt | encryptUpdate | encryptFinal | decrypt | decryptUpdate | decryptFinal =>
    exact cipherStep_realises rfl rfl (by decide) rfl rfl
  | digestInit => exact codeOnly_realises (digestInit_realises _ _)
  | digest | digestFinal => exact digestStep_realises rfl rfl rfl rfl
  | digestUpdate => exact codeOnly_realises (digestUpdate_realises _ _)
  | signInit session mechanism key =>
    exact codeOnly_realises (signVerifyInit_realises session mechanism key .signing)
  | verifyInit session mechanism key =>
    exact codeOnly_realises (signVerifyInit_realises session mechanism key .verifying)
  | sign => exact sign_realises _ _ _ _
  | verify => exact codeOnly_realises (verify_realises _ _ _)
  | deriveKey => exact deriveKey_realises _ _ _ _ _
  | generateKeyPair => exact generateKeyPair_realises _ _ _ _ _ _
  | generateRandom => exact generateRandom_realises _ _
  | importBlob => exact codeOnly_realises (importBlob_realises _ _)
  | lockKeys => exact codeOnly_realises (lockKeys_realises _)
  | lockServices => exact codeOnly_realises (lockServices_realises _)
  | other => exact Ends.throw (.nothing _)

theorem dispatch_of_refused {word : UInt32} {request : Request} {code : ReturnCode}
    (h : kms.admitted word request = .error code) :
    kms.dispatch word request = (⟨code, request.untouched⟩, kms, []) := by
  simp only [dispatch, h]
  rfl

theorem dispatch_of_admitted {word : UInt32} {request : Request} {u : Unit}
    (h : kms.admitted word request = .ok u) :
    kms.dispatch word request =
      (request.concluding ((serve request).run kms).answer, ((serve request).run kms).state,
        ((serve request).run kms).journal) := by
  have hrun : Action.run (do
      Action.ofExcept (kms.admitted word request)
      serve request) kms = (serve request).run kms := by
    rw [h, run_bind]
    rfl
  simp only [dispatch, hrun]
  rcases (serve request).run kms with ⟨answer | answer, after, journal⟩ <;> rfl

/-- What holds of serving a request holds of the call that is not refused. -/
theorem dispatch_ends {word : UInt32} {request : Request}
    (post : Answer → Kms C T N → List KmsEvent → Prop)
    (hadmitted : kms.admitted word request = .ok ())
    (h : (serve request).Ends kms fun outcome =>
      post (request.concluding outcome.answer) outcome.state outcome.journal) :
    post (kms.dispatch word request).1 (kms.dispatch word request).2.1
      (kms.dispatch word request).2.2 := by
  rw [dispatch_of_admitted hadmitted]
  exact h

/-- Dispatching a request refuses it or serves it. -/
theorem dispatch_effect (kms : Kms C T N) (word : UInt32) (request : Request) :
    kms.Effect request (kms.dispatch word request).2.1 (kms.dispatch word request).2.2 := by
  cases hadmitted : kms.admitted word request with
  | error code =>
    rw [dispatch_of_refused hadmitted]
    exact .nothing request
  | ok u =>
    rw [dispatch_of_admitted hadmitted]
    exact serve_realises kms request

/-- What opening a session does, whether or not the call is refused for its function word. -/
theorem dispatch_openSession (kms : Kms C T N) (word slot : UInt32) (flags : Flags)
    (notify : Option Notify) (address : Address) :
    kms.Opens slot flags notify (kms.dispatch word (.openSession slot flags notify address)).1
      (kms.dispatch word (.openSession slot flags notify address)).2.1
      (kms.dispatch word (.openSession slot flags notify address)).2.2 := by
  cases hadmitted : kms.admitted word (.openSession slot flags notify address) with
  | error code =>
    rw [dispatch_of_refused hadmitted]
    exact .refused code
  | ok u => exact dispatch_ends _ hadmitted (openSession_ends slot flags notify address)

end KeyEnclave.Kms
