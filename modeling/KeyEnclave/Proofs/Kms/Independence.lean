import KeyEnclave.Proofs.Kms.SameFor

/-!
# Requests that depend on one session only

Each request that names a session is followed in two services that are the same for that session. It
is answered alike, and leaves services that are the same for the session. A request for a key pair
takes more: it draws from the source of random numbers.

## Main definitions

* `Kms.IsLocal` — a step ends alike on services that are the same for a session.

## Main results

* `Kms.serve_isLocal` — serving any other request that names the session does.
-/

namespace KeyEnclave.Kms

open KeyEnclave.Action

variable {R T N α : Type} {session : SessionHandle}

/-- From services that are the same for a session, a step ends alike and leaves two such services. -/
def IsLocal (session : SessionHandle) (step : Step (SoftwareCrypto R) T N α) : Prop :=
  ∀ kms kms', kms.SameFor session kms' → EndsAlike step step kms kms' (SameFor session)

theorem codeOnly_isLocal {step : Step (SoftwareCrypto R) T N ReturnCode} (h : IsLocal session step) :
    IsLocal session (codeOnly step) :=
  fun kms kms' hsame => .bind_pure (h kms kms' hsame)

theorem getSessionInfo_isLocal :
    IsLocal (R := R) (T := T) (N := N) session (getSessionInfo session) := by
  intro kms kms' h
  refine .bind_get ?_
  rw [h.requireSession_eq]
  exact .bind_ofExcept h fun _ _ => .pure h

-- ═══════════════════════════════════════════════════════════════════════════
-- Objects, searches and random bytes
-- ═══════════════════════════════════════════════════════════════════════════

section Token

variable [ExternalToken T]

theorem createObject_isLocal [NvmStorage N] (template : Template) :
    IsLocal (R := R) (T := T) (N := N) session (createObject session template) := by
  intro kms kms' h
  refine .bind_get ?_
  rw [h.requireSession_eq, h.tokenSession_eq, h.layout_eq]
  refine .bind_ofExcept h fun record _ => ?_
  cases kms.tokenSession .createObject session with
  | ok external =>
    exact .bind_kept (h.askToken _) fun _ _ _ h => .bind_ofExcept h fun _ _ => .pure h
  | error code =>
    refine .bind_ofExcept h fun _ _ => .failing h fun _ => ?_
    exact .bind_pure (h.storeObject _ _)

theorem destroyObject_isLocal [NvmStorage N] (object : ObjectHandle) :
    IsLocal (R := R) (T := T) (N := N) session (destroyObject session object) := by
  intro kms kms' h
  refine .bind_get ?_
  rw [h.requireSession_eq, h.latches_eq, h.layout_eq, h.tokenSession_eq, h.lookup_eq]
  refine .bind_ofExcept h fun record _ => .failing h fun _ => ?_
  cases kms.layout.classify object with
  | extTokenStatic | extTokenDynamic =>
    exact .bind_ofExcept h fun external _ => h.askToken _
  | nvmDynamic | vmDynamic =>
    cases kms.lookup object with
    | none => exact .throw h
    | some target =>
      refine .failing h fun _ => ?_
      exact .bind_pure (h.onStore _)
  | embedded | nvmStatic | unknown => exact .throw h

theorem getAttributeValue_isLocal (object : ObjectHandle) (queries : List AttributeQuery) :
    IsLocal (R := R) (T := T) (N := N) session (getAttributeValue session object queries) := by
  intro kms kms' h
  refine .bind_get ?_
  rw [h.requireSession_eq, h.latches_eq, h.layout_eq, h.tokenSession_eq, h.lookup_eq]
  refine .bind_ofExcept h fun record _ => .failing h fun _ => .ite (fun _ => ?_) fun _ => ?_
  · exact .bind_ofExcept h fun external _ => .bind_kept (h.askToken _) fun _ _ _ => .pure
  · refine .bind_ofExcept h fun _ _ => ?_
    cases kms.lookup object with
    | none => exact .throw h
    | some target => exact .ite (fun _ => .pure h) fun _ => .pure h

theorem setAttributeValue_isLocal (object : ObjectHandle) (template : Template) :
    IsLocal (R := R) (T := T) (N := N) session (setAttributeValue session object template) := by
  intro kms kms' h
  refine .bind_get ?_
  rw [h.requireSession_eq, h.latches_eq, h.layout_eq, h.tokenSession_eq]
  refine .bind_ofExcept h fun record _ => .failing h fun _ => .ite (fun _ => ?_) fun _ => ?_
  · exact .bind_ofExcept h fun external _ => h.askToken _
  · exact .ite (fun _ => .throw h) fun _ => .throw h

theorem findObjectsInit_isLocal (template : Template) :
    IsLocal (R := R) (T := T) (N := N) session (findObjectsInit session template) := by
  intro kms kms' h
  refine .bind_get ?_
  rw [h.requireSession_eq, h.tokenSession_eq, h.matching_eq]
  refine .bind_ofExcept h fun record _ => ?_
  cases kms.tokenSession .findObjectsInit session with
  | ok external => exact h.askToken _
  | error code =>
    exact .bind_ofExcept h fun _ _ => h.bind_update _ fun _ _ h => .pure h

theorem findObjects_isLocal (capacity : Nat) :
    IsLocal (R := R) (T := T) (N := N) session (findObjects session capacity) := by
  intro kms kms' h
  refine .bind_get ?_
  rw [h.requireSession_eq, h.tokenSession_eq]
  refine .bind_ofExcept h fun record hsession => .failing h fun _ => ?_
  cases kms.tokenSession .findObjects session with
  | ok external =>
    exact .bind_kept (h.askToken _) fun _ _ _ h => .bind_ofExcept h fun _ _ => .pure h
  | error code =>
    have hget := (requireSession_eq_ok.mp hsession).2
    simp only [SessionTable.nextFound_eq hget, SessionTable.nextFound_eq (h.record_eq.trans hget)]
    by_cases hstate : record.state ≠ .searching
    · simp only [if_pos hstate]
      exact .bind_failed rfl rfl h
    · simp only [if_neg hstate]
      exact .bind_run rfl rfl (.bind_set (.pure (h.put _ hget)))

theorem findObjectsFinal_isLocal :
    IsLocal (R := R) (T := T) (N := N) session (findObjectsFinal session) := by
  intro kms kms' h
  refine .bind_get ?_
  rw [h.requireSession_eq, h.tokenSession_eq]
  refine .bind_ofExcept h fun record _ => ?_
  cases kms.tokenSession .findObjectsFinal session with
  | ok external => exact h.askToken _
  | error code => exact .failing h fun _ => .bind_modify (.pure h.reset)

theorem generateRandom_isLocal (length : Nat) :
    IsLocal (R := R) (T := T) (N := N) session (generateRandom session length) := by
  intro kms kms' h
  refine .bind_get ?_
  rw [h.requireSession_eq, h.tokenSession_eq]
  refine .bind_ofExcept h fun _ _ => .bind_ofExcept h fun external _ => ?_
  exact .bind_kept (h.askToken _) fun _ _ _ => .pure

end Token

-- ═══════════════════════════════════════════════════════════════════════════
-- Operations of the session
-- ═══════════════════════════════════════════════════════════════════════════

section Provider

variable [RandomSource R]

/-- The provider works with the context of the session. -/
theorem askProvider_isLocal {op : ProviderOp} (hop : op.IsOf session) :
    IsLocal (R := R) (T := T) (N := N) session (askProvider op) :=
  fun _ _ h => h.askProvider (.inl hop)

theorem cryptInit_isLocal (mechanism : Option PlacedMechanism) (key : ObjectHandle)
    (direction : Direction) :
    IsLocal (R := R) (T := T) (N := N) session (cryptInit session mechanism key direction) := by
  intro kms kms' h
  refine .bind_ofExcept h fun given _ => .bind_get ?_
  rw [h.requireSession_eq, h.layout_eq, h.lookup_eq]
  refine .bind_ofExcept h fun record _ => .failing h fun _ => .bind_ofExcept h fun _ _ => ?_
  cases kms.lookup key with
  | none => exact .throw h
  | some object =>
    cases direction with
    | encrypting | decrypting =>
      exact .bind_kept (askProvider_isLocal ⟨_, .inl rfl⟩ kms kms' h) fun _ _ _ h => h.settle _ _ key

theorem digestInit_isLocal (mechanism : Option PlacedMechanism) :
    IsLocal (R := R) (T := T) (N := N) session (digestInit session mechanism) := by
  intro kms kms' h
  refine .bind_ofExcept h fun given _ => .bind_get ?_
  rw [h.requireSession_eq]
  refine .bind_ofExcept h fun record _ => .bind_ofExcept h fun _ _ => ?_
  exact .bind_kept (askProvider_isLocal ⟨_, .inl rfl⟩ kms kms' h) fun _ _ _ h => h.settle _ _ _

/-- A step of a cipher, with an operation of the provider. -/
theorem cipherStep_isLocal {state : SessionState} {room : Option Nat} {lastStep : Bool}
    {step : Step (SoftwareCrypto R) T N Delivery} (hstep : IsLocal session step) :
    IsLocal session (do
      let _ ← operationKey session state
      delivering session room lastStep step) :=
  fun kms kms' h => h.bind_operationKey fun _ => SameFor.delivering (hstep kms kms' h)

/-- A step of a digest, with an operation of the provider. -/
theorem digestStep_isLocal {room : Option Nat} {step : Step (SoftwareCrypto R) T N Delivery}
    (hstep : IsLocal session step) :
    IsLocal session (do
      let _ ← Action.ofExcept ((← get).requireState session .digesting)
      delivering session room true step) := by
  intro kms kms' h
  refine .bind_get ?_
  rw [h.requireState_eq]
  exact .bind_ofExcept h fun _ _ => SameFor.delivering (hstep kms kms' h)

theorem digestUpdate_isLocal (data : Bytes) :
    IsLocal (R := R) (T := T) (N := N) session (digestUpdate session data) := by
  intro kms kms' h
  refine .bind_get ?_
  rw [h.requireState_eq]
  refine .bind_ofExcept h fun record _ => ?_
  exact .bind_kept (askProvider_isLocal ⟨_, .inr rfl⟩ kms kms' h) fun _ _ _ h =>
    h.bind_conclude fun _ _ h => .pure h

theorem signVerifyInitLocal_isLocal (mechanism : Mechanism) (key : ObjectHandle)
    (purpose : Purpose) :
    IsLocal (R := R) (T := T) (N := N) session
      (signVerifyInitLocal session mechanism key purpose) := by
  intro kms kms' h
  refine .bind_get ?_
  rw [h.lookup_eq]
  cases kms.lookup key with
  | none => exact .throw h
  | some object =>
    cases purpose with
    | signing | verifying => exact askProvider_isLocal ⟨_, .inl rfl⟩ kms kms' h

end Provider

-- ═══════════════════════════════════════════════════════════════════════════
-- Requests that ask both
-- ═══════════════════════════════════════════════════════════════════════════

section Both

variable [RandomSource R] [ExternalToken T]

theorem closeSession_isLocal :
    IsLocal (R := R) (T := T) (N := N) session (closeSession session) := by
  intro kms kms' h
  refine .bind_get ?_
  rw [h.requireSession_eq, h.tokenImplements_eq]
  refine .bind_ofExcept h fun record _ => h.bind_told fun htold external => ?_
  exact .bind_kept (htold.askProvider (.inr rfl)) fun _ _ _ h => h.bind_close fun _ _ h => .pure h

theorem signVerifyInit_isLocal (mechanism : Option PlacedMechanism) (key : ObjectHandle)
    (purpose : Purpose) :
    IsLocal (R := R) (T := T) (N := N) session (signVerifyInit session mechanism key purpose) := by
  intro kms kms' h
  refine .bind_ofExcept h fun given _ => .bind_get ?_
  rw [h.requireSession_eq, h.layout_eq, h.latches_eq]
  refine .bind_ofExcept h fun record _ => .bind_ofExcept h fun _ _ => .failing h fun _ => ?_
  refine .ite (fun _ => ?_) fun _ => .ite (fun _ => ?_) fun _ => .bind_throw h
  · refine .bind_kept ?_ fun _ _ _ h => h.settle _ _ key
    cases purpose with
    | signing | verifying =>
      refine .bind_get ?_
      rw [h.tokenSession_eq]
      exact .bind_ofExcept h fun external _ => h.askToken _
  · exact .bind_kept (signVerifyInitLocal_isLocal given key purpose kms kms' h) fun _ _ _ h =>
      h.settle _ _ key

theorem sign_isLocal (data : Bytes) (room : Option Nat) :
    IsLocal (R := R) (T := T) (N := N) session (sign session data room) := by
  intro kms kms' h
  refine h.bind_operationKey fun key => .bind_get ?_
  rw [h.layout_eq, h.tokenSession_eq]
  refine SameFor.delivering (.ite (fun _ => ?_) fun _ => ?_)
  · cases kms.tokenSession .sign session with
    | ok external => exact h.askToken _
    | error code => exact .pure h
  · exact askProvider_isLocal ⟨_, .inr rfl⟩ kms kms' h

theorem verify_isLocal (data signature : Bytes) :
    IsLocal (R := R) (T := T) (N := N) session (verify session data signature) := by
  intro kms kms' h
  refine h.bind_operationKey fun key => .bind_get ?_
  rw [h.layout_eq, h.tokenSession_eq]
  have hconcluded (code : ReturnCode) (kms kms' : Kms (SoftwareCrypto R) T N)
      (h : kms.SameFor session kms') :
      EndsAlike (do conclude session true; pure code) (do conclude session true; pure code) kms kms'
        (SameFor session) :=
    h.bind_conclude fun _ _ h => .pure h
  refine .ite (fun _ => ?_) fun _ => ?_
  · cases kms.tokenSession .verify session with
    | ok external => exact .bind_kept (h.askToken _) hconcluded
    | error code => exact .bind_run rfl rfl (hconcluded code kms kms' h)
  · exact .bind_kept (askProvider_isLocal ⟨_, .inr rfl⟩ kms kms' h) hconcluded

/-- Deriving a key depends on the key it comes from and on no context. -/
theorem deriveKey_isLocal [NvmStorage N] (mechanism : Option PlacedMechanism)
    (baseKey : ObjectHandle) (template : Template) :
    IsLocal (R := R) (T := T) (N := N) session
      (deriveKey session mechanism baseKey template) := by
  intro kms kms' h
  refine .bind_ofExcept h fun given _ => .bind_get ?_
  rw [h.requireSession_eq, h.latches_eq, h.layout_eq, h.tokenSession_eq, h.lookup_eq]
  refine .bind_ofExcept h fun record _ => .failing h fun _ => ?_
  refine .ite (fun _ => ?_) fun _ => .ite (fun _ => ?_) fun _ => .throw h
  · refine .bind_ofExcept h fun external _ => ?_
    exact .bind_kept (h.askToken _) fun _ _ _ h => .bind_ofExcept h fun _ _ => .pure h
  · refine .bind_ofExcept h fun length _ => ?_
    cases kms.lookup baseKey with
    | none => exact .throw h
    | some base =>
      refine .bind_run rfl rfl (.bind_ofExcept h fun value _ => ?_)
      exact .bind_pure (h.storeObject _ _)

end Both

-- ═══════════════════════════════════════════════════════════════════════════
-- All requests but those for key pairs
-- ═══════════════════════════════════════════════════════════════════════════

theorem serve_isLocal [RandomSource R] [ExternalToken T] [NvmStorage N] {request : Request}
    (hnamed : request.session? = some session) (hpair : request.function ≠ .generateKeyPair) :
    IsLocal (R := R) (T := T) (N := N) session (serve request) := by
  cases request with
  | initialise | finalise | getInfo | getSlotList | getSlotInfo | getTokenInfo | getMechanismInfo
  | openSession | importBlob | lockKeys | lockServices | other => cases hnamed
  | generateKeyPair => exact absurd rfl hpair
  | closeSession =>
    cases hnamed
    exact codeOnly_isLocal closeSession_isLocal
  | getSessionInfo =>
    cases hnamed
    exact getSessionInfo_isLocal
  | createObject =>
    cases hnamed
    exact createObject_isLocal _
  | destroyObject =>
    cases hnamed
    exact codeOnly_isLocal (destroyObject_isLocal _)
  | getAttributeValue =>
    cases hnamed
    exact getAttributeValue_isLocal _ _
  | setAttributeValue =>
    cases hnamed
    exact codeOnly_isLocal (setAttributeValue_isLocal _ _)
  | findObjectsInit =>
    cases hnamed
    exact codeOnly_isLocal (findObjectsInit_isLocal _)
  | findObjects =>
    cases hnamed
    exact findObjects_isLocal _
  | findObjectsFinal =>
    cases hnamed
    exact codeOnly_isLocal findObjectsFinal_isLocal
  | encryptInit | decryptInit =>
    cases hnamed
    exact codeOnly_isLocal (cryptInit_isLocal _ _ _)
  | encrypt | encryptUpdate | encryptFinal | decrypt | decryptUpdate | decryptFinal =>
    cases hnamed
    exact cipherStep_isLocal (askProvider_isLocal ⟨_, .inr rfl⟩)
  | digestInit =>
    cases hnamed
    exact codeOnly_isLocal (digestInit_isLocal _)
  | digest | digestFinal =>
    cases hnamed
    exact digestStep_isLocal (askProvider_isLocal ⟨_, .inr rfl⟩)
  | digestUpdate =>
    cases hnamed
    exact codeOnly_isLocal (digestUpdate_isLocal _)
  | signInit | verifyInit =>
    cases hnamed
    exact codeOnly_isLocal (signVerifyInit_isLocal _ _ _)
  | sign =>
    cases hnamed
    exact sign_isLocal _ _
  | verify =>
    cases hnamed
    exact codeOnly_isLocal (verify_isLocal _ _)
  | deriveKey =>
    cases hnamed
    exact deriveKey_isLocal _ _ _
  | generateRandom =>
    cases hnamed
    exact generateRandom_isLocal _

end KeyEnclave.Kms
