import KeyEnclave.Proofs.Action.Ends
import KeyEnclave.Proofs.Kms.Effect

/-!
# Rules for the steps of the service

What an exchange, a check or a change of one part of the service leaves behind, in the form in which
the outcome of a longer step is put together from them.
-/

namespace KeyEnclave.Kms

open KeyEnclave.Action

variable {C T N α : Type} {kms : Kms C T N}

section Rules

variable {post : Outcome (Kms C T N) KmsEvent ReturnCode α → Prop}

theorem bind_askToken [ExternalToken T] {op : TokenOp} {next : op.Reply → Step C T N α}
    (h : (next (kms.tokenReply op)).Ends (kms.afterToken op) fun rest =>
      post (rest.after [kms.tokenEvent op])) :
    (askToken op >>= next).Ends kms post :=
  Ends.bind_run rfl h

theorem bind_askProvider [CryptoProvider C] {op : ProviderOp} {next : op.Reply → Step C T N α}
    (h : (next (kms.providerReply op)).Ends (kms.afterProvider op) fun rest =>
      post (rest.after [kms.providerEvent op])) :
    (askProvider op >>= next).Ends kms post :=
  Ends.bind_run rfl h

/-- A token that is only told when it has the function, and whose reply is heard. -/
theorem bind_heard [ExternalToken T] {isTold : Bool} {op : TokenOp} {β : Type}
    {wrap : op.Reply → β} {silent : β} {next : β → Step C T N α}
    (h : (next (if isTold then wrap (kms.tokenReply op) else silent)).Ends (kms.told isTold op)
      fun rest => post (rest.after (kms.toldEvents isTold op))) :
    (if isTold = true then (wrap <$> askToken op : Step C T N β) >>= next
      else (pure silent : Step C T N β) >>= next).Ends kms post := by
  cases isTold with
  | true => exact Ends.bind_run (a := wrap (kms.tokenReply op)) rfl h
  | false => exact Ends.bind_run (a := silent) rfl h

/-- A token that is only told when it has the function, whatever it replies. -/
theorem bind_told [ExternalToken T] {isTold : Bool} {op : TokenOp} {β : Type}
    {wrap : op.Reply → β} {silent : β} {next : β → Step C T N α}
    (h : ∀ reply, (next reply).Ends (kms.told isTold op) fun rest =>
      post (rest.after (kms.toldEvents isTold op))) :
    (if isTold = true then (wrap <$> askToken op : Step C T N β) >>= next
      else (pure silent : Step C T N β) >>= next).Ends kms post :=
  bind_heard (h _)

theorem run_updateSessions {f : SessionTable → Except ReturnCode SessionTable}
    {table : SessionTable} (hf : f kms.sessions = .ok table) :
    (updateSessions f : Step C T N Unit).run kms = ⟨.ok (), { kms with sessions := table }, []⟩ := by
  unfold updateSessions
  rw [run_bind, run_get]
  simp only [hf]
  rfl

theorem run_updateSessions_error {f : SessionTable → Except ReturnCode SessionTable}
    {code : ReturnCode} (hf : f kms.sessions = .error code) :
    (updateSessions f : Step C T N Unit).run kms = ⟨.error code, kms, []⟩ := by
  unfold updateSessions
  rw [run_bind, run_get]
  simp only [hf]
  rfl

theorem bind_updateSessions {f : SessionTable → Except ReturnCode SessionTable}
    {table : SessionTable} {next : Unit → Step C T N α} (hf : f kms.sessions = .ok table)
    (h : (next ()).Ends { kms with sessions := table } post) :
    (updateSessions f >>= next).Ends kms post :=
  Ends.bind_run (run_updateSessions hf) h

theorem run_onStore {α : Type} {step : ObjectStore.Step N α} {answer : Except StoreError α}
    {store : ObjectStore N} {journal : List NvmExchange}
    (hrun : step.run kms.store = ⟨answer, store, journal⟩) :
    (onStore step : Step C T N α).run kms =
      ⟨answer.mapError StoreError.code, { kms with store := store }, journal.map .nvm⟩ := by
  show (⟨(step.run kms.store).answer.mapError StoreError.code,
    { kms with store := (step.run kms.store).state },
    (step.run kms.store).journal.map KmsEvent.nvm⟩ : Outcome ..) = _
  rw [hrun]

theorem bind_onStore {β : Type} {step : ObjectStore.Step N β} {next : β → Step C T N α}
    (herror : ∀ error, (step.run kms.store).answer = .error error →
      post ⟨.error error.code, { kms with store := (step.run kms.store).state },
        (step.run kms.store).journal.map .nvm⟩)
    (hok : ∀ b, (step.run kms.store).answer = .ok b →
      (next b).Ends { kms with store := (step.run kms.store).state } fun rest =>
        post (rest.after ((step.run kms.store).journal.map .nvm))) :
    (onStore step >>= next).Ends kms post := by
  refine Ends.bind ?_
  cases hanswer : (step.run kms.store).answer with
  | error error =>
    have hrun : step.run kms.store =
        ⟨.error error, (step.run kms.store).state, (step.run kms.store).journal⟩ := by rw [← hanswer]
    exact Ends.of_run (run_onStore hrun) (herror error hanswer)
  | ok b =>
    have hrun : step.run kms.store =
        ⟨.ok b, (step.run kms.store).state, (step.run kms.store).journal⟩ := by rw [← hanswer]
    exact Ends.of_run (run_onStore hrun) (hok b hanswer)

theorem bind_attempt_onStore {β : Type} {step : ObjectStore.Step N β}
    {next : Except ReturnCode β → Step C T N α}
    (h : (next ((step.run kms.store).answer.mapError StoreError.code)).Ends
      { kms with store := (step.run kms.store).state } fun rest =>
        post (rest.after ((step.run kms.store).journal.map .nvm))) :
    (attempt (onStore step) >>= next).Ends kms post := h

theorem run_conclude [CryptoProvider C] (kms : Kms C T N) (session : SessionHandle) (isEnded : Bool) :
    (conclude session isEnded : Step C T N Unit).run kms =
      ⟨.ok (), kms.concluded session isEnded, conclusion session isEnded⟩ := by
  cases isEnded with
  | true => rfl
  | false => rfl

theorem bind_conclude [CryptoProvider C] {session : SessionHandle} {isEnded : Bool}
    {next : Unit → Step C T N α}
    (h : (next ()).Ends (kms.concluded session isEnded) fun rest =>
      post (rest.after (conclusion session isEnded))) :
    (conclude session isEnded >>= next).Ends kms post :=
  Ends.bind_run (run_conclude kms session isEnded) h

/-- A step of an operation needs the session to be in its state, and its key not to be latched. -/
theorem bind_operationKey [CryptoProvider C] {session : SessionHandle} {state : SessionState}
    {next : ObjectHandle → Step C T N α} (hrefused : ∀ code, post ⟨.error code, kms, []⟩)
    (hlatched : ∀ record, kms.requireState session state = .ok record →
      kms.latches.isKeyLocked record.key = true →
      post ⟨.error .keyHandleInvalid, kms.ended session, [releaseEvent session]⟩)
    (hopen : ∀ record, kms.requireState session state = .ok record → kms.IsOpen record.key →
      (next record.key).Ends kms post) :
    (operationKey session state >>= next).Ends kms post := by
  refine Ends.bind (Ends.bind_get (Ends.bind_ofExcept (fun _ _ => hrefused _)
    fun record hstate => ?_))
  refine Ends.ite (fun hlatch => ?_) fun hlatch => Ends.pure (hopen record hstate ?_)
  · exact bind_conclude (Ends.bind_throw (hlatched record hstate hlatch.2))
  · by_cases hkey : record.key = noKey
    · exact .inl hkey
    · exact .inr (Bool.eq_false_iff.mpr fun h => hlatch ⟨hkey, h⟩)

theorem delivering_ends [CryptoProvider C] {session : SessionHandle} {room : Option Nat}
    {lastStep : Bool} {step : Step C T N Delivery} {delivery : Delivery} {after : Kms C T N}
    {journal : List KmsEvent} {post : Outcome (Kms C T N) KmsEvent ReturnCode Answer → Prop}
    (hrun : step.run kms = ⟨.ok delivery, after, journal⟩)
    (h : ∀ answer, post ⟨answer,
      after.concluded session (terminates delivery.code room.isSome lastStep),
      journal ++ conclusion session (terminates delivery.code room.isSome lastStep)⟩) :
    (delivering session room lastStep step).Ends kms post := by
  refine Ends.bind_run hrun (bind_conclude (Ends.pure ?_))
  show post ⟨_, _, journal ++ (_ ++ [])⟩
  rw [List.append_nil]
  exact h _

/-- Asking the provider about a mechanism changes nothing. -/
theorem providerMechanismInfo_ends [CryptoProvider C] {mechanism : MechanismKind}
    {post : Outcome (Kms C T N) KmsEvent ReturnCode Answer → Prop}
    (h : ∀ answer, post ⟨answer, kms, []⟩) : (providerMechanismInfo mechanism).Ends kms post := by
  refine Ends.bind_get ?_
  split
  · exact Ends.pure (h _)
  · exact Ends.throw (h _)

/-- An object is stored by at most one insertion. -/
theorem storeObject_ends [NvmStorage N] {range : Provenance} {parts : List Template}
    {post : Outcome (Kms C T N) KmsEvent ReturnCode ObjectHandle → Prop}
    (h : ∀ answer store journal, kms.store.Changes store journal →
      post ⟨answer, { kms with store := store }, journal.map .nvm⟩) :
    (storeObject range parts).Ends kms post := by
  refine Ends.bind_get (Ends.bind_ofExcept (fun _ _ => h _ _ _ .none) fun handle _ => ?_)
  split
  · exact Ends.throw (h _ _ _ .none)
  · next blob _ => exact h _ _ _ (.insert blob .none)

/-- Bringing the library up changes nothing but the count if it is up, and loads the objects in
storage if it is down. -/
theorem bringUp_ends [ExternalToken T] [NvmStorage N]
    {post : Outcome (Kms C T N) KmsEvent ReturnCode ReturnCode → Prop}
    (hraised : kms.sessions.isUp = true → ∀ isTold code, post ⟨.ok code,
      { kms.told isTold .initialise with sessions := kms.sessions.bringUp.2 },
      kms.toldEvents isTold .initialise⟩)
    (hcameUp : kms.sessions.isUp = false →
      (ObjectStore.load.run kms.store).answer = .ok () → ∀ isTold code, post ⟨.ok code,
        { kms.told isTold .initialise with
          sessions := ⟨1, .empty⟩
          store := (ObjectStore.load.run kms.store).state },
        kms.toldEvents isTold .initialise ++ (ObjectStore.load.run kms.store).journal.map .nvm⟩)
    (hstayedDown : kms.sessions.isUp = false → ∀ error,
      (ObjectStore.load.run kms.store).answer = .error error → ∀ isTold code, post ⟨.ok code,
        { kms.told isTold .initialise with
          sessions := .down
          store := (ObjectStore.load.run kms.store).state },
        kms.toldEvents isTold .initialise ++ (ObjectStore.load.run kms.store).journal.map .nvm⟩) :
    bringUp.Ends kms post := by
  refine Ends.bind_get (bind_told fun external => ?_)
  cases hup : kms.sessions.isUp with
  | true =>
    rcases hbroughtUp : kms.sessions.bringUp with ⟨own, sessions⟩
    have hown : own ≠ .ok := by
      have := SessionTable.bringUp_of_isUp hup
      rwa [hbroughtUp] at this
    rw [hbroughtUp] at hraised
    refine Ends.bind_modify ?_
    rw [if_neg hown]
    refine Ends.pure ?_
    show post ⟨_, _, _ ++ []⟩
    rw [List.append_nil]
    exact hraised hup _ _
  | false =>
    rw [SessionTable.bringUp_of_isDown hup]
    refine Ends.bind_modify ?_
    rw [if_pos rfl]
    refine bind_attempt_onStore ?_
    simp only [told_store]
    cases hload : (ObjectStore.load.run kms.store).answer with
    | ok u =>
      refine Ends.pure ?_
      show post ⟨_, _, _ ++ (_ ++ [])⟩
      rw [List.append_nil]
      exact hcameUp hup hload _ _
    | error error =>
      refine Ends.bind_modify (Ends.pure ?_)
      show post ⟨_, _, _ ++ (_ ++ [])⟩
      rw [List.append_nil]
      exact hstayedDown hup error hload _ _

theorem run_releaseContexts [CryptoProvider C] (sessions : List SessionHandle) (kms : Kms C T N) :
    (releaseContexts sessions : Step C T N Unit).run kms =
      ⟨.ok (), { kms with crypto := releasedContexts sessions kms.crypto },
        sessions.map releaseEvent⟩ := by
  induction sessions generalizing kms with
  | nil => rfl
  | cons session sessions ih =>
    have hstep : (releaseContexts (session :: sessions) : Step C T N Unit) =
        (askProvider (.release session) >>= fun _ => releaseContexts sessions) := rfl
    have hask : (askProvider (.release session) : Step C T N Unit).run kms =
        ⟨.ok (), kms.afterProvider (.release session), [releaseEvent session]⟩ := rfl
    rw [hstep, run_bind, hask]
    simp only [ih]
    rfl

end Rules

theorem codeOnly_ends {step : Step C T N ReturnCode}
    {post : Outcome (Kms C T N) KmsEvent ReturnCode Answer → Prop}
    (h : step.Ends kms fun outcome =>
      post ⟨outcome.answer.map fun code => ⟨code, .nothing⟩, outcome.state, outcome.journal⟩) :
    (codeOnly step).Ends kms post := by
  refine Ends.bind (Ends.mono h fun outcome h => ?_)
  rcases outcome with ⟨code | code, after, journal⟩
  · exact h
  · show post ⟨_, _, journal ++ []⟩
    rw [List.append_nil]
    exact h

theorem requireUp_eq_ok {u : Unit} : kms.requireUp = .ok u ↔ kms.sessions.isUp = true := by
  unfold requireUp
  split <;> simp [*]

theorem requireSession_eq_ok {session : SessionHandle} {record : Session} :
    kms.requireSession session = .ok record ↔
      kms.sessions.isUp = true ∧ kms.sessions.sessions.get? session = some record := by
  unfold requireSession requireUp
  cases kms.sessions.isUp with
  | false => simp [bind, Except.bind]
  | true => simpa [bind, Except.bind] using SessionTable.get_eq_ok

theorem requireIdle_eq_ok {record : Session} :
    requireIdle record = .ok () ↔ record.state = .idle := by
  unfold requireIdle
  split <;> simp [*]

theorem requireMechanism_ne_error_ok {mechanism : Option PlacedMechanism} :
    requireMechanism mechanism ≠ .error .ok := by
  unfold requireMechanism
  split <;> nofun

theorem requireMechanism_eq_ok {mechanism : Option PlacedMechanism} {given : Mechanism}
    (h : requireMechanism mechanism = .ok given) :
    ∃ placed, mechanism = some placed ∧ given = placed.mechanism := by
  cases mechanism with
  | none => cases h
  | some placed => exact ⟨placed, rfl, (Except.ok.inj h).symm⟩

theorem requireState_eq_ok {session : SessionHandle} {state : SessionState} {record : Session} :
    kms.requireState session state = .ok record ↔
      kms.requireSession session = .ok record ∧ record.state = state := by
  unfold requireState
  cases kms.requireSession session with
  | error code => simp [bind, Except.bind]
  | ok found =>
    by_cases hstate : found.state = state
    · simp only [bind, Except.bind, hstate, ne_eq, not_true_eq_false, if_false]
      constructor
      · rintro ⟨⟩
        exact ⟨rfl, hstate⟩
      · rintro ⟨⟨⟩, -⟩
        rfl
    · simp only [bind, Except.bind, ne_eq, hstate, not_false_eq_true, if_true]
      constructor
      · rintro ⟨⟩
      · rintro ⟨⟨⟩, h⟩
        exact absurd h hstate

theorem requireSession_ne_error_ok {session : SessionHandle} :
    kms.requireSession session ≠ .error .ok := by
  refine bind_ne_error ?_ fun _ => ?_
  · unfold requireUp
    split <;> nofun
  · unfold SessionTable.get
    split <;> nofun

theorem requireState_ne_error_ok {session : SessionHandle} {state : SessionState} :
    kms.requireState session state ≠ .error .ok :=
  bind_ne_error requireSession_ne_error_ok fun _ => failing_ne_error (by decide) nofun

theorem requireIdle_ne_error_ok {record : Session} : requireIdle record ≠ .error .ok := by
  unfold requireIdle
  split <;> nofun

/-- The length that a template asks of a derived key: that of its first attribute for it, or 32. -/
def askedLength? (template : Template) : Option Nat :=
  match template.find? AttributeKind.valueLen with
  | none => some 32
  | some data => (Bytes.asWord? data).map UInt32.toNat

theorem derivedLength_eq (template : Template) :
    derivedLength template =
      match askedLength? template with
      | none => .error .attributeValueInvalid
      | some length =>
        if length = 0 ∨ 64 < length then .error .attributeValueInvalid else .ok length := by
  unfold derivedLength askedLength?
  cases template.find? AttributeKind.valueLen with
  | none => rfl
  | some data =>
    cases hword : Bytes.asWord? data with
    | none =>
      simp only [hword]
      rfl
    | some word =>
      simp only [hword]
      rfl

theorem derivedLength_eq_ok {template : Template} {length : Nat} :
    derivedLength template = .ok length ↔
      askedLength? template = some length ∧ 1 ≤ length ∧ length ≤ 64 := by
  rw [derivedLength_eq]
  cases askedLength? template with
  | none => simp
  | some asked =>
    simp only [Option.some.injEq]
    split
    · next hbad =>
      constructor
      · intro h
        cases h
      · rintro ⟨rfl, hpos, hle⟩
        omega
    · next hgood =>
      rw [Except.ok.injEq]
      refine ⟨?_, And.left⟩
      rintro rfl
      omega

theorem derivedLength_ne_error_ok {template : Template} : derivedLength template ≠ .error .ok := by
  rw [derivedLength_eq]
  split
  · nofun
  · split <;> nofun

theorem tokenSession_eq_ok [ExternalToken T] {function : FunctionId} {session : SessionHandle}
    {external : UInt32}
    (h : kms.tokenSession function session = .ok external) :
    external = kms.sessions.external session := by
  unfold tokenSession at h
  split at h
  · exact (Except.ok.inj h).symm
  · cases h

theorem tokenSession_of_has [ExternalToken T] {function : FunctionId} {session : SessionHandle}
    (hhas : kms.tokenImplements function = true) :
    kms.tokenSession function session = .ok (kms.sessions.external session) := if_pos hhas

theorem tokenSession_of_lacks [ExternalToken T] {function : FunctionId} {session : SessionHandle}
    (hlacks : kms.tokenImplements function = false) :
    kms.tokenSession function session = .error .functionNotSupported := by
  unfold tokenSession
  rw [hlacks]
  rfl

theorem toExcept_eq_ok {code : ReturnCode} {u : Unit} (h : code.toExcept = .ok u) : code = .ok := by
  cases code <;> first | rfl | cases h

theorem toExcept_eq_error {code error : ReturnCode} (h : code.toExcept = .error error) :
    code ≠ .ok := by
  rintro rfl
  cases h

theorem toExcept_ne_error_ok {code : ReturnCode} : code.toExcept ≠ .error .ok := by
  cases code <;> nofun

/-- What every beginning does with the code of the collaborator that was asked. -/
theorem settle_ends (kms : Kms C T N) {session : SessionHandle} {state : SessionState}
    {key : ObjectHandle} {code : ReturnCode} {record : Session}
    {post : Outcome (Kms C T N) KmsEvent ReturnCode ReturnCode → Prop}
    (hget : kms.sessions.sessions.get? session = some record)
    (hrefused : code ≠ .ok → ∀ error, post ⟨.error error, kms, []⟩)
    (hbegun : code = .ok → post ⟨.ok .ok,
      { kms with sessions := kms.sessions.put session ({ record with state := state, key := key }) },
      []⟩) :
    Ends (do
      Action.ofExcept code.toExcept
      updateSessions fun table => table.setState session state key
      pure .ok) kms post :=
  Ends.bind_ofExcept (fun _ h => hrefused (toExcept_eq_error h) _) fun _ h =>
    bind_updateSessions (SessionTable.update_eq_put _ hget)
      (Ends.pure (hbegun (toExcept_eq_ok h)))

end KeyEnclave.Kms
