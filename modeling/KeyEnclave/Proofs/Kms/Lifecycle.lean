import KeyEnclave.Proofs.Kms.Contexts
import KeyEnclave.Proofs.Kms.TokenSessions

/-!
# The nested life cycle

The library may be brought up several times, and goes down only when it was brought down as often.
How deep it is nested is read off the enclave's own answers in a run; a token that is told along
with the enclave changes what the caller is told, and nothing else.

## Main definitions

* `Kms.alone`, `Kms.ownCode` — the service without its token, and the enclave's own code.
* `Kms.depth` — how often a run brought the library up and not down again.
* `Kms.Nests` — what calls of the life cycle do at a depth; `Kms.WentDown` — what is left in the end.

## Main results

* `Kms.nesting_after` — the nesting counts the depth.
* `Kms.closed_after` — a session that is closed stays so until it is opened.
* `Kms.life_cycle_nests` — both, for every run of a service that was configured.
-/

namespace KeyEnclave

open KeyEnclave.Action

namespace SessionTable

variable {table : SessionTable}

theorem toNat_of_isDown (h : table.isUp = false) : table.nesting.toNat = 0 :=
  Nat.eq_zero_of_not_pos fun hpos => Bool.false_ne_true (h.symm.trans (isUp_iff.mpr hpos))

theorem toNat_succ (h : table.nesting ≠ maxNesting) :
    (table.nesting + 1).toNat = table.nesting.toNat + 1 := by
  have hne : table.nesting.toNat ≠ 255 := fun heq => h (nesting_eq_iff.mpr heq)
  have hlt := table.nesting.toNat_lt
  rw [UInt8.toNat_add]
  exact Nat.mod_eq_of_lt (show table.nesting.toNat + 1 < 256 by omega)

theorem toNat_pred (h : table.isUp = true) :
    (table.nesting - 1).toNat = table.nesting.toNat - 1 :=
  UInt8.toNat_sub_of_le _ _ (UInt8.le_iff_toNat_le.mpr (isUp_iff.mp h))

end SessionTable

/-- A call opened a session and told its handle. -/
def Served.OpensSession (served : Served) (session : SessionHandle) : Prop :=
  (∃ slot flags notify address, served.call.request = .openSession slot flags notify address) ∧
    served.answer = ⟨.ok, .session (some session)⟩

namespace Kms

variable {C T N : Type}

-- ═══════════════════════════════════════════════════════════════════════════
-- The enclave's own part
-- ═══════════════════════════════════════════════════════════════════════════

/-- The service without its token. -/
def alone (kms : Kms C T N) : Kms C NoExternalToken N :=
  ⟨kms.latches, kms.sessions, kms.store, kms.crypto, .mk, kms.blobKeys⟩

@[simp] theorem alone_told [ExternalToken T] (kms : Kms C T N) (isTold : Bool) (op : TokenOp) :
    (kms.told isTold op).alone = kms.alone := by cases isTold <;> rfl

theorem sessions_of_alone {kms : Kms C T N} {alone : Kms C NoExternalToken N}
    (h : kms.alone = alone) : kms.sessions = alone.sessions := congrArg Kms.sessions h

theorem merge_heard (own reply : ReturnCode) (isTold : Bool) :
    merge own (if isTold then some reply else none) =
      if own = .ok ∧ isTold = true then reply else own := by
  cases isTold <;> simp [merge]

section Parts

variable [NvmStorage N]

/-- What bringing the library up makes of the sessions and the objects, after the enclave's own
code. -/
def risen (table : SessionTable) (store : ObjectStore N) :
    ReturnCode × SessionTable × ObjectStore N :=
  if table.bringUp.1 = .ok then
    match (ObjectStore.load.run store).answer with
    | .ok () => (.ok, table.bringUp.2, (ObjectStore.load.run store).state)
    | .error _ =>
      (.deviceMemory, table.bringUp.2.bringDown.2.2, (ObjectStore.load.run store).state)
  else (table.bringUp.1, table.bringUp.2, store)

variable {table : SessionTable} {store : ObjectStore N}

theorem risen_full (h : table.nesting = SessionTable.maxNesting) :
    risen table store = (.functionFailed, table, store) := by
  rw [risen, SessionTable.bringUp_of_full h]
  rfl

theorem risen_nested (h : table.isUp = true) (hroom : table.nesting ≠ SessionTable.maxNesting) :
    risen table store =
      (.cryptokiAlreadyInitialised, { table with nesting := table.nesting + 1 }, store) := by
  rw [risen, SessionTable.bringUp_of_nested h hroom]
  rfl

theorem risen_loaded (h : table.isUp = false)
    (hload : (ObjectStore.load.run store).answer = .ok ()) :
    risen table store = (.ok, ⟨1, .empty⟩, (ObjectStore.load.run store).state) := by
  rw [risen, SessionTable.bringUp_of_isDown h, if_pos rfl, hload]

theorem risen_failed (h : table.isUp = false) {error : StoreError}
    (hload : (ObjectStore.load.run store).answer = .error error) :
    risen table store = (.deviceMemory, .down, (ObjectStore.load.run store).state) := by
  rw [risen, SessionTable.bringUp_of_isDown h, if_pos rfl, hload]
  rfl

end Parts

variable [CryptoProvider C] [ExternalToken T] [NvmStorage N] {kms : Kms C T N} {call : Call}

omit [CryptoProvider C] in
/-- The enclave brings its own part up, and the token is told. -/
theorem bringUp_eq (kms : Kms C T N) : bringUp.Ends kms fun outcome =>
    outcome.answer = .ok (merge (risen kms.sessions kms.store).1
      (if kms.tokenImplements .initialise then some (kms.tokenReply .initialise) else none)) ∧
    outcome.state = { kms.told (kms.tokenImplements .initialise) .initialise with
      sessions := (risen kms.sessions kms.store).2.1
      store := (risen kms.sessions kms.store).2.2 } := by
  refine Ends.bind_get (bind_heard ?_)
  unfold risen
  rcases hup : kms.sessions.bringUp with ⟨own, sessions⟩
  refine Ends.bind_modify ?_
  by_cases hown : own = .ok
  · rw [if_pos hown, if_pos hown]
    refine bind_attempt_onStore ?_
    simp only [told_store]
    cases hload : (ObjectStore.load.run kms.store).answer with
    | ok u => exact Ends.pure ⟨rfl, rfl⟩
    | error error => exact Ends.bind_modify (Ends.pure ⟨rfl, rfl⟩)
  · rw [if_neg hown, if_neg hown]
    refine Ends.pure ⟨rfl, ?_⟩
    rw [← told_store kms (kms.tokenImplements .initialise) .initialise]
    rfl

omit [NvmStorage N] in
/-- The enclave takes its own part down, and the token is told. -/
theorem bringDown_eq (kms : Kms C T N) : bringDown.Ends kms fun outcome =>
    outcome.answer = .ok (merge kms.sessions.bringDown.1
      (if kms.tokenImplements .finalise then some (kms.tokenReply .finalise) else none)) ∧
    outcome.state = { kms.told (kms.tokenImplements .finalise) .finalise with
      sessions := kms.sessions.bringDown.2.2
      crypto := if kms.sessions.bringDown.2.1 then releasedContexts SessionHandle.all kms.crypto
        else kms.crypto
      store := if kms.sessions.bringDown.2.1 then kms.store.release else kms.store } := by
  refine Ends.bind_get (bind_heard ?_)
  rcases kms.sessions.bringDown with ⟨own, wentDown, sessions⟩
  refine Ends.bind_modify ?_
  cases wentDown with
  | true =>
    refine Ends.bind_run (run_releaseContexts _ _) (Ends.bind_modify (Ends.pure ⟨rfl, ?_⟩))
    rw [← told_crypto kms (kms.tokenImplements .finalise) .finalise,
      ← told_store kms (kms.tokenImplements .finalise) .finalise]
    rfl
  | false =>
    refine Ends.pure ⟨rfl, ?_⟩
    rw [← told_crypto kms (kms.tokenImplements .finalise) .finalise,
      ← told_store kms (kms.tokenImplements .finalise) .finalise]
    rfl

/-- A call comes with a request that is not refused for its function word. -/
def Serves (kms : Kms C T N) (call : Call) (request : Request) : Prop :=
  call.request = request ∧ kms.admitted call.word request = .ok ()

/-- The enclave's own code for a call. -/
def ownCode (kms : Kms C T N) (call : Call) : ReturnCode := (kms.alone.answerTo call).code

theorem answerTo_initialise (h : kms.Serves call .initialise) :
    kms.answerTo call = ⟨if (risen kms.sessions kms.store).1 = .ok ∧
        kms.tokenImplements .initialise = true then kms.tokenReply .initialise
      else (risen kms.sessions kms.store).1, .nothing⟩ ∧
    kms.next call = { kms.told (kms.tokenImplements .initialise) .initialise with
      sessions := (risen kms.sessions kms.store).2.1
      store := (risen kms.sessions kms.store).2.2 } := by
  obtain ⟨hrequest, hadmitted⟩ := h
  unfold answerTo next
  rw [hrequest, dispatch_of_admitted hadmitted]
  show Ends (codeOnly bringUp) kms fun outcome =>
    Request.concluding .initialise outcome.answer = _ ∧ outcome.state = _
  refine codeOnly_ends ((bringUp_eq kms).mono fun outcome houtcome => ⟨?_, houtcome.2⟩)
  rw [houtcome.1, merge_heard]
  rfl

theorem answerTo_finalise (h : kms.Serves call .finalise) :
    kms.answerTo call = ⟨if kms.sessions.bringDown.1 = .ok ∧
        kms.tokenImplements .finalise = true then kms.tokenReply .finalise
      else kms.sessions.bringDown.1, .nothing⟩ ∧
    kms.next call = { kms.told (kms.tokenImplements .finalise) .finalise with
      sessions := kms.sessions.bringDown.2.2
      crypto := if kms.sessions.bringDown.2.1 then releasedContexts SessionHandle.all kms.crypto
        else kms.crypto
      store := if kms.sessions.bringDown.2.1 then kms.store.release else kms.store } := by
  obtain ⟨hrequest, hadmitted⟩ := h
  unfold answerTo next
  rw [hrequest, dispatch_of_admitted hadmitted]
  show Ends (codeOnly bringDown) kms fun outcome =>
    Request.concluding .finalise outcome.answer = _ ∧ outcome.state = _
  refine codeOnly_ends ((bringDown_eq kms).mono fun outcome houtcome => ⟨?_, houtcome.2⟩)
  rw [houtcome.1, merge_heard]
  rfl

omit [ExternalToken T] in
theorem ownCode_initialise (h : kms.Serves call .initialise) :
    kms.ownCode call = (risen kms.sessions kms.store).1 := by
  have hserves : kms.alone.Serves call .initialise := h
  rw [ownCode, (answerTo_initialise hserves).1]
  exact if_neg fun hboth => Bool.false_ne_true hboth.2

omit [ExternalToken T] in
theorem ownCode_finalise (h : kms.Serves call .finalise) :
    kms.ownCode call = kms.sessions.bringDown.1 := by
  have hserves : kms.alone.Serves call .finalise := h
  rw [ownCode, (answerTo_finalise hserves).1]
  exact if_neg fun hboth => Bool.false_ne_true hboth.2

theorem alone_initialise (h : kms.Serves call .initialise) :
    (kms.next call).alone = { kms.alone with
      sessions := (risen kms.sessions kms.store).2.1
      store := (risen kms.sessions kms.store).2.2 } := by
  rw [(answerTo_initialise h).2, ← alone_told kms (kms.tokenImplements .initialise) .initialise]
  rfl

theorem alone_finalise (h : kms.Serves call .finalise) :
    (kms.next call).alone = { kms.alone with
      sessions := kms.sessions.bringDown.2.2
      crypto := if kms.sessions.bringDown.2.1 then releasedContexts SessionHandle.all kms.crypto
        else kms.crypto
      store := if kms.sessions.bringDown.2.1 then kms.store.release else kms.store } := by
  rw [(answerTo_finalise h).2, ← alone_told kms (kms.tokenImplements .finalise) .finalise]
  rfl

theorem initialise_of_full (h : kms.Serves call .initialise)
    (hfull : kms.sessions.nesting = SessionTable.maxNesting) :
    kms.ownCode call = .functionFailed ∧ (kms.next call).alone = kms.alone := by
  rw [ownCode_initialise h, alone_initialise h, risen_full hfull]
  exact ⟨rfl, rfl⟩

theorem initialise_of_nested (h : kms.Serves call .initialise) (hup : kms.sessions.isUp = true)
    (hroom : kms.sessions.nesting ≠ SessionTable.maxNesting) :
    kms.ownCode call = .cryptokiAlreadyInitialised ∧
      (kms.next call).alone = { kms.alone with
        sessions := { kms.sessions with nesting := kms.sessions.nesting + 1 } } := by
  rw [ownCode_initialise h, alone_initialise h, risen_nested hup hroom]
  exact ⟨rfl, rfl⟩

theorem initialise_of_loaded (h : kms.Serves call .initialise) (hdown : kms.sessions.isUp = false)
    (hload : (ObjectStore.load.run kms.store).answer = .ok ()) :
    kms.ownCode call = .ok ∧ (kms.next call).alone = { kms.alone with
      sessions := ⟨1, .empty⟩, store := (ObjectStore.load.run kms.store).state } := by
  rw [ownCode_initialise h, alone_initialise h, risen_loaded hdown hload]
  exact ⟨rfl, rfl⟩

theorem initialise_of_failed (h : kms.Serves call .initialise) (hdown : kms.sessions.isUp = false)
    {error : StoreError} (hload : (ObjectStore.load.run kms.store).answer = .error error) :
    kms.ownCode call = .deviceMemory ∧ (kms.next call).alone = { kms.alone with
      sessions := .down, store := (ObjectStore.load.run kms.store).state } := by
  rw [ownCode_initialise h, alone_initialise h, risen_failed hdown hload]
  exact ⟨rfl, rfl⟩

theorem finalise_of_down (h : kms.Serves call .finalise) (hdown : kms.sessions.isUp = false) :
    kms.ownCode call = .cryptokiNotInitialised ∧ (kms.next call).alone = kms.alone := by
  rw [ownCode_finalise h, alone_finalise h, SessionTable.bringDown_of_isDown hdown]
  exact ⟨rfl, rfl⟩

theorem finalise_of_nested (h : kms.Serves call .finalise) (hup : kms.sessions.isUp = true)
    (hnesting : kms.sessions.nesting ≠ 1) :
    kms.ownCode call = .ok ∧ (kms.next call).alone = { kms.alone with
      sessions := { kms.sessions with nesting := kms.sessions.nesting - 1 } } := by
  rw [ownCode_finalise h, alone_finalise h, SessionTable.bringDown_of_nested hup hnesting]
  exact ⟨rfl, rfl⟩

theorem finalise_of_last (h : kms.Serves call .finalise) (hlast : kms.sessions.nesting = 1) :
    kms.ownCode call = .ok ∧ (kms.next call).alone = { kms.alone with
      sessions := .down
      crypto := releasedContexts SessionHandle.all kms.crypto
      store := kms.store.release } := by
  rw [ownCode_finalise h, alone_finalise h, SessionTable.bringDown_of_one hlast]
  exact ⟨rfl, rfl⟩

-- ═══════════════════════════════════════════════════════════════════════════
-- Depth
-- ═══════════════════════════════════════════════════════════════════════════

/-- A call brought the library up, or up once more. -/
def raises (kms : Kms C T N) (call : Call) : Bool :=
  match call.request with
  | .initialise => kms.ownCode call ∈ [ReturnCode.ok, .cryptokiAlreadyInitialised]
  | _ => false

/-- A call took back one that brought the library up. -/
def lowers (kms : Kms C T N) (call : Call) : Bool :=
  match call.request with
  | .finalise => kms.ownCode call = .ok
  | _ => false

/-- How many calls of a run did something to the service they found. -/
def tally (did : Kms C T N → Call → Bool) (kms : Kms C T N) : List Call → Nat
  | [] => 0
  | call :: calls => (did kms call).toNat + (kms.next call).tally did calls

/-- How often a run brought the library up and not down again. -/
def depth (kms : Kms C T N) (calls : List Call) : Int :=
  kms.tally raises calls - kms.tally lowers calls

theorem next_of_refused {code : ReturnCode}
    (h : kms.admitted call.word call.request = .error code) : kms.next call = kms := by
  rw [next, dispatch_of_refused h]

omit [ExternalToken T] in
theorem ownCode_of_refused {code : ReturnCode}
    (h : kms.admitted call.word call.request = .error code) : kms.ownCode call = code := by
  have hrefused : kms.alone.admitted call.word call.request = .error code := h
  rw [ownCode, answerTo, dispatch_of_refused hrefused]

omit [ExternalToken T] in
/-- A call that is refused for its function word does not count. -/
theorem not_counted_of_refused {code : ReturnCode}
    (h : kms.admitted call.word call.request = .error code) :
    kms.raises call = false ∧ kms.lowers call = false := by
  have hok : code ≠ .ok := ne_ok_of_refused h
  have hnested : code ≠ .cryptokiAlreadyInitialised :=
    ne_of_mem_of_not_mem (code_of_refused h) (by decide)
  unfold raises lowers
  rw [ownCode_of_refused h]
  constructor <;> split <;> simp [hok, hnested]

omit [ExternalToken T] in
theorem counted_of_initialise (h : call.request = .initialise) : kms.lowers call = false ∧
    kms.raises call = decide (kms.ownCode call ∈ [ReturnCode.ok, .cryptokiAlreadyInitialised]) := by
  unfold raises lowers
  rw [h]
  exact ⟨rfl, rfl⟩

omit [ExternalToken T] in
theorem counted_of_finalise (h : call.request = .finalise) : kms.raises call = false ∧
    kms.lowers call = decide (kms.ownCode call = .ok) := by
  unfold raises lowers
  rw [h]
  exact ⟨rfl, rfl⟩

/-- Only the life cycle changes the count. -/
theorem Effect.nesting_eq {request : Request} {after : Kms C T N} {events : List KmsEvent}
    (h : kms.Effect request after events) (hup : request ≠ .initialise)
    (hdown : request ≠ .finalise) : after.sessions.nesting = kms.sessions.nesting := by
  cases h with
  | raised | cameUp | stayedDown => exact absurd rfl hup
  | lowered | wentDown => exact absurd rfl hdown
  | searchEnded => exact SessionTable.nesting_reset
  | stepLatched => exact SessionTable.nesting_reset
  | stepped op => exact nesting_concluded (kms.afterProvider op) _ _
  | steppedOnToken => rw [nesting_concluded, told_sessions]
  | nothing | asked | opened | openedOnToken | closed | searchBegun | paged | began | notBegun
  | beganOnToken | stored | made | installed | latchedKeys | latchedServices => rfl

omit [ExternalToken T] in
theorem not_counted_of_other (kms : Kms C T N) (hup : call.request ≠ .initialise)
    (hdown : call.request ≠ .finalise) :
    kms.raises call = false ∧ kms.lowers call = false := by
  unfold raises lowers
  constructor
  · split
    · next h => exact absurd h hup
    · rfl
  · split
    · next h => exact absurd h hdown
    · rfl

theorem nesting_initialise (h : kms.Serves call .initialise) :
    ((kms.next call).sessions.nesting.toNat : Int) =
      kms.sessions.nesting.toNat + (kms.raises call).toNat := by
  rw [(counted_of_initialise h.1).2]
  cases hup : kms.sessions.isUp with
  | true =>
    by_cases hfull : kms.sessions.nesting = SessionTable.maxNesting
    · obtain ⟨hown, hnext⟩ := initialise_of_full h hfull
      rw [hown, sessions_of_alone hnext]
      exact (Int.add_zero _).symm
    · obtain ⟨hown, hnext⟩ := initialise_of_nested h hup hfull
      rw [hown, sessions_of_alone hnext, SessionTable.toNat_succ hfull]
      rfl
  | false =>
    rw [SessionTable.toNat_of_isDown hup]
    cases hload : (ObjectStore.load.run kms.store).answer with
    | ok u =>
      obtain ⟨hown, hnext⟩ := initialise_of_loaded h hup hload
      rw [hown, sessions_of_alone hnext]
      rfl
    | error error =>
      obtain ⟨hown, hnext⟩ := initialise_of_failed h hup hload
      rw [hown, sessions_of_alone hnext]
      rfl

theorem nesting_finalise (h : kms.Serves call .finalise) :
    ((kms.next call).sessions.nesting.toNat : Int) =
      kms.sessions.nesting.toNat - (kms.lowers call).toNat := by
  rw [(counted_of_finalise h.1).2]
  cases hup : kms.sessions.isUp with
  | true =>
    by_cases hlast : kms.sessions.nesting = 1
    · obtain ⟨hown, hnext⟩ := finalise_of_last h hlast
      rw [hown, sessions_of_alone hnext, hlast]
      rfl
    · obtain ⟨hown, hnext⟩ := finalise_of_nested h hup hlast
      rw [hown, sessions_of_alone hnext, SessionTable.toNat_pred hup]
      exact Int.ofNat_sub (SessionTable.isUp_iff.mp hup)
  | false =>
    obtain ⟨hown, hnext⟩ := finalise_of_down h hup
    rw [hown, sessions_of_alone hnext]
    exact (Int.sub_zero _).symm

/-- One call changes the count by what it did. -/
theorem nesting_next (kms : Kms C T N) (call : Call) :
    ((kms.next call).sessions.nesting.toNat : Int) =
      kms.sessions.nesting.toNat + (kms.raises call).toNat - (kms.lowers call).toNat := by
  cases hadmitted : kms.admitted call.word call.request with
  | error code =>
    obtain ⟨hraises, hlowers⟩ := not_counted_of_refused hadmitted
    rw [next_of_refused hadmitted, hraises, hlowers]
    simp
  | ok u =>
    by_cases hup : call.request = .initialise
    · rw [nesting_initialise ⟨hup, hup ▸ hadmitted⟩, (counted_of_initialise hup).1]
      simp
    · by_cases hdown : call.request = .finalise
      · rw [nesting_finalise ⟨hdown, hdown ▸ hadmitted⟩, (counted_of_finalise hdown).1]
        simp
      · obtain ⟨hraises, hlowers⟩ := not_counted_of_other kms hup hdown
        rw [(kms.next_effect call).nesting_eq hup hdown, hraises, hlowers]
        simp

/-- A run changes the count by its depth. -/
theorem nesting_after (kms : Kms C T N) (calls : List Call) :
    ((kms.after calls).sessions.nesting.toNat : Int) =
      kms.sessions.nesting.toNat + kms.depth calls := by
  induction calls generalizing kms with
  | nil => simp [depth, tally]
  | cons call calls ih =>
    rw [after_cons, ih, nesting_next]
    simp only [depth, tally]
    omega

-- ═══════════════════════════════════════════════════════════════════════════
-- Closed sessions
-- ═══════════════════════════════════════════════════════════════════════════

variable {layout : ObjectLayout} {embedded : List Bytes} {session : SessionHandle}

omit [CryptoProvider C] [NvmStorage N] in
/-- A session that comes into being is told. -/
theorem Opens.answer_of_new {slot : UInt32} {flags : Flags} {notify : Option Notify}
    {answer : Answer} {after : Kms C T N} {events : List KmsEvent}
    (h : kms.Opens slot flags notify answer after events) {record : Session}
    (hbefore : kms.sessions.sessions.get? session = none)
    (hafter : after.sessions.sessions.get? session = some record) :
    answer = ⟨.ok, .session (some session)⟩ := by
  cases h with
  | refused | refusedByToken =>
    have hsame : kms.sessions.sessions.get? session = some record := hafter
    rw [hbefore] at hsame
    cases hsame
  | withoutToken _ _ hfree | withToken _ hfree =>
    rw [SessionTable.get?_put_of_index (PerSession.index?_isSome_of_firstFree? hfree), hbefore]
      at hafter
    split at hafter
    · next heq => rw [heq]
    · cases hafter

/-- A session comes into being only in a call that tells its handle. -/
theorem closed_next (hnull : kms.layout.classify noKey = .unknown)
    (hclosed : kms.sessions.sessions.get? session = none)
    (hnot : ¬(kms.served call).OpensSession session) :
    (kms.next call).sessions.sessions.get? session = none := by
  cases hafter : (kms.next call).sessions.sessions.get? session with
  | none => rfl
  | some record =>
    obtain ⟨slot, flags, notify, address, hrequest⟩ :=
      ((kms.next_effect call).onTable hnull).openSession_of_new hclosed hafter
    refine absurd ⟨⟨slot, flags, notify, address, hrequest⟩, ?_⟩ hnot
    have hopens := next_openSession kms hrequest
    exact hopens.answer_of_new hclosed hafter

/-- A session that is closed stays so until it is opened. -/
theorem closed_after (hvalid : layout.validate = .ok ()) (hsound : kms.IsSound layout embedded)
    (hclosed : kms.sessions.sessions.get? session = none) {calls : List Call}
    (hnot : ∀ served ∈ kms.history calls, ¬served.OpensSession session) :
    (kms.after calls).sessions.sessions.get? session = none := by
  induction calls generalizing kms with
  | nil => exact hclosed
  | cons call calls ih =>
    obtain ⟨hfirst, hrest⟩ := List.forall_mem_cons.mp hnot
    exact ih ((kms.next_effect call).isSound hvalid hsound)
      (closed_next (hsound.classify_noKey hvalid) hclosed hfirst) hrest

-- ═══════════════════════════════════════════════════════════════════════════
-- Every run
-- ═══════════════════════════════════════════════════════════════════════════

/-- What the end of the library leaves: nothing of any session, nothing in RAM, and every latch. -/
structure WentDown (kms bare : Kms C T N) : Prop where
  closed : ∀ session, bare.sessions.sessions.get? session = none
  /-- Whatever is seen of the provider's contexts, there is none. -/
  released : ∀ (contexts : ContextView C) session, ¬contexts.Holds bare.crypto session
  /-- What was cached of storage and what lived in RAM only is gone. -/
  emptied : bare.store.cached = [] ∧ bare.store.volatile = []
  latches_eq : bare.latches = kms.latches
  /-- From then on, up or down, a session is valid only once it was opened again. -/
  invalid : ∀ calls session, (∀ served ∈ bare.history calls, ¬served.OpensSession session) →
    ∀ record, (bare.after calls).requireSession session ≠ .ok record

/-- What the life cycle is at a depth. -/
structure Nests (kms : Kms C T N) (depth : Int) : Prop where
  /-- The counter has not wrapped. -/
  nesting_eq : (kms.sessions.nesting.toNat : Int) = depth
  bounded : 0 ≤ depth ∧ depth ≤ 255
  isUp_iff : kms.sessions.isUp = true ↔ 0 < depth
  /-- A call that is refused for its function word counts for nothing. -/
  refused : ∀ call code, kms.admitted call.word call.request = .error code →
    kms.next call = kms ∧ kms.raises call = false ∧ kms.lowers call = false
  /-- At the greatest depth the library is not brought up once more. -/
  full : depth = 255 → ∀ call, kms.Serves call .initialise →
    kms.ownCode call = .functionFailed ∧ (kms.next call).alone = kms.alone
  /-- Bringing a library up that is up only counts. -/
  nested : 0 < depth → depth < 255 → ∀ call, kms.Serves call .initialise →
    kms.ownCode call = .cryptokiAlreadyInitialised ∧
      (kms.next call).alone = { kms.alone with
        sessions := { kms.sessions with nesting := kms.sessions.nesting + 1 } }
  /-- The library comes up with what can be loaded. -/
  loaded : depth = 0 → (ObjectStore.load.run kms.store).answer = .ok () →
    ∀ call, kms.Serves call .initialise →
      kms.ownCode call = .ok ∧ (kms.next call).sessions = ⟨1, .empty⟩
  /-- It stays down when loading fails. -/
  failed : depth = 0 → ∀ error, (ObjectStore.load.run kms.store).answer = .error error →
    ∀ call, kms.Serves call .initialise →
      kms.ownCode call = .deviceMemory ∧ (kms.next call).sessions = .down
  /-- A library that is down can not be brought down. -/
  notUp : depth = 0 → ∀ call, kms.Serves call .finalise →
    kms.ownCode call = .cryptokiNotInitialised ∧ (kms.next call).alone = kms.alone
  /-- Bringing it down less often than up only counts. -/
  lowered : 1 < depth → ∀ call, kms.Serves call .finalise →
    kms.ownCode call = .ok ∧ (kms.next call).alone = { kms.alone with
      sessions := { kms.sessions with nesting := kms.sessions.nesting - 1 } }
  /-- Bringing it down as often ends it. -/
  last : depth = 1 → ∀ call, kms.Serves call .finalise →
    kms.ownCode call = .ok ∧ kms.WentDown (kms.next call)
  /-- The caller is told the enclave's own code unless that is `ok` and the token has a reply. -/
  toldUp : ∀ call, kms.Serves call .initialise → kms.answerTo call =
    ⟨if kms.ownCode call = .ok ∧ kms.tokenImplements .initialise = true then
      kms.tokenReply .initialise else kms.ownCode call, .nothing⟩
  toldDown : ∀ call, kms.Serves call .finalise → kms.answerTo call =
    ⟨if kms.ownCode call = .ok ∧ kms.tokenImplements .finalise = true then
      kms.tokenReply .finalise else kms.ownCode call, .nothing⟩

theorem wentDown_of_last (hvalid : layout.validate = .ok ()) (hsound : kms.IsSound layout embedded)
    (h : kms.Serves call .finalise) (hlast : kms.sessions.nesting = 1) :
    kms.WentDown (kms.next call) := by
  obtain ⟨-, hnext⟩ := finalise_of_last h hlast
  have hsessions : (kms.next call).sessions = .down := sessions_of_alone hnext
  have hcrypto : (kms.next call).crypto = releasedContexts SessionHandle.all kms.crypto :=
    congrArg Kms.crypto hnext
  have hstore : (kms.next call).store = kms.store.release := congrArg Kms.store hnext
  have hclosed (session : SessionHandle) :
      (kms.next call).sessions.sessions.get? session = none := by
    rw [hsessions]
    exact PerSession.get?_empty session
  constructor
  case closed => exact hclosed
  case released =>
    intro contexts session
    rw [hcrypto]
    exact contexts.not_releasedContexts_all kms.crypto session
  case emptied =>
    rw [hstore]
    exact ⟨rfl, rfl⟩
  case latches_eq =>
    show (kms.next call).alone.latches = kms.alone.latches
    rw [hnext]
  case invalid =>
    intro calls session hnot record hvalidSession
    have hget := closed_after hvalid ((kms.next_effect call).isSound hvalid hsound)
      (hclosed session) hnot
    rw [(requireSession_eq_ok.mp hvalidSession).2] at hget
    cases hget

theorem nests_of_nesting {depth : Int} (hvalid : layout.validate = .ok ())
    (hsound : kms.IsSound layout embedded) (h : (kms.sessions.nesting.toNat : Int) = depth) :
    kms.Nests depth := by
  have hbound : kms.sessions.nesting.toNat < 256 := UInt8.toNat_lt _
  have hup : kms.sessions.isUp = true ↔ 0 < depth := by
    rw [SessionTable.isUp_iff]
    omega
  have hdown (hzero : depth = 0) : kms.sessions.isUp = false :=
    Bool.eq_false_iff.mpr fun hisUp => by
      have := hup.mp hisUp
      omega
  have hfull : kms.sessions.nesting = SessionTable.maxNesting ↔ depth = 255 := by
    rw [SessionTable.nesting_eq_iff, ← h]
    exact Int.natCast_inj.symm
  have hlast : kms.sessions.nesting = 1 ↔ depth = 1 := by
    rw [SessionTable.nesting_eq_iff, ← h]
    exact Int.natCast_inj.symm
  constructor
  case nesting_eq => exact h
  case bounded => omega
  case isUp_iff => exact hup
  case refused => exact fun call code hrefused =>
    ⟨next_of_refused hrefused, not_counted_of_refused hrefused⟩
  case full => exact fun hdepth call hserves => initialise_of_full hserves (hfull.mpr hdepth)
  case nested =>
    exact fun hpos hlt call hserves =>
      initialise_of_nested hserves (hup.mpr hpos) fun heq => absurd (hfull.mp heq) (by omega)
  case loaded =>
    intro hzero hload call hserves
    obtain ⟨hown, hnext⟩ := initialise_of_loaded hserves (hdown hzero) hload
    exact ⟨hown, sessions_of_alone hnext⟩
  case failed =>
    intro hzero error hload call hserves
    obtain ⟨hown, hnext⟩ := initialise_of_failed hserves (hdown hzero) hload
    exact ⟨hown, sessions_of_alone hnext⟩
  case notUp => exact fun hzero call hserves => finalise_of_down hserves (hdown hzero)
  case lowered =>
    exact fun hgt call hserves => finalise_of_nested hserves (hup.mpr (by omega))
      fun heq => absurd (hlast.mp heq) (by omega)
  case last =>
    intro hone call hserves
    exact ⟨(finalise_of_last hserves (hlast.mpr hone)).1,
      wentDown_of_last hvalid hsound hserves (hlast.mpr hone)⟩
  case toldUp =>
    intro call hserves
    rw [ownCode_initialise hserves]
    exact (answerTo_initialise hserves).1
  case toldDown =>
    intro call hserves
    rw [ownCode_finalise hserves]
    exact (answerTo_finalise hserves).1

/-- After every run, the library is as deep as the enclave's own answers say, and the life cycle is
what it is to be at that depth. -/
theorem life_cycle_nests {config : KmsConfig} {crypto : C} {token : T} {nvm : N} {start : Kms C T N}
    (hnew : Kms.new config crypto token nvm = .ok start) (calls : List Call) :
    (start.after calls).Nests (start.depth calls) := by
  refine nests_of_nesting (new_eq_ok hnew).1 (isSound_after hnew calls) ?_
  rw [nesting_after]
  obtain ⟨-, rfl⟩ := new_eq_ok hnew
  exact Int.zero_add _

/-- A library that was brought up twice and down once computes a digest; brought down again, it
keeps no context of it. -/
theorem digesting_library_goes_down :
    let start := plain .standard (SoftwareCrypto.new (default : XorShift)) NoExternalToken.mk
      (default : SimulatedNvm)
    let calls : List Call := [⟨FunctionId.initialise.word, .initialise⟩,
      ⟨FunctionId.initialise.word, .initialise⟩,
      ⟨FunctionId.openSession.word, .openSession 1 SessionFlags.serialSession none default⟩,
      ⟨FunctionId.digestInit.word, .digestInit 1 (some ⟨MechanismKind.sha256, default⟩)⟩,
      ⟨FunctionId.finalise.word, .finalise⟩]
    let finalise : Call := ⟨FunctionId.finalise.word, .finalise⟩
    start.depth calls = 1 ∧ (start.after calls).Nests 1 ∧
      ((start.after calls).crypto.operations.get? 1).isSome = true ∧
      ∀ session, ((start.after calls).next finalise).crypto.stateOf session = none := by
  intro start calls finalise
  have hdepth : start.depth calls = 1 := by decide +kernel
  have hnests := life_cycle_nests (new_plain (by decide) _ _ _ : Kms.new _ _ _ _ = .ok start) calls
  rw [hdepth] at hnests
  have haccepts : (start.after calls).Accepts finalise := ⟨by decide, by decide +kernel⟩
  have hwentDown := (hnests.last rfl finalise ⟨rfl, haccepts.admitted⟩).2
  exact ⟨hdepth, hnests, by decide +kernel, fun session =>
    Decidable.not_not.mp (hwentDown.released SoftwareCrypto.contexts session)⟩

end Kms

end KeyEnclave
