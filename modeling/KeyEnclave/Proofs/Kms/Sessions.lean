import KeyEnclave.Proofs.Handle.Layout
import KeyEnclave.Proofs.Kms.Storage

/-!
# What a request does to a session

Of everything a request may do, a single session sees that it is opened or closed, that a search or
an operation begins, goes on or ends, or nothing at all.

## Main definitions

* `SessionState.isOperation`, `SessionState.isKeyed` — the states of an operation, and of one with
  a key.
* `SessionEffect` — what a request does to one session.
* `TableEffect` — what a request does to all of them.
* `Session.IsSound` — what is remembered of a session fits its state.
* `Kms.IsSound` — the store and every session are sound, and none is open while the library is down.

## Main results

* `Kms.Effect.onTable` — every effect is one of these for the sessions.
* `Kms.isSound_after` — the store and every open session are sound after every run.
* `Kms.state_of_next` — no session goes from one operation to another in one call.
-/

namespace KeyEnclave

/-- Whether a session is in an operation of the provider or of the token. -/
def SessionState.isOperation : SessionState → Bool
  | .digesting | .encrypting | .decrypting | .signing | .verifying => true
  | .idle | .searching => false

/-- Whether a session is in an operation with a key. -/
def SessionState.isKeyed : SessionState → Bool
  | .encrypting | .decrypting | .signing | .verifying => true
  | .idle | .digesting | .searching => false

/-- What is remembered of a session fits its state: it has a key exactly in an operation with one,
which is on the token only in an operation on signatures, and results exactly in a search, of which
it handed out no more than there are. -/
structure Session.IsSound (layout : ObjectLayout) (session : Session) : Prop where
  key_ne : session.key ≠ noKey ↔ session.state.isKeyed = true
  key_local : session.state ∉ [SessionState.signing, .verifying] →
    (layout.classify session.key).isExternal = false
  found_eq : session.state ≠ .searching → session.found = []
  cursor_le : session.cursor ≤ session.found.length

/-- What a request does to one session, or to a handle of no open session. -/
inductive SessionEffect (layout : ObjectLayout) : Option Session → Option Session → Prop
  | kept (record : Option Session) : SessionEffect layout record record
  | opened (slot : UInt32) (flags : Flags) (notify : Option Notify) (external : UInt32) :
      SessionEffect layout none (some { Session.fresh slot flags notify with external := external })
  | closed (record : Option Session) : SessionEffect layout record none
  | searched {record : Session} (hidle : record.state = .idle) (found : List ObjectHandle) :
      SessionEffect layout (some record)
        (some { record.reset with state := .searching, found := found })
  | paged {record : Session} (hstate : record.state = .searching) {count : Nat}
      (hcount : count ≤ record.pending.length) :
      SessionEffect layout (some record) (some { record with cursor := record.cursor + count })
  | begun {record : Session} (hidle : record.state = .idle) {state : SessionState}
      {key : ObjectHandle} (hkey : key ≠ noKey ↔ state.isKeyed = true)
      (hplace : state ∉ [SessionState.signing, .verifying] →
        (layout.classify key).isExternal = false) :
      SessionEffect layout (some record) (some { record with state := state, key := key })
  | ended (record : Session) : SessionEffect layout (some record) (some record.reset)

namespace SessionEffect

variable {layout : ObjectLayout} {before after : Option Session}

theorem isSound (hnull : layout.classify noKey = .unknown)
    (h : SessionEffect layout before after)
    (hbefore : ∀ record, before = some record → record.IsSound layout) {record : Session}
    (hafter : after = some record) : record.IsSound layout := by
  have hlocal : (layout.classify noKey).isExternal = false := by rw [hnull]; rfl
  cases h with
  | kept => exact hbefore record hafter
  | closed => cases hafter
  | opened | ended =>
    obtain rfl := Option.some.inj hafter
    exact ⟨by simp [Session.fresh, Session.reset, SessionState.isKeyed], fun _ => hlocal,
      fun _ => rfl, Nat.le_refl 0⟩
  | searched =>
    obtain rfl := Option.some.inj hafter
    exact ⟨by simp [Session.reset, SessionState.isKeyed], fun _ => hlocal, fun h => absurd rfl h,
      Nat.zero_le _⟩
  | @paged earlier hstate count hcount =>
    obtain rfl := Option.some.inj hafter
    have hsound := hbefore earlier rfl
    refine ⟨hsound.key_ne, hsound.key_local, hsound.found_eq, ?_⟩
    have hle := hsound.cursor_le
    rw [Session.pending, List.length_drop] at hcount
    show earlier.cursor + count ≤ earlier.found.length
    omega
  | @begun earlier hidle state key hkey hplace =>
    obtain rfl := Option.some.inj hafter
    have hsound := hbefore earlier rfl
    have hfound := hsound.found_eq (by rw [hidle]; decide)
    exact ⟨hkey, hplace, fun _ => hfound, hsound.cursor_le⟩

/-- A session that is neither idle before nor afterwards is in the same state. -/
theorem state_eq (h : SessionEffect layout before after) {record record' : Session}
    (hbefore : before = some record) (hafter : after = some record')
    (hactive : record.state ≠ .idle) (hactive' : record'.state ≠ .idle) :
    record'.state = record.state := by
  cases h with
  | kept =>
    obtain rfl := Option.some.inj (hbefore.symm.trans hafter)
    rfl
  | opened => cases hbefore
  | closed => cases hafter
  | searched hidle =>
    obtain rfl := Option.some.inj hbefore
    exact absurd hidle hactive
  | begun hidle =>
    obtain rfl := Option.some.inj hbefore
    exact absurd hidle hactive
  | paged =>
    obtain rfl := Option.some.inj hbefore
    obtain rfl := Option.some.inj hafter
    rfl
  | ended =>
    obtain rfl := Option.some.inj hafter
    exact absurd rfl hactive'

end SessionEffect

/-- What a request does to the sessions: nothing, or there are none before or afterwards, or one is
opened, or the one that the request names is changed or closed. -/
inductive TableEffect (layout : ObjectLayout) (table : SessionTable) :
    Request → SessionTable → Prop
  | kept {request : Request} {after : SessionTable} (hsame : after.sessions = table.sessions) :
      TableEffect layout table request after
  | cameUp {after : SessionTable} (hdown : table.isUp = false) (hempty : after.sessions = .empty) :
      TableEffect layout table .initialise after
  | wentDown : TableEffect layout table .finalise .down
  | opened {slot : UInt32} {flags : Flags} {notify : Option Notify} {address : Address}
      {session : SessionHandle} (external : UInt32)
      (hfree : table.sessions.firstFree? = some session) :
      TableEffect layout table (.openSession slot flags notify address)
        (table.put session { Session.fresh slot flags notify with external := external })
  | changed {request : Request} {session : SessionHandle} {record record' : Session}
      (hnamed : request.session? = some session)
      (hget : table.sessions.get? session = some record)
      (heffect : SessionEffect layout (some record) (some record')) :
      TableEffect layout table request (table.put session record')
  | closed {session : SessionHandle} :
      TableEffect layout table (.closeSession session) (table.drop session)

namespace TableEffect

variable {layout : ObjectLayout} {table after : SessionTable} {request : Request}

/-- Every session sees one of its effects. -/
theorem onSession (h : TableEffect layout table request after) (other : SessionHandle) :
    SessionEffect layout (table.sessions.get? other) (after.sessions.get? other) := by
  cases h with
  | kept hsame =>
    rw [hsame]
    exact .kept _
  | cameUp hdown hempty =>
    rw [hempty, PerSession.get?_empty]
    exact .closed _
  | wentDown => exact (PerSession.get?_empty (α := Session) other) ▸ .closed _
  | opened external hfree =>
    rw [SessionTable.get?_put_of_index (PerSession.index?_isSome_of_firstFree? hfree)]
    split
    · next heq =>
      rw [heq, PerSession.get?_firstFree? hfree]
      exact .opened _ _ _ _
    · exact .kept _
  | changed hnamed hget heffect =>
    rw [SessionTable.get?_put hget]
    split
    · next heq =>
      rw [heq, hget]
      exact heffect
    · exact .kept _
  | closed =>
    rw [SessionTable.get?_drop]
    split
    · exact .closed _
    · exact .kept _

end TableEffect

namespace Kms

variable {C T N : Type} {kms : Kms C T N} {request : Request}

/-- An object that can be seen is one of the enclave. -/
theorem isLocal_of_lookup {key : ObjectHandle} {object : ObjectView}
    (h : kms.lookup key = some object) : (kms.layout.classify key).isLocal = true := by
  have hget : kms.store.get? key = some object := by
    unfold lookup at h
    split at h
    · cases h
    · exact h
  exact ObjectStore.isLocal_of_get? hget

theorem ne_noKey (hnull : kms.layout.classify noKey = .unknown) {key : ObjectHandle}
    (h : (kms.layout.classify key).isLocal = true ∨ (kms.layout.classify key).isExternal = true) :
    key ≠ noKey := by
  rintro rfl
  rw [hnull] at h
  cases h with
  | inl h => cases h
  | inr h => cases h

theorem not_isExternal_of_lookup {key : ObjectHandle} {object : ObjectView}
    (h : kms.lookup key = some object) : (kms.layout.classify key).isExternal = false := by
  have hlocal := isLocal_of_lookup h
  revert hlocal
  cases kms.layout.classify key <;> decide

/-- An operation begins with a key of the enclave, or without one if it is a digest. -/
theorem Begins.fits {session : SessionHandle} {state : SessionState} {key : ObjectHandle}
    {op : ProviderOp} (hnull : kms.layout.classify noKey = .unknown)
    (h : kms.Begins request session state key op) :
    (key ≠ noKey ↔ state.isKeyed = true) ∧ (kms.layout.classify key).isExternal = false := by
  cases h with
  | digest => exact ⟨by decide, by rw [hnull]; rfl⟩
  | encryption hkey | decryption hkey | signature hkey | verification hkey =>
    exact ⟨⟨fun _ => rfl, fun _ => ne_noKey hnull (.inl (isLocal_of_lookup hkey))⟩,
      not_isExternal_of_lookup hkey⟩

/-- On the token, only operations on signatures begin. -/
theorem BeginsOnToken.fits {session : SessionHandle} {state : SessionState} {key : ObjectHandle}
    {op : TokenOp} (hnull : kms.layout.classify noKey = .unknown)
    (hexternal : (kms.layout.classify key).isExternal = true)
    (h : kms.BeginsOnToken request session state key op) :
    (key ≠ noKey ↔ state.isKeyed = true) ∧ state ∈ [SessionState.signing, .verifying] := by
  cases h with
  | signature | verification =>
    exact ⟨⟨fun _ => rfl, fun _ => ne_noKey hnull (.inr hexternal)⟩, by decide⟩

/-- A session is open and in no operation. -/
def IsIdle (kms : Kms C T N) (session : SessionHandle) : Prop :=
  (kms.requireSession session).map Session.state = .ok .idle

instance (session : SessionHandle) : Decidable (kms.IsIdle session) :=
  inferInstanceAs (Decidable (_ = _))

theorem isIdle_iff {session : SessionHandle} : kms.IsIdle session ↔
    ∃ record, kms.requireSession session = .ok record ∧ record.state = .idle := by
  unfold IsIdle
  cases kms.requireSession session with
  | error code => simp [Except.map]
  | ok record => simp [Except.map]

/-- The store of a service and each of its sessions are well-formed, and there are none while the
library is down. -/
structure IsSound (layout : ObjectLayout) (embedded : List Bytes) (kms : Kms C T N) : Prop where
  store : kms.store.IsSound layout embedded
  session : ∀ handle record, kms.sessions.sessions.get? handle = some record →
    record.IsSound layout
  closed : kms.sessions.isUp = false → ∀ handle, kms.sessions.sessions.get? handle = none

variable {layout : ObjectLayout} {embedded : List Bytes}

theorem IsSound.layout_eq (h : kms.IsSound layout embedded) : kms.layout = layout :=
  h.store.layout_eq

theorem IsSound.classify_noKey (hvalid : layout.validate = .ok ())
    (h : kms.IsSound layout embedded) : kms.layout.classify noKey = .unknown := by
  rw [h.layout_eq]
  exact ObjectLayout.classify_null hvalid

variable [CryptoProvider C] [ExternalToken T] [NvmStorage N] {after : Kms C T N}
  {events : List KmsEvent}

omit [ExternalToken T] [NvmStorage N] in
/-- The step of an operation may end it. -/
theorem onTable_concluded {layout : ObjectLayout} {session : SessionHandle} {record : Session}
    (hnamed : request.session? = some session)
    (hget : kms.sessions.sessions.get? session = some record) (isEnded : Bool) :
    TableEffect layout kms.sessions request (kms.concluded session isEnded).sessions := by
  cases isEnded with
  | false => exact .kept rfl
  | true =>
    show TableEffect layout _ _ (kms.sessions.reset session)
    rw [SessionTable.reset_eq_put hget]
    exact .changed hnamed hget (.ended record)

/-- Every effect is one of these for the sessions. -/
theorem Effect.onTable (hnull : kms.layout.classify noKey = .unknown)
    (h : kms.Effect request after events) :
    TableEffect kms.layout kms.sessions request after.sessions := by
  cases h with
  | nothing | asked | notBegun | stored | made | installed | latchedKeys | latchedServices =>
    exact .kept rfl
  | raised hup => exact .kept (SessionTable.sessions_bringUp hup)
  | cameUp hdown | stayedDown hdown => exact .cameUp hdown rfl
  | lowered hnesting => exact .kept (SessionTable.sessions_bringDown hnesting)
  | wentDown => exact .wentDown
  | opened hup hfree => exact .opened noExternalSession hfree
  | openedOnToken hup hfree => exact .opened _ hfree
  | closed hsession => exact .closed
  | searchBegun hsession hidle =>
    exact .changed rfl (requireSession_eq_ok.mp hsession).2 (.searched hidle _)
  | paged hsession hstate =>
    exact .changed rfl (requireSession_eq_ok.mp hsession).2
      (.paged hstate (List.length_take_le' _ _))
  | searchEnded hsession =>
    exact onTable_concluded rfl (requireSession_eq_ok.mp hsession).2 true
  | began hbegins hsession hidle =>
    obtain ⟨hkey, hlocal⟩ := hbegins.fits hnull
    refine .changed ?_ (requireSession_eq_ok.mp hsession).2 (.begun hidle hkey fun _ => hlocal)
    cases hbegins <;> rfl
  | beganOnToken hbegins hsession hidle hlatch hexternal =>
    obtain ⟨hkey, hstate⟩ := hbegins.fits hnull hexternal
    refine .changed ?_ (requireSession_eq_ok.mp hsession).2
      (.begun hidle hkey fun h => absurd hstate h)
    cases hbegins <;> rfl
  | stepLatched hstep hnamed hstate =>
    exact onTable_concluded hnamed
      (requireSession_eq_ok.mp (requireState_eq_ok.mp hstate).1).2 true
  | @stepped _ session state op record hstep hnamed hstate =>
    have hget : (kms.afterProvider op).sessions.sessions.get? session = some record :=
      (requireSession_eq_ok.mp (requireState_eq_ok.mp hstate).1).2
    exact onTable_concluded hnamed hget _
  | @steppedOnToken _ session state op tokenOp record hstep hnamed hop hstate _ _ isTold isEnded =>
    have hget := (requireSession_eq_ok.mp (requireState_eq_ok.mp hstate).1).2
    rw [← told_sessions kms isTold tokenOp] at hget ⊢
    exact onTable_concluded hnamed hget isEnded

/-- Every effect is one of these for every session. -/
theorem Effect.onSession (hnull : kms.layout.classify noKey = .unknown)
    (h : kms.Effect request after events) (other : SessionHandle) :
    SessionEffect kms.layout (kms.sessions.sessions.get? other)
      (after.sessions.sessions.get? other) :=
  (h.onTable hnull).onSession other

/-- What a request does that leaves the library down: nothing to the sessions, the store and the
provider, or it loaded in vain, or it took everything down. -/
theorem Effect.cases_of_down (h : kms.Effect request after events)
    (hdown : after.sessions.isUp = false) :
    (kms.sessions.isUp = false ∧ after.sessions.sessions = kms.sessions.sessions ∧
      after.store = kms.store ∧ after.crypto = kms.crypto) ∨
    (kms.sessions.isUp = false ∧ after.sessions.sessions = .empty ∧ request = .initialise ∧
      (∃ error, (ObjectStore.load.run kms.store).answer = .error error) ∧
      after.store = (ObjectStore.load.run kms.store).state ∧ after.crypto = kms.crypto) ∨
    (after.sessions.sessions = .empty ∧ after.store = kms.store.release ∧
      after.crypto = releasedContexts SessionHandle.all kms.crypto) := by
  have hup {session : SessionHandle} {record : Session}
      (hsession : kms.requireSession session = .ok record)
      (hsame : after.sessions.isUp = kms.sessions.isUp) : False := by
    rw [hdown, (requireSession_eq_ok.mp hsession).1] at hsame
    cases hsame
  cases h with
  | nothing | asked => exact .inl ⟨hdown, rfl, rfl, rfl⟩
  | raised hisUp =>
    have hstays := SessionTable.isUp_bringUp hisUp
    rw [hdown] at hstays
    cases hstays
  | cameUp => cases hdown
  | stayedDown hisDown isTold error hload =>
    exact .inr (.inl ⟨hisDown, rfl, rfl, ⟨error, hload⟩, rfl, told_crypto _ _ _⟩)
  | lowered hnesting isTold =>
    rw [SessionTable.isUp_bringDown hnesting] at hdown
    exact .inl ⟨hdown, SessionTable.sessions_bringDown hnesting, told_store _ _ _,
      told_crypto _ _ _⟩
  | wentDown => exact .inr (.inr ⟨rfl, rfl, rfl⟩)
  | opened hisUp | openedOnToken hisUp =>
    rw [SessionTable.isUp_put, hisUp] at hdown
    cases hdown
  | closed hsession => exact (hup hsession SessionTable.isUp_drop).elim
  | notBegun _ hsession => exact (hup hsession rfl).elim
  | searchBegun hsession | paged hsession | began _ hsession | beganOnToken _ hsession =>
    exact (hup hsession SessionTable.isUp_put).elim
  | searchEnded hsession => exact (hup hsession SessionTable.isUp_reset).elim
  | stepLatched _ _ hstate =>
    exact (hup (requireState_eq_ok.mp hstate).1 (isUp_concluded kms _ true)).elim
  | stepped op _ _ hstate =>
    exact (hup (requireState_eq_ok.mp hstate).1 (isUp_concluded (kms.afterProvider op) _ _)).elim
  | @steppedOnToken _ session _ _ tokenOp _ _ _ _ hstate _ _ isTold isEnded =>
    refine (hup (requireState_eq_ok.mp hstate).1 ?_).elim
    rw [isUp_concluded, told_sessions]
  | stored _ hisUp | made _ hisUp | installed _ hisUp | latchedKeys hisUp
  | latchedServices hisUp =>
    have hsame : kms.sessions.isUp = false := hdown
    rw [hisUp] at hsame
    cases hsame

/-- A request leaves no session open while the library is down. -/
theorem Effect.closed_of_down (h : kms.Effect request after events)
    (hclosed : kms.sessions.isUp = false → ∀ handle, kms.sessions.sessions.get? handle = none)
    (hdown : after.sessions.isUp = false) (handle : SessionHandle) :
    after.sessions.sessions.get? handle = none := by
  rcases h.cases_of_down hdown with ⟨hwasDown, hsame, -⟩ | ⟨-, hempty, -⟩ | ⟨hempty, -⟩
  · rw [hsame]
    exact hclosed hwasDown handle
  all_goals
    rw [hempty]
    exact PerSession.get?_empty handle

theorem Effect.isSound (hvalid : layout.validate = .ok ()) (heffect : kms.Effect request after events)
    (h : kms.IsSound layout embedded) : after.IsSound layout embedded where
  store := heffect.onStore.isSound hvalid h.store
  session handle _ hget := by
    have hnull := h.classify_noKey hvalid
    have hsession := heffect.onSession hnull handle
    rw [h.layout_eq] at hnull hsession
    exact hsession.isSound hnull (h.session handle) hget
  closed := heffect.closed_of_down h.closed

/-- A service is well-formed after every run. -/
theorem isSound_after {config : KmsConfig} {crypto : C} {token : T} {nvm : N} {start : Kms C T N}
    (hnew : Kms.new config crypto token nvm = .ok start) (calls : List Call) :
    (start.after calls).IsSound config.layout config.embedded := by
  obtain ⟨hvalid, rfl⟩ := new_eq_ok hnew
  have hclosed (handle : SessionHandle) : SessionTable.down.sessions.get? handle = none :=
    PerSession.get?_empty handle
  refine after_of_effect (fun _ _ _ _ heffect => heffect.isSound hvalid) ⟨?_, ?_, ?_⟩ calls
  · exact ObjectStore.isSound_new _ _ _
  · intro handle record hget
    rw [hclosed handle] at hget
    cases hget
  · exact fun _ => hclosed

/-- No session goes from one operation to another in one call. -/
theorem state_of_next {layout : ObjectLayout} {embedded : List Bytes}
    (hvalid : layout.validate = .ok ()) (h : kms.IsSound layout embedded) (call : Call)
    {handle : SessionHandle} {before after : Session}
    (hbefore : kms.sessions.sessions.get? handle = some before)
    (hafter : (kms.next call).sessions.sessions.get? handle = some after)
    (hactive : before.state ≠ .idle) (hactive' : after.state ≠ .idle) :
    after.state = before.state :=
  ((next_effect kms call).onSession (h.classify_noKey hvalid) handle).state_eq hbefore hafter
    hactive hactive'

end Kms

end KeyEnclave
