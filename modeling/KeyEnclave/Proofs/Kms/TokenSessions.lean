import KeyEnclave.Proofs.Kms.Sessions
import KeyEnclave.Simulation.Token
import Mathlib.Data.List.Induction

/-!
# The sessions of the token

A token that opens a session with every session of the enclave is asked about just these: what a
session asks of the token goes to the token's session that was opened with it, closing goes there
once, and events the token reports come back to the same session.

## Main definitions

* `TokenOp.session?` — the session of the token that an operation is about.
* `Kms.Tells` — how the token comes to serve an operation.
* `Kms.OpenedSince` — a session is open since a call that opened one of the token with it.
* `Kms.OpensOnToken` — in a run, the token opens sessions with handles that are not in use.
* `Kms.RoutesToToken`, `Kms.RoutesFromToken` — nothing goes to or comes from a wrong session.

## Main results

* `Kms.tracked` — every open session has the token's session that was opened with it.
* `Kms.token_sessions_are_routed` — so nothing is mixed up.
-/

namespace KeyEnclave

/-- The session of the token that an operation is about. -/
def TokenOp.session? : TokenOp → Option UInt32
  | closeSession session | createObject session _ | destroyObject session _
  | getAttributeValue session _ _ | setAttributeValue session _ _ | findObjectsInit session _
  | findObjects session _ | findObjectsFinal session | signInit session _ _ | sign session _ _
  | verifyInit session _ _ | verify session _ _ | deriveKey session _ _ _
  | generateKeyPair session _ _ _ | generateRandom session _ => some session
  | initialise | finalise | getMechanismInfo .. | openSession .. => none

/-- The session of the token that an exchange opened. -/
def KmsEvent.opened? : KmsEvent → Option UInt32
  | .token ⟨.openSession .., .ok external⟩ => some external
  | _ => none

theorem Request.session?_of_tokenOp? {external : SessionHandle → UInt32} {request : Request}
    {op : TokenOp} {found : UInt32} (hop : request.tokenOp? external = some op)
    (hfound : op.session? = some found) :
    ∃ session, request.session? = some session ∧ external session = found := by
  unfold tokenOp? at hop
  split at hop
  all_goals cases hop
  all_goals first
    | cases hfound; done
    | exact ⟨_, rfl, Option.some.inj hfound⟩

theorem Request.openSession_of_tokenOp? {external : SessionHandle → UInt32} {request : Request}
    {slot : UInt32} {flags : Flags} {isTold : Bool}
    (hop : request.tokenOp? external = some (.openSession slot flags isTold)) :
    ∃ notify address, request = .openSession slot flags notify address ∧
      isTold = notify.isSome := by
  unfold tokenOp? at hop
  split at hop
  all_goals cases hop
  exact ⟨_, _, rfl, rfl⟩

/-- What a request does to an open session leaves it with its client and its session of the token. -/
theorem SessionEffect.client_eq {layout : ObjectLayout} {record record' : Session}
    (h : SessionEffect layout (some record) (some record')) :
    record'.external = record.external ∧ record'.notify = record.notify := by
  cases h <;> exact ⟨rfl, rfl⟩

/-- A session comes into being when one is opened. -/
theorem TableEffect.openSession_of_new {layout : ObjectLayout} {table after : SessionTable}
    {request : Request} (h : TableEffect layout table request after) {session : SessionHandle}
    {record : Session} (hbefore : table.sessions.get? session = none)
    (hafter : after.sessions.get? session = some record) :
    ∃ slot flags notify address, request = .openSession slot flags notify address := by
  cases h with
  | opened => exact ⟨_, _, _, _, rfl⟩
  | kept hsame =>
    rw [hsame, hbefore] at hafter
    cases hafter
  | cameUp hdown hempty =>
    rw [hempty, PerSession.get?_empty] at hafter
    cases hafter
  | wentDown =>
    have hnone : SessionTable.down.sessions.get? session = none := PerSession.get?_empty session
    rw [hnone] at hafter
    cases hafter
  | changed hnamed hget =>
    rw [SessionTable.get?_put hget] at hafter
    split at hafter
    · next heq =>
      rw [heq, hget] at hbefore
      cases hbefore
    · rw [hbefore] at hafter
      cases hafter
  | closed =>
    rw [SessionTable.get?_drop, hbefore, ite_self] at hafter
    cases hafter

namespace Kms

variable {C T N : Type}

/-- How the token comes to serve an operation: the library comes up or goes down, a request is
served by it, or the session that belongs to one of its own is closed. -/
inductive Tells (kms : Kms C T N) : Request → TokenOp → Prop
  | initialising : Tells kms .initialise .initialise
  | finalising : Tells kms .finalise .finalise
  | serving {request : Request} {op : TokenOp}
      (hop : request.tokenOp? kms.sessions.external = some op)
      (hsession : ∀ session, request.session? = some session →
        ∃ record, kms.requireSession session = .ok record) : Tells kms request op
  | closing {session : SessionHandle} {record : Session}
      (hsession : kms.requireSession session = .ok record) :
      Tells kms (.closeSession session) (.closeSession record.external)

theorem external_of_requireSession {kms : Kms C T N} {session : SessionHandle} {record : Session}
    (h : kms.requireSession session = .ok record) :
    kms.sessions.sessions.get? session = some record ∧
      kms.sessions.external session = record.external := by
  have hget := (requireSession_eq_ok.mp h).2
  exact ⟨hget, by rw [SessionTable.external, hget]⟩

/-- An operation on a session of the token serves a request on the session this one belongs to. -/
theorem Tells.session {kms : Kms C T N} {request : Request} {op : TokenOp}
    (h : kms.Tells request op) {external : UInt32} (hexternal : op.session? = some external) :
    ∃ session record, request.session? = some session ∧
      kms.sessions.sessions.get? session = some record ∧ record.external = external := by
  cases h with
  | initialising | finalising => cases hexternal
  | serving hop hsession =>
    obtain ⟨session, hnamed, hfound⟩ := Request.session?_of_tokenOp? hop hexternal
    obtain ⟨record, hrecord⟩ := hsession session hnamed
    obtain ⟨hget, heq⟩ := external_of_requireSession hrecord
    exact ⟨session, record, hnamed, hget, heq.symm.trans hfound⟩
  | @closing session record hrecord =>
    exact ⟨session, record, rfl, (external_of_requireSession hrecord).1, Option.some.inj hexternal⟩

theorem Tells.openSession {kms : Kms C T N} {request : Request} {slot : UInt32} {flags : Flags}
    {isTold : Bool} (h : kms.Tells request (.openSession slot flags isTold)) :
    ∃ notify address, request = .openSession slot flags notify address ∧
      isTold = notify.isSome := by
  cases h with
  | serving hop => exact Request.openSession_of_tokenOp? hop

theorem Tells.closeSession {kms : Kms C T N} {request : Request} {external : UInt32}
    (h : kms.Tells request (.closeSession external)) :
    ∃ session, request = .closeSession session := by
  cases h with
  | serving hop =>
    unfold Request.tokenOp? at hop
    split at hop
    all_goals cases hop
  | closing => exact ⟨_, rfl⟩

/-- The token is asked to serve an operation only where it comes to serve it. -/
def IsTold (kms : Kms C T N) (request : Request) (event : KmsEvent) : Prop :=
  ∀ exchange, event = .token exchange → kms.Tells request exchange.1

section IsTold

variable (kms : Kms C T N) (request : Request)

theorem isTold_nvm (journal : List NvmExchange) :
    ∀ event ∈ journal.map KmsEvent.nvm, kms.IsTold request event :=
  List.forall_mem_map.mpr fun _ _ _ h => by cases h

theorem isTold_conclusion (session : SessionHandle) (isEnded : Bool) :
    ∀ event ∈ conclusion session isEnded, kms.IsTold request event := by
  cases isEnded with
  | true => exact List.forall_mem_singleton.mpr fun _ h => by cases h
  | false => exact fun _ hmem => by cases hmem

variable {kms request} [ExternalToken T] {op : TokenOp}

theorem isTold_tokenEvent (h : kms.Tells request op) : kms.IsTold request (kms.tokenEvent op) := by
  rintro exchange heq
  cases heq
  exact h

theorem isTold_toldEvents (h : kms.Tells request op) (isTold : Bool) :
    ∀ event ∈ kms.toldEvents isTold op, kms.IsTold request event := by
  cases isTold with
  | true => exact List.forall_mem_singleton.mpr (isTold_tokenEvent h)
  | false => exact fun _ hmem => by cases hmem

end IsTold

variable [CryptoProvider C] [ExternalToken T] [NvmStorage N] {kms after : Kms C T N}
  {request : Request} {events : List KmsEvent}

/-- Whatever a request does, the token is asked only what serves the request, in the sessions that
belong to the one it is about. -/
theorem Effect.tells (h : kms.Effect request after events) {exchange : TokenExchange}
    (hmem : .token exchange ∈ events) : kms.Tells request exchange.1 := by
  suffices hall : ∀ event ∈ events, kms.IsTold request event from hall _ hmem _ rfl
  clear hmem
  cases h with
  | nothing | opened | searchBegun | paged | searchEnded | latchedKeys | latchedServices =>
    exact fun _ hmem => by cases hmem
  | asked op hop hstep hsession =>
    exact List.forall_mem_singleton.mpr (isTold_tokenEvent (.serving hop hsession))
  | openedOnToken =>
    exact List.forall_mem_singleton.mpr
      (isTold_tokenEvent (.serving rfl fun _ h => by cases h))
  | @beganOnToken _ session _ _ _ record hbegins hsession =>
    refine List.forall_mem_singleton.mpr (isTold_tokenEvent ?_)
    cases hbegins with
    | signature | verification =>
      refine .serving rfl fun named hnamed => ?_
      cases hnamed
      exact ⟨record, hsession⟩
  | raised hup isTold => exact isTold_toldEvents .initialising isTold
  | lowered hnesting isTold => exact isTold_toldEvents .finalising isTold
  | cameUp hdown isTold | stayedDown hdown isTold =>
    exact List.forall_mem_append.mpr
      ⟨isTold_toldEvents .initialising isTold, isTold_nvm kms _ _⟩
  | wentDown hnesting isTold =>
    refine List.forall_mem_append.mpr ⟨isTold_toldEvents .finalising isTold, ?_⟩
    exact List.forall_mem_map.mpr fun _ _ _ h => by cases h
  | @closed session record hsession isTold =>
    exact List.forall_mem_append.mpr ⟨isTold_toldEvents (.closing hsession) isTold,
      isTold_conclusion kms _ session true⟩
  | began | notBegun => exact List.forall_mem_singleton.mpr fun _ h => by cases h
  | @stepLatched _ session => exact isTold_conclusion kms _ session true
  | stepped =>
    exact List.forall_mem_cons.mpr ⟨fun _ h => (by cases h), isTold_conclusion kms _ _ _⟩
  | @steppedOnToken _ session state op tokenOp record hstep hnamed hop hstate _ _ isTold =>
    refine List.forall_mem_append.mpr ⟨isTold_toldEvents (.serving hop fun named h => ?_) isTold,
      isTold_conclusion kms _ _ _⟩
    obtain rfl := Option.some.inj (hnamed.symm.trans h)
    exact ⟨record, (requireState_eq_ok.mp hstate).1⟩
  | stored | installed => exact isTold_nvm kms _ _
  | made => exact List.forall_mem_cons.mpr ⟨fun _ h => (by cases h), isTold_nvm kms _ _⟩

/-- Closing a session passes on its session of the token once, and leaves it closed. -/
theorem Effect.closes {session : SessionHandle} (h : kms.Effect (.closeSession session) after events)
    {exchange : TokenExchange} (hmem : .token exchange ∈ events) :
    events = [.token exchange, releaseEvent session] ∧
      after.sessions.sessions.get? session = none := by
  cases h with
  | nothing => cases hmem
  | asked op hop => cases hop
  | @closed _ record hsession isTold =>
    refine ⟨?_, ?_⟩
    · cases isTold with
      | false => cases List.mem_singleton.mp hmem
      | true =>
        rcases List.mem_cons.mp hmem with h | h
        · rw [h]
          rfl
        · cases List.mem_singleton.mp h
    · show (kms.sessions.drop session).sessions.get? session = none
      rw [SessionTable.get?_drop, if_pos rfl]
  | began hbegins => cases hbegins
  | notBegun hbegins => cases hbegins
  | beganOnToken hbegins => cases hbegins
  | stepLatched hstep => cases hstep
  | stepped op hstep => cases hstep
  | steppedOnToken hstep => cases hstep
  | stored hrequest => cases hrequest
  | made hmakes => cases hmakes

section Opens

variable {slot : UInt32} {flags : Flags} {notify : Option Notify} {answer : Answer}
  {session : SessionHandle} {code : ReturnCode} {external : UInt32}

omit [CryptoProvider C] [NvmStorage N] in
/-- The token's session is that of the session it was opened for. -/
theorem Opens.on_token (h : kms.Opens slot flags notify answer after events)
    (hmem : .token ⟨.openSession slot flags notify.isSome, .ok external⟩ ∈ events)
    (hanswer : answer = ⟨.ok, .session (some session)⟩) :
    kms.sessions.sessions.firstFree? = some session ∧ after.sessions = kms.sessions.put session
      { Session.fresh slot flags notify with external := external } := by
  cases h with
  | refused | withoutToken => cases hmem
  | refusedByToken => cases hanswer
  | withToken hup hfree hreply =>
    cases hanswer
    have hevent := List.mem_singleton.mp hmem
    simp only [tokenEvent, hreply, KmsEvent.token.injEq, Sigma.mk.injEq, heq_eq_eq, true_and,
      Except.ok.injEq] at hevent
    exact ⟨hfree, by rw [hevent]⟩

omit [CryptoProvider C] [NvmStorage N] in
/-- A session that the token implements opening for and that comes into being is opened on it. -/
theorem Opens.of_new (h : kms.Opens slot flags notify answer after events)
    (himplements : kms.tokenImplements .openSession = true) {record : Session}
    (hbefore : kms.sessions.sessions.get? session = none)
    (hafter : after.sessions.sessions.get? session = some record) :
    kms.sessions.sessions.firstFree? = some session ∧
      answer = ⟨.ok, .session (some session)⟩ ∧
      .token ⟨.openSession slot flags notify.isSome, .ok record.external⟩ ∈ events ∧
      record.notify = notify := by
  cases h with
  | refused | refusedByToken =>
    have hsame : kms.sessions.sessions.get? session = some record := hafter
    rw [hbefore] at hsame
    cases hsame
  | withoutToken hless =>
    rw [himplements] at hless
    cases hless
  | @withToken opened found hup hfree hreply =>
    rw [SessionTable.get?_put_of_index (PerSession.index?_isSome_of_firstFree? hfree), hbefore]
      at hafter
    split at hafter
    · next heq =>
      obtain rfl := Option.some.inj hafter
      refine ⟨by rw [hfree, heq], by rw [heq], List.mem_singleton.mpr ?_, rfl⟩
      rw [tokenEvent, hreply]
    · cases hafter

omit [CryptoProvider C] [NvmStorage N] in
/-- A session that is opened without a word to the token is none of the token's. -/
theorem Opens.locally (h : kms.Opens slot flags notify ⟨.ok, .session (some session)⟩ after []) :
    after =
      { kms with sessions := kms.sessions.put session (Session.fresh slot flags notify) } := by
  cases h
  rfl

omit [CryptoProvider C] [NvmStorage N] in
/-- A session that the token refuses to open is not opened. -/
theorem Opens.refused_by_token (h : kms.Opens slot flags notify answer after events)
    (hmem : .token ⟨.openSession slot flags notify.isSome, .error code⟩ ∈ events) :
    answer = ⟨code, .session none⟩ ∧ after.sessions = kms.sessions := by
  cases h with
  | refused | withoutToken => cases hmem
  | withToken hup hfree hreply =>
    have hevent := List.mem_singleton.mp hmem
    simp only [tokenEvent, hreply, KmsEvent.token.injEq, Sigma.mk.injEq, heq_eq_eq, true_and,
      reduceCtorEq] at hevent
  | refusedByToken hreply =>
    have hevent := List.mem_singleton.mp hmem
    simp only [tokenEvent, hreply, KmsEvent.token.injEq, Sigma.mk.injEq, heq_eq_eq, true_and,
      Except.error.injEq] at hevent
    exact ⟨by rw [hevent], rfl⟩

theorem next_openSession (kms : Kms C T N) {call : Call} {address : Address}
    (hrequest : call.request = .openSession slot flags notify address) :
    kms.Opens slot flags notify (kms.answerTo call) (kms.next call) (kms.eventsOf call) := by
  rw [answerTo, next, eventsOf, hrequest]
  exact dispatch_openSession kms call.word slot flags notify address

/-- What a session leaves behind that is opened without a word to the token. -/
theorem next_of_openSession {call : Call} {address : Address}
    (hrequest : call.request = .openSession slot flags notify address)
    (hanswer : kms.answerTo call = ⟨.ok, .session (some session)⟩)
    (hsilent : kms.eventsOf call = []) :
    kms.next call =
      { kms with sessions := kms.sessions.put session (Session.fresh slot flags notify) } := by
  have hopens := next_openSession kms hrequest
  rw [hanswer, hsilent] at hopens
  exact hopens.locally

end Opens

-- ═══════════════════════════════════════════════════════════════════════════
-- Runs
-- ═══════════════════════════════════════════════════════════════════════════

/-- After the calls `before`, the call `opening` opened `session` with the callback `notify`, and
`external` on the token with it, and the session stayed open throughout the calls `between`. -/
structure IsOpening (start : Kms C T N) (before : List Call) (opening : Call) (between : List Call)
    (session : SessionHandle) (external : UInt32) (notify : Option Notify) : Prop where
  asked : ∃ slot flags address, opening.request = .openSession slot flags notify address ∧
    .token ⟨.openSession slot flags notify.isSome, .ok external⟩ ∈
      (start.after before).eventsOf opening
  answered : (start.after before).answerTo opening = ⟨.ok, .session (some session)⟩
  stayed : ∀ front, front <+: between →
    ∃ record, (start.after (before ++ opening :: front)).sessions.sessions.get? session = some record

/-- A session is open since one of the calls, which opened one of the token with it. -/
def OpenedSince (start : Kms C T N) (calls : List Call) (session : SessionHandle)
    (external : UInt32) (notify : Option Notify) : Prop :=
  ∃ before opening between, calls = before ++ opening :: between ∧
    start.IsOpening before opening between session external notify

/-- Throughout a run the token opens sessions, each with a handle that is not the one for none and
not that of an open session. -/
structure OpensOnToken (start : Kms C T N) (calls : List Call) : Prop where
  implements : ∀ front, front <+: calls → (start.after front).tokenImplements .openSession = true
  fresh : ∀ front call, front ++ [call] <+: calls →
    ∀ external ∈ ((start.after front).eventsOf call).filterMap KmsEvent.opened?,
      external ≠ noExternalSession ∧ ∀ session record,
        (start.after front).sessions.sessions.get? session = some record →
          record.external ≠ external

theorem OpensOnToken.mono {start : Kms C T N} {front calls : List Call}
    (h : start.OpensOnToken calls) (hfront : front <+: calls) : start.OpensOnToken front :=
  ⟨fun earlier hearlier => h.implements earlier (hearlier.trans hfront),
    fun earlier call hearlier => h.fresh earlier call (hearlier.trans hfront)⟩

/-- Every open session has the token's session that was opened with it, and no other session has. -/
structure Tracked (start : Kms C T N) (calls : List Call) : Prop where
  opened : ∀ session record, (start.after calls).sessions.sessions.get? session = some record →
    start.OpenedSince calls session record.external record.notify ∧
      record.external ≠ noExternalSession
  distinct : ∀ session other record record',
    (start.after calls).sessions.sessions.get? session = some record →
    (start.after calls).sessions.sessions.get? other = some record' →
    record.external = record'.external → session = other

section Runs

variable {config : KmsConfig} {crypto : C} {token : T} {nvm : N} {start : Kms C T N}
  {calls : List Call} {call : Call} {session : SessionHandle}

/-- What one call of a run does to the sessions. -/
theorem onTable_next (hnew : Kms.new config crypto token nvm = .ok start) (calls : List Call)
    (call : Call) : TableEffect (start.after calls).layout (start.after calls).sessions call.request
      (start.after (calls ++ [call])).sessions := by
  rw [after_concat]
  exact (next_effect _ call).onTable
    ((isSound_after hnew calls).classify_noKey (new_eq_ok hnew).1)

/-- A session that is open before and after a call has the client and the session of the token that
it had. -/
theorem client_of_next (hnew : Kms.new config crypto token nvm = .ok start) {record record' : Session}
    (hbefore : (start.after calls).sessions.sessions.get? session = some record)
    (hafter : (start.after (calls ++ [call])).sessions.sessions.get? session = some record') :
    record'.external = record.external ∧ record'.notify = record.notify := by
  have heffect := (onTable_next hnew calls call).onSession session
  rw [hbefore, hafter] at heffect
  exact heffect.client_eq

theorem IsOpening.of_prefix {before between front : List Call} {opening : Call} {external : UInt32}
    {notify : Option Notify}
    (h : start.IsOpening before opening between session external notify) (hfront : front <+: between) :
    start.IsOpening before opening front session external notify :=
  ⟨h.asked, h.answered, fun earlier hearlier => h.stayed earlier (hearlier.trans hfront)⟩

/-- A session keeps what it was opened with. -/
theorem IsOpening.record_eq (hnew : Kms.new config crypto token nvm = .ok start)
    {before between : List Call} {opening : Call} {external : UInt32} {notify : Option Notify}
    (h : start.IsOpening before opening between session external notify) :
    ∃ record, (start.after (before ++ opening :: between)).sessions.sessions.get? session =
      some record ∧ record.external = external ∧ record.notify = notify := by
  induction between using List.reverseRecOn with
  | nil =>
    obtain ⟨slot, flags, address, hrequest, hmem⟩ := h.asked
    obtain ⟨hfree, hsessions⟩ := (next_openSession _ hrequest).on_token hmem h.answered
    refine ⟨{ Session.fresh slot flags notify with external := external }, ?_, rfl, rfl⟩
    rw [after_concat, hsessions,
      SessionTable.get?_put_of_index (PerSession.index?_isSome_of_firstFree? hfree), if_pos rfl]
  | append_singleton between call ih =>
    obtain ⟨record, hget, rfl, rfl⟩ := ih (h.of_prefix (List.prefix_append between [call]))
    obtain ⟨record', hget'⟩ := h.stayed (between ++ [call]) List.prefix_rfl
    have hlater := hget'
    rw [← List.cons_append, ← List.append_assoc] at hlater
    exact ⟨record', hget', client_of_next hnew hget hlater⟩

/-- A session that stays open is open since the call that it was open since. -/
theorem OpenedSince.concat {record : Session} {external : UInt32} {notify : Option Notify}
    (h : start.OpenedSince calls session external notify)
    (hafter : (start.after (calls ++ [call])).sessions.sessions.get? session = some record) :
    start.OpenedSince (calls ++ [call]) session external notify := by
  obtain ⟨before, opening, between, rfl, hopening⟩ := h
  refine ⟨before, opening, between ++ [call], by simp, hopening.asked, hopening.answered,
    fun front hfront => ?_⟩
  rcases List.prefix_concat_iff.mp hfront with rfl | hearlier
  · exact ⟨record, by simpa using hafter⟩
  · exact hopening.stayed front hearlier

/-- A session that is open after a call was open before with the same session of the token, or it
is the free one that the call opened with one that is not in use. -/
theorem open_after_next (hnew : Kms.new config crypto token nvm = .ok start)
    (hrun : start.OpensOnToken (calls ++ [call])) {record : Session}
    (hafter : (start.after (calls ++ [call])).sessions.sessions.get? session = some record) :
    (∃ earlier, (start.after calls).sessions.sessions.get? session = some earlier ∧
        record.external = earlier.external ∧ record.notify = earlier.notify) ∨
      (start.OpenedSince (calls ++ [call]) session record.external record.notify ∧
        (start.after calls).sessions.sessions.firstFree? = some session ∧
        record.external ≠ noExternalSession ∧
        ∀ other earlier, (start.after calls).sessions.sessions.get? other = some earlier →
          earlier.external ≠ record.external) := by
  cases hbefore : (start.after calls).sessions.sessions.get? session with
  | some earlier => exact .inl ⟨earlier, rfl, client_of_next hnew hbefore hafter⟩
  | none =>
    obtain ⟨slot, flags, notify, address, hrequest⟩ :=
      (onTable_next hnew calls call).openSession_of_new hbefore hafter
    have hopened := hafter
    rw [after_concat] at hopened
    obtain ⟨hfree, hanswer, hmem, rfl⟩ := (next_openSession _ hrequest).of_new
      (hrun.implements calls (List.prefix_append calls [call])) hbefore hopened
    refine .inr ⟨⟨calls, call, [], rfl, ⟨slot, flags, address, hrequest, hmem⟩, hanswer,
      fun front hfront => ?_⟩, hfree,
      hrun.fresh calls call List.prefix_rfl _ (List.mem_filterMap.mpr ⟨_, hmem, rfl⟩)⟩
    rw [List.prefix_nil.mp hfront]
    exact ⟨record, hafter⟩

/-- Every open session has the token's session that was opened with it. -/
theorem tracked (hnew : Kms.new config crypto token nvm = .ok start)
    (hrun : start.OpensOnToken calls) : start.Tracked calls := by
  induction calls using List.reverseRecOn with
  | nil =>
    have hnone (session : SessionHandle) (record : Session) :
        (start.after []).sessions.sessions.get? session ≠ some record := by
      rw [(new_eq_ok hnew).2]
      exact fun h => by cases (PerSession.get?_empty session).symm.trans h
    exact ⟨fun session record hget => absurd hget (hnone session record),
      fun session _ record _ hget => absurd hget (hnone session record)⟩
  | append_singleton calls call ih =>
    have hbefore := ih (hrun.mono (List.prefix_append calls [call]))
    refine ⟨fun session record hget => ?_, fun session other record record' hget hget' heq => ?_⟩
    · rcases open_after_next hnew hrun hget with
        ⟨earlier, hearlier, hexternal, hnotify⟩ | ⟨hopened, -, hne, -⟩
      · obtain ⟨hopened, hne⟩ := hbefore.opened session earlier hearlier
        rw [hexternal, hnotify]
        exact ⟨hopened.concat hget, hne⟩
      · exact ⟨hopened, hne⟩
    · rcases open_after_next hnew hrun hget with
        ⟨earlier, hearlier, hexternal, -⟩ | ⟨-, hfree, -, hfresh⟩
      · rcases open_after_next hnew hrun hget' with
          ⟨earlier', hearlier', hexternal', -⟩ | ⟨-, -, -, hfresh'⟩
        · exact hbefore.distinct session other earlier earlier' hearlier hearlier'
            (hexternal.symm.trans (heq.trans hexternal'))
        · exact absurd (hexternal.symm.trans heq) (hfresh' session earlier hearlier)
      · rcases open_after_next hnew hrun hget' with
          ⟨earlier', hearlier', hexternal', -⟩ | ⟨-, hfree', -, -⟩
        · exact absurd (hexternal'.symm.trans heq.symm) (hfresh other earlier' hearlier')
        · exact Option.some.inj (hfree.symm.trans hfree')

/-- A session that is open since a call has the token's session and the callback of that call. -/
theorem OpenedSince.record_eq (hnew : Kms.new config crypto token nvm = .ok start)
    {external : UInt32} {notify : Option Notify}
    (h : start.OpenedSince calls session external notify) :
    ∃ record, (start.after calls).sessions.sessions.get? session = some record ∧
      record.external = external ∧ record.notify = notify := by
  obtain ⟨before, opening, between, rfl, hopening⟩ := h
  exact hopening.record_eq hnew

/-- What the token is asked while a call is served goes to the right session. -/
structure RoutesToToken (start : Kms C T N) (calls : List Call) (call : Call) : Prop where
  /-- Every operation on a session of the token serves a request on the session it was opened with. -/
  handed : ∀ exchange external, .token exchange ∈ (start.after calls).eventsOf call →
    exchange.1.session? = some external → ∃ session notify,
      call.request.session? = some session ∧ start.OpenedSince calls session external notify
  /-- Closing passes on the session of the token once, and leaves the session closed. -/
  closed : ∀ external reply,
    .token ⟨.closeSession external, reply⟩ ∈ (start.after calls).eventsOf call → ∃ session,
      call.request = .closeSession session ∧
      (start.after calls).eventsOf call =
        [.token ⟨.closeSession external, reply⟩, releaseEvent session] ∧
      ((start.after calls).next call).sessions.sessions.get? session = none
  /-- Opening what the token refuses to open changes no session and writes no handle. -/
  refused : ∀ slot flags isTold code,
    .token ⟨.openSession slot flags isTold, .error code⟩ ∈ (start.after calls).eventsOf call →
      (start.after calls).answerTo call = ⟨code, .session none⟩ ∧
      ((start.after calls).next call).sessions = (start.after calls).sessions

/-- An event that the token reports comes to the session it was opened with, and to no other. -/
structure RoutesFromToken (start : Kms C T N) (calls : List Call) (external event : UInt32) :
    Prop where
  delivered : ∀ session callback, start.OpenedSince calls session external (some callback) →
    (start.after calls).notifyFromToken external event =
      ⟨callback session event, some (session, event)⟩
  silent : ∀ session, start.OpenedSince calls session external none →
    (start.after calls).notifyFromToken external event = ⟨.ok, none⟩
  unknown : (∀ session notify, ¬ start.OpenedSince calls session external notify) →
    (start.after calls).notifyFromToken external event = ⟨.sessionHandleInvalid, none⟩

theorem routesToToken (hnew : Kms.new config crypto token nvm = .ok start)
    (hrun : start.OpensOnToken calls) (call : Call) : start.RoutesToToken calls call where
  handed exchange external hmem hsession := by
    obtain ⟨session, record, hnamed, hget, rfl⟩ :=
      ((next_effect _ call).tells hmem).session hsession
    exact ⟨session, record.notify, hnamed, ((tracked hnew hrun).opened session record hget).1⟩
  closed external reply hmem := by
    have heffect := next_effect (start.after calls) call
    obtain ⟨session, hrequest⟩ := (heffect.tells hmem).closeSession
    rw [hrequest] at heffect
    exact ⟨session, hrequest, heffect.closes hmem⟩
  refused slot flags isTold code hmem := by
    obtain ⟨notify, address, hrequest, rfl⟩ := ((next_effect _ call).tells hmem).openSession
    exact (next_openSession _ hrequest).refused_by_token hmem

/-- The token's session of an open session leads back to it. -/
theorem Tracked.ofExternal? (h : start.Tracked calls) {record : Session}
    (hget : (start.after calls).sessions.sessions.get? session = some record) :
    (start.after calls).sessions.ofExternal? record.external = some session := by
  rw [SessionTable.ofExternal?, if_neg (h.opened session record hget).2]
  refine PerSession.find?_of_unique hget (beq_self_eq_true _) fun other found hfound heq => ?_
  exact h.distinct other session found record hfound hget (beq_iff_eq.mp heq)

theorem routesFromToken (hnew : Kms.new config crypto token nvm = .ok start)
    (hrun : start.OpensOnToken calls) (external event : UInt32) :
    start.RoutesFromToken calls external event where
  delivered session callback hopened := by
    obtain ⟨record, hget, rfl, hnotify⟩ := hopened.record_eq hnew
    simp only [notifyFromToken, (tracked hnew hrun).ofExternal? hget, SessionTable.notify, hget,
      hnotify]
  silent session hopened := by
    obtain ⟨record, hget, rfl, hnotify⟩ := hopened.record_eq hnew
    simp only [notifyFromToken, (tracked hnew hrun).ofExternal? hget, SessionTable.notify, hget,
      hnotify]
  unknown hnot := by
    unfold notifyFromToken
    cases hfind : (start.after calls).sessions.ofExternal? external with
    | none => rfl
    | some session =>
      unfold SessionTable.ofExternal? at hfind
      split at hfind
      · cases hfind
      · obtain ⟨record, hget, hexternal⟩ := PerSession.any_of_find? hfind
        rw [← beq_iff_eq.mp hexternal] at hnot
        exact absurd ((tracked hnew hrun).opened session record hget).1 (hnot session _)

/-- While a session is open, its session of the token is not closed there: the call that closes it
closes the session. -/
theorem not_closed_while_open (hnew : Kms.new config crypto token nvm = .ok start)
    (hrun : start.OpensOnToken calls) {before between front : List Call} {opening earlier : Call}
    {external : UInt32} {notify : Option Notify} (hcalls : before ++ opening :: between <+: calls)
    (hopening : start.IsOpening before opening between session external notify)
    (hfront : front ++ [earlier] <+: between) (reply : ReturnCode) :
    .token ⟨.closeSession external, reply⟩ ∉
      (start.after (before ++ opening :: front)).eventsOf earlier := by
  intro hmem
  have hle : front <+: between := (List.prefix_append front [earlier]).trans hfront
  have hearlier : start.OpensOnToken (before ++ opening :: front) :=
    hrun.mono (List.IsPrefix.trans (by simpa using hle) hcalls)
  -- the session that is closed has the handle of the one that was opened, so it is that session
  obtain ⟨closing, hrequest, -, hclosed⟩ :=
    (routesToToken hnew hearlier earlier).closed external reply hmem
  obtain ⟨named, notify', hnamed, hsince⟩ :=
    (routesToToken hnew hearlier earlier).handed _ external hmem rfl
  rw [hrequest] at hnamed
  obtain rfl : closing = named := Option.some.inj hnamed
  obtain ⟨record, hget, hexternal, -⟩ := hsince.record_eq hnew
  obtain ⟨record', hget', hexternal', -⟩ := (hopening.of_prefix hle).record_eq hnew
  obtain rfl := (tracked hnew hearlier).distinct closing session record record' hget hget'
    (hexternal.trans hexternal'.symm)
  obtain ⟨still, hstill⟩ := hopening.stayed (front ++ [earlier]) hfront
  rw [← List.cons_append, ← List.append_assoc, after_concat, hclosed] at hstill
  cases hstill

/-- In a run in which the token opens a session with each of the enclave's, nothing goes to or comes
from a wrong session: each call passes on only the session that was opened with its own, each event
reaches the session it was opened with, and no session of the token is closed while the one it
belongs to stays open, so it is closed at most once. -/
theorem token_sessions_are_routed (hnew : Kms.new config crypto token nvm = .ok start)
    (calls : List Call) (hrun : start.OpensOnToken calls) :
    (∀ front call, front ++ [call] <+: calls → start.RoutesToToken front call) ∧
    (∀ external event, start.RoutesFromToken calls external event) ∧
    ∀ before opening between, before ++ opening :: between <+: calls →
      ∀ session external notify,
        start.IsOpening before opening between session external notify →
        ∀ front earlier, front ++ [earlier] <+: between → ∀ reply,
          .token ⟨.closeSession external, reply⟩ ∉
            (start.after (before ++ opening :: front)).eventsOf earlier := by
  refine ⟨fun front call hfront => ?_, routesFromToken hnew hrun, ?_⟩
  · exact routesToToken hnew (hrun.mono ((List.prefix_append front [call]).trans hfront)) call
  · intro before opening between hcalls session external notify hopening front earlier hfront
    exact not_closed_while_open hnew hrun hcalls hopening hfront

end Runs

/-- A session that was opened with a callback gets the events of the token's session. -/
theorem callback_is_routed :
    let token : SimulatedToken := ⟨⟨default, 0, [], 0, (0, 0), [], [], 0⟩, fun _ => true,
      ⟨fun function => function == .openSession, fun _ => .ok, 0x100⟩, 0⟩
    let callback : Notify := fun _ _ => .functionFailed
    let start : Kms NoCrypto SimulatedToken NoNvm := plain .standard .mk token .mk
    let calls : List Call := [⟨FunctionId.initialise.word, .initialise⟩,
      ⟨FunctionId.openSession.word, .openSession 1 SessionFlags.serialSession (some callback) 0⟩]
    start.OpensOnToken calls ∧ (∃ notify, start.OpenedSince calls 1 0x100 notify) ∧
      start.RoutesFromToken calls 0x100 7 ∧
      (start.after calls).notifyFromToken 0x100 7 = ⟨.functionFailed, some (1, 7)⟩ := by
  intro token callback start calls
  have hnew : Kms.new ⟨.standard, [], none⟩ NoCrypto.mk token NoNvm.mk = .ok start :=
    new_plain (by decide) _ _ _
  have hnone (session : SessionHandle) : (start.after []).sessions.sessions.get? session = none :=
    PerSession.get?_empty session
  have hrun : start.OpensOnToken calls := by
    refine ⟨fun front hfront => ?_, fun front call hfront external hmem => ?_⟩
    · rcases List.prefix_cons_iff.mp hfront with rfl | ⟨rest, rfl, hrest⟩
      · rfl
      · rcases List.prefix_cons_iff.mp hrest with rfl | ⟨last, rfl, hlast⟩
        · decide +kernel
        · rw [List.prefix_nil.mp hlast]
          decide +kernel
    · cases front with
      | nil =>
        obtain rfl : call = ⟨FunctionId.initialise.word, .initialise⟩ :=
          (List.cons_prefix_cons.mp hfront).1
        have hopened : (start.eventsOf ⟨FunctionId.initialise.word, .initialise⟩).filterMap
            KmsEvent.opened? = [] := by decide +kernel
        rw [after_nil, hopened] at hmem
        cases hmem
      | cons first front =>
        obtain ⟨rfl, hrest⟩ := List.cons_prefix_cons.mp hfront
        obtain rfl : front = [] := by
          have hlength := hfront.length_le
          simp only [List.length_append, List.length_cons, List.length_nil, calls] at hlength
          exact List.eq_nil_of_length_eq_zero (by omega)
        obtain ⟨rfl, -⟩ := List.cons_prefix_cons.mp hrest
        have hopened : ((start.after [⟨FunctionId.initialise.word, .initialise⟩]).eventsOf
            ⟨FunctionId.openSession.word, .openSession 1 SessionFlags.serialSession (some callback)
              0⟩).filterMap KmsEvent.opened? = [0x100] := by decide +kernel
        rw [hopened] at hmem
        rw [List.mem_singleton.mp hmem]
        refine ⟨by decide, fun session record hget => ?_⟩
        obtain ⟨_, _, _, _, hrequest⟩ :=
          (onTable_next hnew [] _).openSession_of_new (hnone session) hget
        cases hrequest
  obtain ⟨record, hget, hexternal⟩ : ∃ record,
      (start.after calls).sessions.sessions.get? 1 = some record ∧ record.external = 0x100 :=
    Option.map_eq_some_iff.mp (by decide +kernel)
  have hopened := ((tracked hnew hrun).opened 1 record hget).1
  rw [hexternal] at hopened
  exact ⟨hrun, ⟨_, hopened⟩, (token_sessions_are_routed hnew calls hrun).2.1 0x100 7,
    by decide +kernel⟩

end Kms

end KeyEnclave
