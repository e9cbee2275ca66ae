import KeyEnclave.Proofs.Kms.Latching
import KeyEnclave.Proofs.Kms.Searching
import KeyEnclave.Simulation.Token

/-!
# Which side serves a search

Each function of a search is served by the token if its table has the function, and by the enclave
otherwise. A search that began in the enclave goes on there and ends there, as far as the table
leaves its other functions to the enclave. While the token is the one to begin searches, no session
of the enclave is in one.

## Main definitions

* `Session.ChangesSearch` — what begins and ends the search of a session.
* `Kms.RoutesSearch` — a request of a search is served by the side that the table says.
* `Kms.GoesOn` — the search of a session is not over after a run.
* `Kms.SearchRouting` — which side serves the searches of a session after a run.

## Main results

* `Kms.Effect.changesSearch` — only the first and the last request of a search begin and end it.
* `Kms.routesSearch` — each request is routed by the table.
* `Kms.isSearching_during` — a search that goes on has a part of what it found left.
* `Kms.noSearch_after` — there is no search in the enclave while the token begins them.
* `Kms.searches_are_routed` — which side serves the searches of a run over a fixed table.
* `Kms.search_gets_stuck` — with a table that ends searches and does not begin them, one stays.
-/

namespace KeyEnclave

open KeyEnclave.Action

namespace Request

variable {request : Request} {state : SessionState} {op : ProviderOp}

theorem ne_searching_of_step (h : request.step? = some (state, op)) : state ≠ .searching := by
  rintro rfl
  cases isKeyed_of_step h (by decide)

theorem isSearch_of_step (h : request.step? = some (state, op)) : request.isSearch = false := by
  cases request <;> first | rfl | cases h

end Request

-- ═══════════════════════════════════════════════════════════════════════════
-- The beginning and the end of a search
-- ═══════════════════════════════════════════════════════════════════════════

/-- A request begins and ends the search of a session only if it is the one for that. -/
structure Session.ChangesSearch (request : Request) (session : SessionHandle)
    (before after : Option Session) : Prop where
  began : ∀ record, after = some record → record.state = .searching →
    (∃ earlier, before = some earlier ∧ earlier.state = .searching) ∨
      ∃ template, request = .findObjectsInit session template
  ended : ∀ earlier record, before = some earlier → after = some record →
    earlier.state = .searching → record.state = .searching ∨ request = .findObjectsFinal session

namespace Session.ChangesSearch

variable {request : Request} {session : SessionHandle}

theorem refl (before : Option Session) : ChangesSearch request session before before where
  began record hget hstate := .inl ⟨record, hget, hstate⟩
  ended earlier record hbefore hafter hstate := by
    obtain rfl := Option.some.inj (hbefore.symm.trans hafter)
    exact .inl hstate

theorem closed (before : Option Session) : ChangesSearch request session before none :=
  ⟨nofun, nofun⟩

/-- The session is in no search before and afterwards. -/
theorem of_ne {before : Option Session} {record : Session}
    (hbefore : ∀ earlier, before = some earlier → earlier.state ≠ .searching)
    (hafter : record.state ≠ .searching) : ChangesSearch request session before (some record) where
  began := by
    rintro _ ⟨⟩ hstate
    exact absurd hstate hafter
  ended earlier _ hearlier _ hstate := absurd hstate (hbefore earlier hearlier)

end Session.ChangesSearch

namespace SessionTable

variable {table : SessionTable} {request : Request} {session named : SessionHandle}
  {before : Option Session} {changed : Session}

theorem changesSearch_put (hindex : named.index?.isSome)
    (hget : table.sessions.get? named = before)
    (h : Session.ChangesSearch request named before (some changed)) :
    Session.ChangesSearch request session (table.sessions.get? session)
      ((table.put named changed).sessions.get? session) := by
  rw [get?_put_of_index hindex]
  split
  · next heq => rwa [heq, hget]
  · exact .refl _

theorem changesSearch_drop :
    Session.ChangesSearch request session (table.sessions.get? session)
      ((table.drop named).sessions.get? session) := by
  rw [get?_drop]
  split
  · exact .closed _
  · exact .refl _

end SessionTable

namespace Kms

variable {C T N : Type} {kms after : Kms C T N} {request : Request} {events : List KmsEvent}
  {session named : SessionHandle}

/-- The step of an operation is no search, and leaves none if it ends the operation. -/
theorem changesSearch_concluded [CryptoProvider C] {record : Session} {state : SessionState}
    {op : ProviderOp} (hstep : request.step? = some (state, op))
    (hstate : kms.requireState named state = .ok record) (isEnded : Bool) :
    Session.ChangesSearch request session (kms.sessions.sessions.get? session)
      ((kms.concluded named isEnded).sessions.sessions.get? session) := by
  obtain ⟨hsession, rfl⟩ := requireState_eq_ok.mp hstate
  have hget := (requireSession_eq_ok.mp hsession).2
  cases isEnded with
  | false => exact .refl _
  | true =>
    show Session.ChangesSearch request session _ ((kms.sessions.reset named).sessions.get? session)
    rw [SessionTable.reset_eq_put hget]
    refine SessionTable.changesSearch_put (PerSession.index?_isSome_of_get? hget) hget
      (.of_ne ?_ nofun)
    rintro _ ⟨⟩
    exact Request.ne_searching_of_step hstep

/-- An operation that begins is no search, and begins in a session that is in none. -/
theorem changesSearch_begun {record : Session} {state : SessionState} {key : ObjectHandle}
    (hsession : kms.requireSession named = .ok record) (hidle : record.state = .idle)
    (hstate : state ≠ .searching) :
    Session.ChangesSearch request session (kms.sessions.sessions.get? session)
      ((kms.sessions.put named { record with state := state, key := key }).sessions.get?
        session) := by
  have hget := (requireSession_eq_ok.mp hsession).2
  refine SessionTable.changesSearch_put (PerSession.index?_isSome_of_get? hget) hget
    (.of_ne ?_ hstate)
  rintro _ ⟨⟩
  rw [hidle]
  decide

section Effects

variable [CryptoProvider C] [ExternalToken T] [NvmStorage N]

/-- Only the requests for it begin and end the search of a session. -/
theorem Effect.changesSearch (h : kms.Effect request after events) (session : SessionHandle) :
    Session.ChangesSearch request session (kms.sessions.sessions.get? session)
      (after.sessions.sessions.get? session) := by
  have hempty : Session.ChangesSearch request session (kms.sessions.sessions.get? session)
      (PerSession.empty.get? session) := by
    rw [PerSession.get?_empty]
    exact .closed _
  cases h with
  | nothing | asked | notBegun | stored | made | installed | latchedKeys | latchedServices =>
    exact .refl _
  | raised hup =>
    rw [SessionTable.sessions_bringUp hup]
    exact .refl _
  | lowered hnesting =>
    rw [SessionTable.sessions_bringDown hnesting]
    exact .refl _
  | cameUp | stayedDown | wentDown => exact hempty
  | opened hup hfree | openedOnToken hup hfree =>
    exact SessionTable.changesSearch_put (PerSession.index?_isSome_of_firstFree? hfree)
      (PerSession.get?_firstFree? hfree) (.of_ne nofun nofun)
  | closed => exact SessionTable.changesSearch_drop
  | searchBegun hsession hidle =>
    have hget := (requireSession_eq_ok.mp hsession).2
    refine SessionTable.changesSearch_put (PerSession.index?_isSome_of_get? hget) hget
      ⟨fun _ _ _ => .inr ⟨_, rfl⟩, ?_⟩
    rintro _ _ ⟨⟩ - hstate
    rw [hidle] at hstate
    cases hstate
  | paged hsession hstate =>
    have hget := (requireSession_eq_ok.mp hsession).2
    refine SessionTable.changesSearch_put (PerSession.index?_isSome_of_get? hget) hget
      ⟨fun _ _ _ => .inl ⟨_, rfl, hstate⟩, ?_⟩
    rintro _ _ - ⟨⟩ -
    exact .inl hstate
  | searchEnded hsession =>
    have hget := (requireSession_eq_ok.mp hsession).2
    rw [SessionTable.reset_eq_put hget]
    refine SessionTable.changesSearch_put (PerSession.index?_isSome_of_get? hget) hget
      ⟨?_, fun _ _ _ _ _ => .inr rfl⟩
    rintro _ ⟨⟩ ⟨⟩
  | began hbegins hsession hidle | beganOnToken hbegins hsession hidle =>
    exact changesSearch_begun hsession hidle (by cases hbegins <;> decide)
  | stepLatched hstep _ hstate => exact changesSearch_concluded hstep hstate true
  | @stepped _ named state op record hstep _ hstate =>
    have hstate' : (kms.afterProvider op).requireState named state = .ok record := hstate
    exact changesSearch_concluded hstep hstate' _
  | @steppedOnToken _ named state op tokenOp record hstep _ _ hstate _ _ isTold isEnded =>
    have hstate' : (kms.told isTold tokenOp).requireState named state = .ok record := by
      unfold requireState requireSession requireUp at hstate ⊢
      rwa [told_sessions]
    have hchanges : Session.ChangesSearch request session _ _ :=
      changesSearch_concluded hstep hstate' isEnded
    rwa [told_sessions] at hchanges

end Effects

-- ═══════════════════════════════════════════════════════════════════════════
-- Which side serves a request
-- ═══════════════════════════════════════════════════════════════════════════

section Routing

variable [ExternalToken T]

/-- How a request of a search was served: by the token if it has the function, and then nothing but
the token changes, or else by the enclave, which changes nothing but its sessions. -/
structure RoutesSearch (kms : Kms C T N) (request : Request) (answer : Answer) (after : Kms C T N)
    (events : List KmsEvent) : Prop where
  token : kms.tokenImplements request.function = true →
    (answer.code ≠ .ok ∧ after = kms ∧ events = []) ∨
      ∃ op, request.tokenOp? kms.sessions.external = some op ∧ after = kms.afterToken op ∧
        events = [kms.tokenEvent op]
  enclave : kms.tokenImplements request.function = false →
    events = [] ∧ ∃ table, after = { kms with sessions := table }

namespace RoutesSearch

variable {answer : Answer}

theorem of_refused (hcode : answer.code ≠ .ok) : kms.RoutesSearch request answer kms [] :=
  ⟨fun _ => .inl ⟨hcode, rfl, rfl⟩, fun _ => ⟨rfl, kms.sessions, rfl⟩⟩

/-- The session is not open, or the library is down. -/
theorem of_closed {code : ReturnCode} (herror : kms.requireSession session = .error code) :
    kms.RoutesSearch request (request.concluding (.error code)) kms [] := by
  refine of_refused ?_
  rintro rfl
  exact requireSession_ne_error_ok herror

theorem of_asked {op : TokenOp} (hhas : kms.tokenImplements request.function = true)
    (hop : request.tokenOp? kms.sessions.external = some op) :
    kms.RoutesSearch request answer (kms.afterToken op) [kms.tokenEvent op] :=
  ⟨fun _ => .inr ⟨op, hop, rfl, rfl⟩, fun hlacks => absurd hhas (by rw [hlacks]; decide)⟩

theorem of_own (hlacks : kms.tokenImplements request.function = false) (table : SessionTable) :
    kms.RoutesSearch request answer { kms with sessions := table } [] :=
  ⟨fun hhas => absurd hhas (by rw [hlacks]; decide), fun _ => ⟨rfl, table, rfl⟩⟩

/-- The token changes no session of the enclave. -/
theorem sessions_eq (h : kms.RoutesSearch request answer after events)
    (hhas : kms.tokenImplements request.function = true) : after.sessions = kms.sessions := by
  rcases h.token hhas with ⟨-, rfl, -⟩ | ⟨op, -, rfl, -⟩
  · rfl
  · rfl

end RoutesSearch

end Routing

variable [CryptoProvider C] [ExternalToken T] [NvmStorage N]

/-- Serving a request leads to what routing it does. -/
def IsRouted (kms : Kms C T N) (request : Request) : Prop :=
  (serve request).Ends kms fun outcome =>
    kms.RoutesSearch request (request.concluding outcome.answer) outcome.state outcome.journal

theorem findObjectsInit_routed (session : SessionHandle) (template : PlacedTemplate) :
    kms.IsRouted (.findObjectsInit session template) := by
  refine codeOnly_ends (Ends.bind_get (Ends.bind_ofExcept (fun _ herror => .of_closed herror)
    fun record hsession => ?_))
  cases hhas : kms.tokenImplements .findObjectsInit with
  | true =>
    rw [tokenSession_of_has hhas]
    exact .of_asked hhas rfl
  | false =>
    rw [tokenSession_of_lacks hhas]
    refine Ends.bind_ofExcept (fun _ _ => .of_own hhas kms.sessions) fun _ _ => ?_
    have hget := (requireSession_eq_ok.mp hsession).2
    exact bind_updateSessions (SessionTable.update_eq_put _ hget) (Ends.pure (.of_own hhas _))

theorem findObjects_routed (session : SessionHandle) (objects : Buffer) (count : Address) :
    kms.IsRouted (.findObjects session objects count) := by
  refine Ends.bind_get (Ends.bind_ofExcept (fun _ herror => .of_closed herror)
    fun record hsession => ?_)
  refine Ends.failing (fun _ => .of_refused nofun) fun _ => ?_
  cases hhas : kms.tokenImplements .findObjects with
  | true =>
    rw [tokenSession_of_has hhas]
    exact bind_askToken (Ends.bind_ofExcept (fun _ _ => .of_asked hhas rfl)
      fun _ _ => Ends.pure (.of_asked hhas rfl))
  | false =>
    rw [tokenSession_of_lacks hhas]
    refine Ends.bind_ofExcept (fun _ _ => .of_own hhas kms.sessions) fun turned _ => ?_
    exact Ends.bind_set (Ends.pure (.of_own hhas turned.2))

theorem findObjectsFinal_routed (session : SessionHandle) :
    kms.IsRouted (.findObjectsFinal session) := by
  refine codeOnly_ends (Ends.bind_get (Ends.bind_ofExcept (fun _ herror => .of_closed herror)
    fun record hsession => ?_))
  cases hhas : kms.tokenImplements .findObjectsFinal with
  | true =>
    rw [tokenSession_of_has hhas]
    exact .of_asked hhas rfl
  | false =>
    rw [tokenSession_of_lacks hhas]
    exact Ends.failing (fun _ => .of_own hhas kms.sessions)
      fun _ => Ends.bind_modify (Ends.pure (.of_own hhas _))

/-- Each request of a search is served by the side that the table says. -/
theorem routesSearch (kms : Kms C T N) {call : Call} (hsearch : call.request.isSearch = true) :
    kms.RoutesSearch call.request (kms.answerTo call) (kms.next call) (kms.eventsOf call) := by
  obtain ⟨word, request⟩ := call
  unfold answerTo Kms.next eventsOf
  cases hadmitted : kms.admitted word request with
  | error code =>
    rw [dispatch_of_refused hadmitted]
    exact .of_refused (ne_ok_of_refused hadmitted)
  | ok u =>
    refine dispatch_ends (kms.RoutesSearch request) hadmitted ?_
    cases request with
    | findObjectsInit => exact findObjectsInit_routed _ _
    | findObjects => exact findObjects_routed _ _ _
    | findObjectsFinal => exact findObjectsFinal_routed _
    | _ => cases hsearch

/-- A search that begins without an exchange begins in the enclave. -/
theorem lacks_of_begun {call : Call} {template : PlacedTemplate}
    (hrequest : call.request = .findObjectsInit session template)
    (hok : (kms.answerTo call).code = .ok) (hevents : kms.eventsOf call = []) :
    kms.tokenImplements .findObjectsInit = false := by
  have hrouted := kms.routesSearch (show call.request.isSearch = true by rw [hrequest]; rfl)
  rw [hrequest] at hrouted
  refine Bool.eq_false_iff.mpr fun hhas => ?_
  rcases hrouted.token hhas with ⟨hcode, -⟩ | ⟨op, -, -, hasked⟩
  · exact hcode hok
  · rw [hevents] at hasked
    cases hasked

/-- A search that begins with an exchange begins on the token. -/
theorem has_of_begun {call : Call} {template : PlacedTemplate}
    (hrequest : call.request = .findObjectsInit session template)
    (hevents : kms.eventsOf call ≠ []) : kms.tokenImplements .findObjectsInit = true := by
  have hrouted := kms.routesSearch (show call.request.isSearch = true by rw [hrequest]; rfl)
  rw [hrequest] at hrouted
  exact eq_true_of_ne_false fun hlacks => hevents (hrouted.enclave hlacks).1

/-- The enclave ends the search of a session, or does nothing. -/
theorem final_of_lacks (hlacks : kms.tokenImplements .findObjectsFinal = false) {call : Call}
    (hrequest : call.request = .findObjectsFinal session) :
    ((kms.answerTo call).code = .ok → (kms.next call).IsIdle session) ∧
      ((kms.answerTo call).code ≠ .ok → kms.next call = kms) := by
  obtain ⟨word, request⟩ := call
  obtain rfl : request = .findObjectsFinal session := hrequest
  unfold answerTo Kms.next
  cases hadmitted : kms.admitted word (.findObjectsFinal session) with
  | error code =>
    rw [dispatch_of_refused hadmitted]
    exact ⟨fun hok => absurd hok (ne_ok_of_refused hadmitted), fun _ => rfl⟩
  | ok u =>
    refine dispatch_ends (fun answer after _ => (answer.code = .ok → after.IsIdle session) ∧
      (answer.code ≠ .ok → after = kms)) hadmitted (codeOnly_ends (Ends.bind_get ?_))
    refine Ends.bind_ofExcept (fun code herror => ⟨fun hcode => ?_, fun _ => rfl⟩)
      fun record hsession => ?_
    · obtain rfl : code = .ok := hcode
      exact absurd herror requireSession_ne_error_ok
    rw [tokenSession_of_lacks hlacks]
    refine Ends.failing (fun _ => ⟨nofun, fun _ => rfl⟩) fun _ => Ends.bind_modify (Ends.pure ?_)
    obtain ⟨hup, hget⟩ := requireSession_eq_ok.mp hsession
    refine ⟨fun _ => isIdle_iff.mpr ⟨record.reset, requireSession_eq_ok.mpr ⟨?_, ?_⟩, rfl⟩,
      fun hcode => absurd rfl hcode⟩
    · exact SessionTable.isUp_reset.trans hup
    · rw [SessionTable.get?_reset, if_pos rfl, hget]
      rfl

theorem sessions_final (kms : Kms C T N) {call : Call}
    (hrequest : call.request = .findObjectsFinal session)
    (hcode : (kms.answerTo call).code ≠ .ok) : (kms.next call).sessions = kms.sessions := by
  cases hhas : kms.tokenImplements .findObjectsFinal with
  | true =>
    have hrouted := kms.routesSearch (show call.request.isSearch = true by rw [hrequest]; rfl)
    rw [hrequest] at hrouted
    exact hrouted.sessions_eq hhas
  | false => rw [(final_of_lacks hhas hrequest).2 hcode]

-- ═══════════════════════════════════════════════════════════════════════════
-- Searches of the enclave
-- ═══════════════════════════════════════════════════════════════════════════

variable {layout : ObjectLayout} {embedded : List Bytes}

/-- A search is gone on with as long as its session stays open and it is not ended. -/
theorem isSearching_kept (hvalid : layout.validate = .ok ()) (hsound : kms.IsSound layout embedded)
    {left : List ObjectHandle} (hsearching : kms.IsSearching session left) {call : Call}
    (hopen : ∃ record, (kms.next call).sessions.sessions.get? session = some record)
    (hgoes : call.request = .findObjectsFinal session → (kms.answerTo call).code ≠ .ok) :
    ∃ rest, rest <:+ left ∧ (kms.next call).IsSearching session rest := by
  obtain ⟨record, hget, hstate, rfl⟩ := hsearching
  obtain ⟨record', hget'⟩ := hopen
  have heffect := kms.next_effect call
  have hstate' : record'.state = .searching := by
    rcases (heffect.changesSearch session).ended record record' hget hget' hstate with
      hstate' | hrequest
    · exact hstate'
    · rw [kms.sessions_final hrequest (hgoes hrequest), hget] at hget'
      rwa [← Option.some.inj hget']
  have honSession := heffect.onSession (hsound.classify_noKey hvalid) session
  rw [hget, hget'] at honSession
  cases honSession with
  | kept => exact ⟨_, List.suffix_rfl, record, hget', hstate, rfl⟩
  | @paged _ _ count =>
    refine ⟨record.pending.drop count, List.drop_suffix _ _, _, hget', hstate', ?_⟩
    exact List.drop_drop.symm
  | searched hidle | begun hidle =>
    rw [hidle] at hstate
    cases hstate
  | ended => cases hstate'

/-- The search of a session is not over after a run: the session stayed open, and was not told that
the search has ended. -/
structure GoesOn (kms : Kms C T N) (session : SessionHandle) (during : List Call) : Prop where
  isOpen : ∀ front, front <+: during →
    ∃ record, (kms.after front).sessions.sessions.get? session = some record
  notEnded : ∀ front call, front ++ [call] <+: during →
    call.request = .findObjectsFinal session → ((kms.after front).answerTo call).code ≠ .ok

/-- A search that goes on has a part of what it found left. -/
theorem isSearching_during (hvalid : layout.validate = .ok ())
    (hsound : kms.IsSound layout embedded) {found : List ObjectHandle}
    (hsearching : kms.IsSearching session found) {during : List Call}
    (hgoes : kms.GoesOn session during) :
    ∃ left, left <:+ found ∧ (kms.after during).IsSearching session left := by
  induction during using List.reverseRecOn with
  | nil => exact ⟨found, List.suffix_rfl, hsearching⟩
  | append_singleton during call ih =>
    have hprefix : during <+: during ++ [call] := List.prefix_append during [call]
    obtain ⟨left, hleft, hstill⟩ := ih
      ⟨fun front hfront => hgoes.isOpen front (hfront.trans hprefix),
        fun front earlier hfront => hgoes.notEnded front earlier (hfront.trans hprefix)⟩
    have hsound' : (kms.after during).IsSound layout embedded :=
      after_of_effect (fun _ _ _ _ heffect => heffect.isSound hvalid) hsound during
    have hopen := hgoes.isOpen _ List.prefix_rfl
    rw [after_concat] at hopen ⊢
    obtain ⟨rest, hrest, hnext⟩ := isSearching_kept hvalid hsound' hstill hopen
      (hgoes.notEnded during call List.prefix_rfl)
    exact ⟨rest, hrest.trans hleft, hnext⟩

-- ═══════════════════════════════════════════════════════════════════════════
-- Searches of the token
-- ═══════════════════════════════════════════════════════════════════════════

omit [CryptoProvider C] [ExternalToken T] [NvmStorage N] in
/-- No session of the enclave is in a search. -/
def NoSearch (kms : Kms C T N) : Prop :=
  ∀ session record, kms.sessions.sessions.get? session = some record → record.state ≠ .searching

/-- A search begins in the enclave only if the token can not begin it. -/
theorem noSearch_next (hhas : kms.tokenImplements .findObjectsInit = true) (h : kms.NoSearch)
    (call : Call) : (kms.next call).NoSearch := by
  intro session record hget hstate
  rcases ((kms.next_effect call).changesSearch session).began record hget hstate with
    ⟨earlier, hearlier, hstate'⟩ | ⟨template, hrequest⟩
  · exact h session earlier hearlier hstate'
  · have hrouted := kms.routesSearch (show call.request.isSearch = true by rw [hrequest]; rfl)
    rw [hrequest] at hrouted
    rw [hrouted.sessions_eq hhas] at hget
    exact h session record hget hstate

/-- Without a search, the requests for one change no session unless one begins. -/
theorem Effect.sessions_of_noSearch (h : kms.Effect request after events)
    (hsearch : request.isSearch = true) (hnone : kms.NoSearch)
    (hinit : ∀ session template, request ≠ .findObjectsInit session template) :
    after.sessions = kms.sessions := by
  cases h with
  | nothing | asked => rfl
  | searchBegun => exact absurd rfl (hinit _ _)
  | paged hsession hstate | searchEnded hsession hstate =>
    exact absurd hstate (hnone _ _ (requireSession_eq_ok.mp hsession).2)
  | began hbegins | notBegun hbegins | beganOnToken hbegins => cases hbegins <;> cases hsearch
  | stored hrequest => cases hrequest <;> cases hsearch
  | made hmakes => cases hmakes <;> cases hsearch
  | stepLatched hstep | stepped op hstep | steppedOnToken hstep =>
    rw [Request.isSearch_of_step hstep] at hsearch
    cases hsearch
  | _ => cases hsearch

/-- While the token begins searches, no request of one changes a session of the enclave. -/
theorem sessions_next_of_noSearch (hhas : kms.tokenImplements .findObjectsInit = true)
    (hnone : kms.NoSearch) {call : Call} (hsearch : call.request.isSearch = true) :
    (kms.next call).sessions = kms.sessions := by
  by_cases hinit : ∃ session template, call.request = .findObjectsInit session template
  · obtain ⟨session, template, hrequest⟩ := hinit
    exact (kms.routesSearch hsearch).sessions_eq (by rw [hrequest]; exact hhas)
  · exact (kms.next_effect call).sessions_of_noSearch hsearch hnone
      fun session template hrequest => hinit ⟨session, template, hrequest⟩

-- ═══════════════════════════════════════════════════════════════════════════
-- Runs
-- ═══════════════════════════════════════════════════════════════════════════

/-- The table of the token has the same functions of a search all along a run. -/
def KeepsSearchTable (kms : Kms C T N) (calls : List Call) : Prop :=
  ∀ front, front <+: calls → ∀ function ∈ searchFunctions,
    (kms.after front).tokenImplements function = kms.tokenImplements function

instance (calls : List Call) : Decidable (kms.KeepsSearchTable calls) :=
  decidable_of_iff (∀ front ∈ calls.inits, ∀ function ∈ searchFunctions,
      (kms.after front).tokenImplements function = kms.tokenImplements function)
    (by simp only [List.mem_inits, KeepsSearchTable])

variable {config : KmsConfig} {crypto : C} {token : T} {nvm : N} {start : Kms C T N}
  {calls : List Call}

theorem noSearch_after (hnew : Kms.new config crypto token nvm = .ok start)
    (htable : start.KeepsSearchTable calls)
    (hhas : start.tokenImplements .findObjectsInit = true) : (start.after calls).NoSearch := by
  induction calls using List.reverseRecOn with
  | nil =>
    intro session record hget
    have hclosed := (isSound_after hnew []).closed
    rw [after_nil, (new_eq_ok hnew).2] at hget hclosed
    rw [hclosed rfl session] at hget
    cases hget
  | append_singleton calls call ih =>
    have hprefix : calls <+: calls ++ [call] := List.prefix_append calls [call]
    rw [after_concat]
    refine noSearch_next ?_ (ih fun front hfront => htable front (hfront.trans hprefix)) call
    rw [htable calls hprefix _ (by decide), hhas]

/-- How the enclave goes on with a search of its own. -/
structure ServesFound (kms : Kms C T N) (session : SessionHandle) (found : List ObjectHandle) :
    Prop where
  /-- A page holds the next of the handles that were found and are left. -/
  page : kms.tokenImplements .findObjects = false → ∀ word objects count,
    kms.Accepts ⟨word, .findObjects session objects count⟩ → 1 ≤ objects.room → ∃ left,
      left <:+ found ∧
      kms.answerTo ⟨word, .findObjects session objects count⟩ =
        ⟨.ok, .objects (some (min objects.room left.length)) (left.take objects.room)⟩ ∧
      (kms.next ⟨word, .findObjects session objects count⟩).IsSearching session
        (left.drop objects.room)
  /-- A search that is ended leaves the session idle. -/
  final : kms.tokenImplements .findObjectsFinal = false → ∀ word,
    (kms.answerTo ⟨word, .findObjectsFinal session⟩).code = .ok →
      (kms.next ⟨word, .findObjectsFinal session⟩).IsIdle session

/-- Which side serves the searches of a session after a run. -/
structure SearchRouting (start : Kms C T N) (calls : List Call) (session : SessionHandle) :
    Prop where
  /-- Each request is served by the token if the table has its function, and else by the enclave. -/
  routed : ∀ call : Call, call.request.isSearch = true →
    let kms := start.after calls
    kms.RoutesSearch call.request (kms.answerTo call) (kms.next call) (kms.eventsOf call)
  /-- A search that began without the token is served what it found, and is over once it is ended,
  each unless the table has the function for it. -/
  own : ∀ before init during template, calls = before ++ init :: during →
    init.request = .findObjectsInit session template →
    ((start.after before).answerTo init).code = .ok → (start.after before).eventsOf init = [] →
    (start.after (before ++ [init])).GoesOn session during →
    (start.after calls).ServesFound session
      (((start.after before).matching template.template).take Limits.search)
  /-- Once a search began on the token, no request of one changes a session of the enclave. -/
  token : ∀ before init during template, calls = before ++ init :: during →
    init.request = .findObjectsInit session template → (start.after before).eventsOf init ≠ [] →
    ∀ call : Call, call.request.isSearch = true →
      ((start.after calls).next call).sessions = (start.after calls).sessions
  /-- A session of which the search was ended is in none, unless the table has the function to end
  searches and not the one to begin them. -/
  final : (start.tokenImplements .findObjectsFinal = true →
      start.tokenImplements .findObjectsInit = true) →
    ∀ call : Call, call.request = .findObjectsFinal session →
      ((start.after calls).answerTo call).code = .ok →
      ∀ record, ((start.after calls).next call).sessions.sessions.get? session = some record →
        record.state ≠ .searching

theorem servesFound_of_isSearching {found left : List ObjectHandle}
    (hup : kms.sessions.isUp = true) (hsearching : kms.IsSearching session left)
    (hleft : left <:+ found) : kms.ServesFound session found where
  page hlacks word objects count haccepts hroom := by
    obtain ⟨hanswer, hnext⟩ := page_of_isSearching hup hlacks hsearching hroom haccepts.admitted
    exact ⟨left, hleft, hanswer, hnext⟩
  final hlacks word := (final_of_lacks hlacks rfl).1

/-- Over a token whose table stays the same, a search goes on where it began as far as the table
says so: each request is served by the token exactly if the table has its function. -/
theorem searches_are_routed (hnew : Kms.new config crypto token nvm = .ok start)
    (htable : start.KeepsSearchTable calls) (session : SessionHandle) :
    start.SearchRouting calls session := by
  obtain ⟨hvalid, -⟩ := new_eq_ok hnew
  have hsound := isSound_after hnew calls
  have hlater {function : FunctionId} (hmem : function ∈ searchFunctions) :
      (start.after calls).tokenImplements function = start.tokenImplements function :=
    htable calls List.prefix_rfl function hmem
  constructor
  case routed => exact fun call hsearch => routesSearch _ hsearch
  case own =>
    rintro before ⟨word, request⟩ during template rfl hrequest hok hevents hgoes
    obtain rfl : request = .findObjectsInit session template := hrequest
    have hbegun := isSearching_of_begun (lacks_of_begun rfl hok hevents) hok
    rw [← after_concat] at hbegun
    obtain ⟨left, hleft, hsearching⟩ :=
      isSearching_during hvalid (isSound_after hnew _) hbegun hgoes
    rw [← after_append, List.append_assoc, List.singleton_append] at hsearching
    obtain ⟨record, hget, -⟩ := id hsearching
    refine servesFound_of_isSearching (eq_true_of_ne_false fun hdown => ?_) hsearching hleft
    rw [hsound.closed hdown] at hget
    cases hget
  case token =>
    rintro before init during template rfl hrequest hevents call hsearch
    have hprefix : before <+: before ++ init :: during := List.prefix_append _ _
    have hhas : start.tokenImplements .findObjectsInit = true :=
      (htable before hprefix _ (by decide)).symm.trans (has_of_begun hrequest hevents)
    exact sessions_next_of_noSearch ((hlater (by decide)).trans hhas)
      (noSearch_after hnew htable hhas) hsearch
  case final =>
    intro hends call hrequest hok record hget
    cases hfinal : start.tokenImplements .findObjectsFinal with
    | true =>
      have hhas := hends hfinal
      exact noSearch_next ((hlater (by decide)).trans hhas) (noSearch_after hnew htable hhas) call
        session record hget
    | false =>
      have hidle := (final_of_lacks ((hlater (by decide)).trans hfinal) hrequest).1 hok
      obtain ⟨idle, hsession, hstate⟩ := isIdle_iff.mp hidle
      obtain rfl := Option.some.inj (hget.symm.trans (requireSession_eq_ok.mp hsession).2)
      rw [hstate]
      decide

/-- A token that has some functions, each of which it serves with `ok`. -/
def tokenWith (functions : List FunctionId) : SimulatedToken :=
  ⟨⟨default, 0, [], 0, (0, 0), [], [], 0⟩, fun _ => true,
    ⟨fun function => decide (function ∈ functions), fun _ => .ok, 0x100⟩, 0⟩

/-- Two objects are embedded, and there is a token with some functions. -/
def routedStart (functions : List FunctionId) : Kms NoCrypto SimulatedToken NoNvm :=
  ⟨.allOpen, .down, ObjectStore.new .standard searchedConfig.embedded default, default,
    tokenWith functions, none⟩

/-- One session is open. -/
def beforeRouted : List Call :=
  [⟨FunctionId.initialise.word, .initialise⟩,
    ⟨FunctionId.openSession.word, .openSession 0 SessionFlags.serialSession none default⟩]

/-- A session begins a search for all objects. -/
def beginSearch : Call := ⟨FunctionId.findObjectsInit.word, .findObjectsInit 1 (templateOf [])⟩

/-- A session ends its search. -/
def endSearch : Call := ⟨FunctionId.findObjectsFinal.word, .findObjectsFinal 1⟩

/-- The token creates objects, and the enclave serves the whole of a search. -/
theorem search_in_enclave :
    let start := routedStart [.createObject]
    let calls := beforeRouted ++ beginSearch :: [askPage 1 1]
    start.KeepsSearchTable calls ∧ start.SearchRouting calls 1 ∧
      (start.after calls).ServesFound 1 [3, 5] ∧
      (start.after calls).answerTo (askPage 1 4) = ⟨.ok, .objects (some 1) [5]⟩ ∧
      ((start.after calls).next endSearch).IsIdle 1 := by
  intro start calls
  have hnew : Kms.new searchedConfig NoCrypto.mk (tokenWith [.createObject]) NoNvm.mk = .ok start :=
    rfl
  have htable : start.KeepsSearchTable calls := by decide +kernel
  have hrouting := searches_are_routed hnew htable 1
  have hgoes : (start.after (beforeRouted ++ [beginSearch])).GoesOn 1 [askPage 1 1] := by
    constructor
    · intro front hfront
      have hopen : ∀ front ∈ [askPage 1 1].inits,
          (((start.after (beforeRouted ++ [beginSearch])).after front).sessions.sessions.get?
            1).isSome = true := by decide +kernel
      exact Option.isSome_iff_exists.mp (hopen front ((List.mem_inits _ _).mpr hfront))
    · intro front call hfront hrequest
      have hmem : call ∈ [askPage 1 1] := hfront.subset (by simp)
      rw [List.mem_singleton.mp hmem] at hrequest
      cases hrequest
  have hserves := hrouting.own beforeRouted beginSearch [askPage 1 1] (templateOf []) rfl rfl
    (by decide +kernel) (List.isEmpty_iff.mp (by decide +kernel)) hgoes
  have hfound : ((start.after beforeRouted).matching (templateOf []).template).take Limits.search =
      [3, 5] := by decide +kernel
  rw [hfound] at hserves
  exact ⟨htable, hrouting, hserves, by decide +kernel,
    hserves.final (by decide +kernel) FunctionId.findObjectsFinal.word (by decide +kernel)⟩

/-- With a token that ends searches and does not begin them, a session whose search was ended stays
in it. -/
theorem search_gets_stuck :
    let start := routedStart [.findObjectsFinal]
    let opened := start.after beforeRouted
    Kms.new searchedConfig NoCrypto.mk (tokenWith [.findObjectsFinal]) NoNvm.mk = .ok start ∧
      start.KeepsSearchTable (beforeRouted ++ [beginSearch, endSearch]) ∧
      (opened.answerTo beginSearch).code = .ok ∧ opened.eventsOf beginSearch = [] ∧
      ((opened.next beginSearch).answerTo endSearch).code = .ok ∧
      (((opened.next beginSearch).next endSearch).sessions.sessions.get? 1).map Session.state =
        some .searching :=
  ⟨rfl, by decide +kernel, by decide +kernel, List.isEmpty_iff.mp (by decide +kernel),
    by decide +kernel, by decide +kernel⟩

end Kms

end KeyEnclave
