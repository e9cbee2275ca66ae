import KeyEnclave.Proofs.Kms.Latching
import KeyEnclave.Proofs.Kms.Searching

/-!
# Latched objects in searches

A search that begins after an object was latched does not find it. One that had found it before goes
on to hand it out: the latches are not looked at again when a page is turned.

## Main definitions

* `SessionTable.Inherits` — what sessions have left they had left before, or it was found just now.
* `Kms.IsLeft` — a handle is among those that a search has left to hand out.

## Main results

* `Kms.Effect.inherits` — a request adds to what sessions have left only what a search finds.
* `Kms.latched_result_was_left` — a latched object is handed out only by a search that had found it
  before it was latched.
* `Kms.latched_object_is_handed_out` — and by such a search it is.
-/

namespace KeyEnclave

open KeyEnclave.Action

namespace SessionTable

variable {table after : SessionTable} {named : SessionHandle} {changed : Session}
  {found : ObjectHandle → Prop}

/-- What sessions have left to hand out they had left before, or it was found just now. -/
def Inherits (found : ObjectHandle → Prop) (table after : SessionTable) : Prop :=
  ∀ session record, after.sessions.get? session = some record → ∀ handle ∈ record.pending,
    (∃ before, table.sessions.get? session = some before ∧ handle ∈ before.pending) ∨ found handle

theorem inherits_of_same (hsame : after.sessions = table.sessions) : Inherits found table after :=
  fun _ record hget _ hmem => .inl ⟨record, hsame ▸ hget, hmem⟩

theorem inherits_of_empty (hempty : after.sessions = .empty) : Inherits found table after := by
  intro session record hget
  rw [hempty, PerSession.get?_empty] at hget
  cases hget

theorem inherits_put (hindex : named.index?.isSome)
    (hchanged : ∀ handle ∈ changed.pending,
      (∃ before, table.sessions.get? named = some before ∧ handle ∈ before.pending) ∨
        found handle) : Inherits found table (table.put named changed) := by
  intro session record hget handle hmem
  rw [get?_put_of_index hindex] at hget
  split at hget
  · next heq =>
    obtain rfl := Option.some.inj hget
    exact heq ▸ hchanged handle hmem
  · exact .inl ⟨record, hget, hmem⟩

/-- A session that is changed but not its search. -/
theorem inherits_put_same {before : Session} (hget : table.sessions.get? named = some before)
    (hpending : changed.pending = before.pending) :
    Inherits found table (table.put named changed) :=
  inherits_put (PerSession.index?_isSome_of_get? hget)
    fun _ hmem => .inl ⟨before, hget, hpending ▸ hmem⟩

theorem inherits_drop : Inherits found table (table.drop named) := by
  intro session record hget handle hmem
  rw [get?_drop] at hget
  split at hget
  · cases hget
  · exact .inl ⟨record, hget, hmem⟩

theorem inherits_reset : Inherits found table (table.reset named) := by
  intro session record hget handle hmem
  rw [get?_reset] at hget
  split at hget
  · obtain ⟨before, -, rfl⟩ := Option.map_eq_some_iff.mp hget
    cases hmem
  · exact .inl ⟨record, hget, hmem⟩

end SessionTable

namespace Kms

variable {C T N : Type} {kms after : Kms C T N} {request : Request} {events : List KmsEvent}
  {session : SessionHandle} {handle : ObjectHandle} {layout : ObjectLayout} {embedded : List Bytes}

/-- A search finds a handle. -/
def Finds (kms : Kms C T N) (handle : ObjectHandle) : Prop :=
  ∃ template, handle ∈ kms.matching template

/-- What a search finds is an object of the enclave that is not latched. -/
theorem Finds.of (h : kms.Finds handle) :
    (kms.layout.classify handle).isLocal = true ∧ kms.latches.isKeyLocked handle = false := by
  obtain ⟨template, hmem⟩ := h
  have hvisible := (List.mem_filter.mp hmem).2
  cases hlookup : kms.lookup handle with
  | none =>
    rw [hlookup] at hvisible
    cases hvisible
  | some object =>
    refine ⟨isLocal_of_lookup hlookup, Bool.eq_false_iff.mpr fun hlatch => ?_⟩
    rw [lookup, if_pos hlatch] at hlookup
    cases hlookup

/-- A handle is among those that the search of a session has left to hand out. -/
def IsLeft (kms : Kms C T N) (session : SessionHandle) (handle : ObjectHandle) : Prop :=
  ∃ left, kms.IsSearching session left ∧ handle ∈ left

/-- Only a session in a search has results. -/
theorem isLeft_of_pending (hsound : kms.IsSound layout embedded) {record : Session}
    (hget : kms.sessions.sessions.get? session = some record) (hmem : handle ∈ record.pending) :
    kms.IsLeft session handle := by
  refine ⟨record.pending, ⟨record, hget, ?_, rfl⟩, hmem⟩
  by_contra hstate
  rw [Session.pending, (hsound.session session record hget).found_eq hstate] at hmem
  simp at hmem

variable [CryptoProvider C] [ExternalToken T] [NvmStorage N]

omit [ExternalToken T] [NvmStorage N] in
theorem inherits_concluded {found : ObjectHandle → Prop} (kms : Kms C T N) (session : SessionHandle)
    (isEnded : Bool) : kms.sessions.Inherits found (kms.concluded session isEnded).sessions := by
  cases isEnded with
  | true => exact SessionTable.inherits_reset
  | false => exact SessionTable.inherits_of_same rfl

/-- A request adds to what sessions have left only what a search finds. -/
theorem Effect.inherits (h : kms.Effect request after events) :
    kms.sessions.Inherits kms.Finds after.sessions := by
  cases h with
  | nothing | asked | notBegun | stored | made | installed | latchedKeys | latchedServices =>
    exact SessionTable.inherits_of_same rfl
  | raised hup => exact SessionTable.inherits_of_same (SessionTable.sessions_bringUp hup)
  | lowered hnesting =>
    exact SessionTable.inherits_of_same (SessionTable.sessions_bringDown hnesting)
  | cameUp | stayedDown | wentDown => exact SessionTable.inherits_of_empty rfl
  | opened hup hfree | openedOnToken hup hfree =>
    exact SessionTable.inherits_put (PerSession.index?_isSome_of_firstFree? hfree)
      fun _ hmem => by cases hmem
  | closed => exact SessionTable.inherits_drop
  | searchBegun hsession =>
    have hget := (requireSession_eq_ok.mp hsession).2
    exact SessionTable.inherits_put (PerSession.index?_isSome_of_get? hget)
      fun _ hmem => .inr ⟨_, List.mem_of_mem_take hmem⟩
  | @paged session objects count record hsession =>
    have hget := (requireSession_eq_ok.mp hsession).2
    refine SessionTable.inherits_put (PerSession.index?_isSome_of_get? hget)
      fun handle hmem => .inl ⟨record, hget, ?_⟩
    rw [record.pending_paged] at hmem
    exact List.mem_of_mem_drop hmem
  | searchEnded => exact SessionTable.inherits_reset
  | began _ hsession | beganOnToken _ hsession =>
    exact SessionTable.inherits_put_same (requireSession_eq_ok.mp hsession).2 rfl
  | stepLatched => exact inherits_concluded kms _ true
  | stepped op => exact inherits_concluded (kms.afterProvider op) _ _
  | @steppedOnToken _ session _ _ tokenOp _ _ _ _ _ _ _ isTold isEnded =>
    have hended : SessionTable.Inherits kms.Finds _ _ :=
      inherits_concluded (kms.told isTold tokenOp) session isEnded
    rwa [told_sessions] at hended

omit [CryptoProvider C] [NvmStorage N] in
/-- A page that is turned holds what the search had left. -/
theorem findObjects_hands_out (hlacks : kms.tokenImplements .findObjects = false) (capacity : Nat) :
    (findObjects session capacity : Step C T N Answer).Ends kms fun outcome =>
      ∀ answer, outcome.answer = .ok answer → ∃ page left,
        answer.outputs = .objects (some page.length) page ∧ kms.IsSearching session left ∧
          page ⊆ left := by
  refine Ends.bind_get (Ends.bind_ofExcept (fun _ _ _ h => by cases h) fun record hsession => ?_)
  refine Ends.failing (fun _ _ h => by cases h) fun _ => ?_
  rw [tokenSession_of_lacks hlacks]
  have hget := (requireSession_eq_ok.mp hsession).2
  refine Ends.bind_ofExcept (fun _ _ _ h => by cases h) fun turned hturned => ?_
  obtain ⟨page, sessions⟩ := turned
  obtain ⟨hstate, rfl, -⟩ := SessionTable.nextFound_eq_ok hget hturned
  refine Ends.bind_set (Ends.pure fun answer hanswer => ?_)
  cases hanswer
  exact ⟨_, record.pending, rfl, ⟨record, hget, hstate, rfl⟩, List.take_subset _ _⟩

/-- What is handed out to a session its search had left. -/
theorem isLeft_of_page (hlacks : kms.tokenImplements .findObjects = false) {call : Call}
    {objects : Buffer} {count : Address}
    (hrequest : call.request = .findObjects session objects count)
    (hmem : handle ∈ (kms.served call).page session) : kms.IsLeft session handle := by
  obtain ⟨reported, page, houtputs, hmem⟩ : ∃ reported page,
      (kms.answerTo call).outputs = .objects reported page ∧ handle ∈ page := by
    unfold Served.page at hmem
    split at hmem
    · next reported page houtputs =>
      split at hmem
      · exact ⟨reported, page, houtputs, hmem⟩
      · cases hmem
    · cases hmem
  rw [answerTo, hrequest] at houtputs
  cases hadmitted : kms.admitted call.word (.findObjects session objects count) with
  | error code =>
    rw [dispatch_of_refused hadmitted] at houtputs
    cases houtputs
    cases hmem
  | ok u =>
    refine dispatch_ends (fun answer _ _ => answer.outputs = .objects reported page →
      kms.IsLeft session handle) hadmitted ?_ houtputs
    refine (findObjects_hands_out hlacks objects.room).mono fun outcome h houtputs => ?_
    cases hanswer : outcome.answer with
    | error code =>
      rw [hanswer] at houtputs
      cases houtputs
      cases hmem
    | ok answer =>
      obtain ⟨handed, left, hpage, hsearching, hsubset⟩ := h answer hanswer
      rw [hanswer] at houtputs
      obtain ⟨-, rfl⟩ := Outputs.objects.inj (hpage.symm.trans houtputs)
      exact ⟨left, hsearching, hsubset hmem⟩

omit [CryptoProvider C] [ExternalToken T] [NvmStorage N] in
/-- A key that was latched is not found. A handle that can not be latched belongs to no object. -/
theorem not_finds_of_latched (hvalid : layout.validate = .ok ())
    (hsound : kms.IsSound layout embedded)
    (hlatched : handle.toNat < Limits.lockableKeys → kms.latches.isKeyLocked handle = true) :
    ¬kms.Finds handle := by
  intro hfinds
  obtain ⟨hlocal, hunlatched⟩ := hfinds.of
  rw [hsound.layout_eq] at hlocal
  obtain ⟨range, hrange, hcontains⟩ := ObjectLayout.contains_of_classify rfl
    (fun hunknown => by rw [hunknown] at hlocal; cases hlocal)
  have hlast := (ObjectLayout.isPlaced_of_range? hvalid hrange).2.2
  have hle : handle.toNat ≤ range.last.toNat :=
    (HandleRange.contains_iff.mp hcontains).2
  rw [hlatched (Nat.lt_of_le_of_lt hle hlast)] at hunlatched
  cases hunlatched

/-- What a search has left at the end of a run, and what no search finds in between, it had left all
the time. -/
theorem isLeft_of_prefix (hvalid : layout.validate = .ok ()) (hsound : kms.IsSound layout embedded)
    {calls : List Call} (hfinds : ∀ front, front <+: calls → ¬(kms.after front).Finds handle)
    (hleft : (kms.after calls).IsLeft session handle) :
    ∀ front, front <+: calls → (kms.after front).IsLeft session handle := by
  induction calls using List.reverseRecOn with
  | nil =>
    intro front hfront
    rwa [List.prefix_nil.mp hfront]
  | append_singleton calls call ih =>
    have hprefix : calls <+: calls ++ [call] := List.prefix_append calls [call]
    intro front hfront
    rcases List.prefix_concat_iff.mp hfront with rfl | hfront
    · exact hleft
    · refine ih (fun earlier hearlier => hfinds earlier (hearlier.trans hprefix)) ?_ front hfront
      obtain ⟨left, ⟨record, hget, -, rfl⟩, hmem⟩ := hleft
      rw [after_concat] at hget
      have hsound' : (kms.after calls).IsSound layout embedded :=
        after_of_effect (fun _ _ _ _ heffect => heffect.isSound hvalid) hsound calls
      rcases (next_effect _ call).inherits session record hget handle hmem with
        ⟨before, hbefore, hmem⟩ | hfound
      · exact isLeft_of_pending hsound' hbefore hmem
      · exact absurd hfound (hfinds calls hprefix)

/-- A request that latches keys leaves the sessions as they are. -/
theorem sessions_next_of_latches (hnull : kms.layout.classify noKey = .unknown) {lock : Call}
    (hlatches : (kms.served lock).Latches handle) :
    (kms.next lock).sessions.sessions = kms.sessions.sessions := by
  obtain ⟨keys, hkeys, -⟩ := hlatches
  have htable := (next_effect kms lock).onTable hnull
  rw [show lock.request = .lockKeys keys from hkeys] at htable
  generalize (kms.next lock).sessions = table at htable ⊢
  cases htable with
  | kept hsame => exact hsame
  | changed hnamed => cases hnamed

/-- After a key was latched it is handed out only by a search that had found it before, and that the
session has been in ever since. A search that begins later does not find it. -/
theorem latched_result_was_left {config : KmsConfig} {crypto : C} {token : T} {nvm : N}
    {start : Kms C T N} (hnew : Kms.new config crypto token nvm = .ok start) (before : List Call)
    {lock : Call} (hlatches : ((start.after before).served lock).Latches handle)
    (calls : List Call) (call : Call) {objects : Buffer} {count : Address}
    (hrequest : call.request = .findObjects session objects count)
    (hlacks : (((start.after before).next lock).after calls).tokenImplements .findObjects = false)
    (hmem : handle ∈ ((((start.after before).next lock).after calls).served call).page session) :
    (start.after before).IsLeft session handle ∧ ∀ front, front <+: calls →
      (((start.after before).next lock).after front).IsLeft session handle := by
  obtain ⟨hvalid, -⟩ := new_eq_ok hnew
  have hsound := isSound_after hnew before
  have hsound' : ((start.after before).next lock).IsSound config.layout config.embedded :=
    (next_effect _ lock).isSound hvalid hsound
  have hfinds (front : List Call) : ¬(((start.after before).next lock).after front).Finds handle :=
    not_finds_of_latched hvalid
      (after_of_effect (fun _ _ _ _ heffect => heffect.isSound hvalid) hsound' front)
      fun hhandle => (isKeyLocked_after hhandle _ front).mpr
        (.inl ((isKeyLocked_next hhandle _ lock).mpr (.inr hlatches)))
  have hstill := isLeft_of_prefix hvalid hsound' (fun front _ => hfinds front)
    (isLeft_of_page hlacks hrequest hmem)
  refine ⟨?_, hstill⟩
  obtain ⟨left, ⟨record, hget, hrecord⟩, hmem⟩ := hstill [] List.nil_prefix
  rw [after_nil, sessions_next_of_latches (hsound.classify_noKey hvalid) hlatches] at hget
  exact ⟨left, ⟨record, hget, hrecord⟩, hmem⟩

/-- A search that had found an object before it was latched. -/
theorem latched_object_was_left :
    let searching := searchedStart.after (beforeSearch ++
      [⟨FunctionId.findObjectsInit.word, .findObjectsInit 1 (templateOf [])⟩])
    let lock : Call := ⟨FunctionId.lockKeys.word, .lockKeys ⟨default, [5]⟩⟩
    (searching.served lock).Latches 5 ∧ searching.IsLeft 1 5 := by
  intro searching lock
  have hlatches : (searching.served lock).Latches 5 :=
    ⟨⟨default, [5]⟩, rfl, by decide +kernel, List.mem_singleton_self 5⟩
  have hnew : Kms.new searchedConfig NoCrypto.mk NoExternalToken.mk NoNvm.mk = .ok searchedStart :=
    rfl
  have hleft := latched_result_was_left hnew _ hlatches [askPage 1 1] (askPage 1 1) rfl rfl
    (by decide +kernel)
  exact ⟨hlatches, hleft.1⟩

/-- A key that was latched during a search is handed out afterwards. -/
theorem latched_object_is_handed_out :
    let searching := searchedStart.after (beforeSearch ++
      [⟨FunctionId.findObjectsInit.word, .findObjectsInit 1 (templateOf [])⟩])
    let lock : Call := ⟨FunctionId.lockKeys.word, .lockKeys ⟨default, [5]⟩⟩
    Kms.new searchedConfig NoCrypto.mk NoExternalToken.mk NoNvm.mk = .ok searchedStart ∧
      (searching.served lock).Latches 5 ∧
      (searching.next lock).latches.isKeyLocked 5 = true ∧
      (searching.next lock).answerTo (askPage 1 2) = ⟨.ok, .objects (some 2) [3, 5]⟩ :=
  ⟨rfl, ⟨⟨default, [5]⟩, rfl, by decide +kernel, List.mem_singleton_self 5⟩, by decide +kernel,
    by decide +kernel⟩

end Kms

end KeyEnclave
