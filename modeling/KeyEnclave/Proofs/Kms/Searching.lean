import KeyEnclave.Proofs.Kms.Frame
import KeyEnclave.Proofs.Store.Representation

/-!
# Searches

A search finds the objects that match when it begins, and hands them out page by page. What other
sessions do in the meantime, to the objects or to the latches, makes no difference to it.

## Main definitions

* `ObjectStore.objects` — the objects of a store, range by range.
* `Kms.sought` — the objects that a search is to find.
* `Kms.delivered` — the handles that a session was handed in a run.
* `Kms.IsSearching` — a session is in a search with some handles left.
* `Kms.TurnsPages` — a run in which the session does nothing but turn pages.
* `Kms.Pages` — what a search hands out.

## Main results

* `ObjectStore.get?_of_mem_objects` — every object is found under its handle.
* `Kms.matching_eq` — a search finds the objects that it is to find.
* `Kms.isSearching_after` — what was handed out and what is left is what was found.
* `Kms.search_pages` — the pages of a search are the first of the matching objects, in order.
-/

namespace KeyEnclave

open KeyEnclave.Action

/-- A page takes the first of the handles that are left. -/
theorem Session.pending_paged (record : Session) (room : Nat) :
    Session.pending { record with cursor := record.cursor + (record.pending.take room).length } =
      record.pending.drop room := by
  show record.found.drop (record.cursor + (record.pending.take room).length) = _
  rw [← List.drop_drop, List.length_take]
  show record.pending.drop (min room record.pending.length) = _
  rcases Nat.le_total room record.pending.length with hle | hle
  · rw [Nat.min_eq_left hle]
  · rw [Nat.min_eq_right hle, List.drop_length, List.drop_of_length_le hle]

/-- Whether a request is one of a search. -/
def Request.isSearch : Request → Bool
  | .findObjectsInit .. | .findObjects .. | .findObjectsFinal .. => true
  | _ => false

-- ═══════════════════════════════════════════════════════════════════════════
-- The objects of a store
-- ═══════════════════════════════════════════════════════════════════════════

/-- The objects of a table. -/
def StoredObject.views (objects : List StoredObject) : List ObjectView :=
  objects.filterMap fun object => ObjectView.parse? object.blob

theorem StoredObject.handle_views {objects : List StoredObject}
    (hsound : ∀ object ∈ objects, object.IsSound) :
    (views objects).map ObjectView.handle = handles objects := by
  induction objects with
  | nil => rfl
  | cons object objects ih =>
    obtain ⟨hhead, htail⟩ := List.forall_mem_cons.mp hsound
    obtain ⟨view, hview, hhandle⟩ := Option.map_eq_some_iff.mp hhead.2
    simp only [views, List.filterMap_cons, hview, List.map_cons, hhandle]
    exact congrArg _ (ih htail)

namespace ObjectStore

variable {N : Type} {layout : ObjectLayout} {embedded : List Bytes} {store : ObjectStore N}

/-- The cached objects of one range. -/
def cachedViews (store : ObjectStore N) (provenance : Provenance) : List ObjectView :=
  StoredObject.views
    (store.cached.filter fun object => store.layout.classify object.handle == provenance)

/-- The objects of a store, range by range. -/
def objects (store : ObjectStore N) : List ObjectView :=
  store.embeddedViews ++ store.cachedViews .nvmStatic ++ store.cachedViews .nvmDynamic ++
    StoredObject.views store.volatile

theorem IsSound.handle_cachedViews (h : store.IsSound layout embedded) (provenance : Provenance) :
    (store.cachedViews provenance).map ObjectView.handle = store.cachedHandles provenance := by
  rw [cachedViews, StoredObject.handle_views fun object hmem =>
    h.cached.sound object (List.mem_of_mem_filter hmem)]
  simp only [StoredObject.handles, cachedHandles, List.filter_map]
  rfl

/-- The objects of a store are listed under their handles. -/
theorem IsSound.handle_objects (h : store.IsSound layout embedded) :
    store.objects.map ObjectView.handle = store.handles := by
  simp only [objects, handles, List.map_append, h.handle_cachedViews,
    StoredObject.handle_views h.volatile.sound]
  rfl

theorem find?_of_mem_views {p : ObjectHandle → Prop} {capacity : Nat} {objects : List StoredObject}
    {view : ObjectView} (htable : StoredObject.IsTable p capacity objects)
    (hmem : view ∈ StoredObject.views objects) :
    p view.handle ∧ (StoredObject.find? objects view.handle).bind
      (fun object => ObjectView.parse? object.blob) = some view := by
  obtain ⟨object, hobject, hview⟩ := List.mem_filterMap.mp hmem
  have hnamed := (htable.sound object hobject).2
  rw [hview] at hnamed
  obtain hhandle : view.handle = object.handle := Option.some.inj hnamed
  rw [hhandle, StoredObject.find?_of_mem htable.nodup hobject]
  exact ⟨htable.placed object hobject, hview⟩

/-- Every object is found under its handle, as long as the embedded objects have distinct handles of
their own range. -/
theorem IsSound.get?_of_mem_objects (h : store.IsSound layout embedded)
    (hembedded : store.embeddedValid = true)
    (hdistinct : (store.embeddedViews.map ObjectView.handle).Nodup) {view : ObjectView}
    (hmem : view ∈ store.objects) : store.get? view.handle = some view := by
  have hcached {provenance : Provenance} (hview : view ∈ store.cachedViews provenance) :
      store.get? view.handle = some view := by
    have hcached : view ∈ StoredObject.views store.cached :=
      List.filter_sublist.filterMap _ |>.subset hview
    obtain ⟨hplace, hfind⟩ := find?_of_mem_views h.cached hcached
    rw [get?, h.layout_eq]
    rcases hplace with hclass | hclass
    · rw [hclass]
      exact hfind
    · rw [hclass]
      exact hfind
  simp only [objects, List.mem_append] at hmem
  rcases hmem with ((hview | hview) | hview) | hview
  · exact get?_of_mem_embedded (classify_of_embeddedValid hembedded (List.mem_map_of_mem hview))
      hdistinct hview
  · exact hcached hview
  · exact hcached hview
  · obtain ⟨hclass, hfind⟩ := find?_of_mem_views h.volatile hview
    rw [get?, h.layout_eq, hclass]
    exact hfind

end ObjectStore

namespace Kms

variable {C T N : Type} {kms : Kms C T N} {session : SessionHandle} {layout : ObjectLayout}
  {embedded : List Bytes}

/-- The handles of the objects that a search is to find: those that are not latched and have each
attribute of the template, the first of its type with the same value. -/
def sought (kms : Kms C T N) (template : Template) : List ObjectHandle :=
  (kms.store.objects.filter fun object =>
    !kms.latches.isKeyLocked object.handle && decide (object.Matches template)).map
      ObjectView.handle

/-- A search finds the objects that it is to find. -/
theorem matching_eq (hsound : kms.store.IsSound layout embedded)
    (hembedded : kms.store.embeddedValid = true)
    (hdistinct : (kms.store.embeddedViews.map ObjectView.handle).Nodup) (template : Template) :
    kms.matching template = kms.sought template := by
  rw [matching, ← hsound.handle_objects, List.filter_map, sought]
  congr 1
  refine List.filter_congr fun object hmem => ?_
  simp only [Function.comp_apply, lookup,
    hsound.get?_of_mem_objects hembedded hdistinct hmem]
  cases kms.latches.isKeyLocked object.handle <;> rfl

-- ═══════════════════════════════════════════════════════════════════════════
-- Requests of a search
-- ═══════════════════════════════════════════════════════════════════════════

/-- The functions of a search. -/
def searchFunctions : List FunctionId := [.findObjectsInit, .findObjects, .findObjectsFinal]

/-- A session is in a search, with some handles left to hand out. -/
def IsSearching (kms : Kms C T N) (session : SessionHandle) (left : List ObjectHandle) : Prop :=
  ∃ record, kms.sessions.sessions.get? session = some record ∧ record.state = .searching ∧
    record.pending = left

variable [CryptoProvider C] [ExternalToken T] [NvmStorage N]

/-- A search that is answered with `ok` begins with what is found. -/
theorem isSearching_of_begun (hlacks : kms.tokenImplements .findObjectsInit = false) {word : UInt32}
    {template : PlacedTemplate}
    (hok : (kms.answerTo ⟨word, .findObjectsInit session template⟩).code = .ok) :
    (kms.next ⟨word, .findObjectsInit session template⟩).IsSearching session
      ((kms.matching template.template).take Limits.search) := by
  refine ends_of_ok (fun _ after _ => after.IsSearching session
    ((kms.matching template.template).take Limits.search)) hok (codeOnly_ends ?_)
  refine Ends.bind_get (Ends.bind_ofExcept (fun code herror hcode => ?_) fun record hsession => ?_)
  · obtain rfl : code = .ok := hcode
    exact absurd herror requireSession_ne_error_ok
  rw [tokenSession_of_lacks hlacks]
  refine Ends.bind_ofExcept (fun code herror hcode => ?_) fun _ _ => ?_
  · obtain rfl : code = .ok := hcode
    exact absurd herror requireIdle_ne_error_ok
  have hget := (requireSession_eq_ok.mp hsession).2
  refine bind_updateSessions (SessionTable.update_eq_put _ hget) (Ends.pure fun _ => ?_)
  exact ⟨_, (SessionTable.get?_put hget).trans (if_pos rfl), rfl, List.drop_zero⟩

/-- A page holds as many of the handles that are left as there is room for. -/
theorem page_of_isSearching (hup : kms.sessions.isUp = true)
    (hlacks : kms.tokenImplements .findObjects = false) {left : List ObjectHandle}
    (hsearching : kms.IsSearching session left) {word : UInt32} {objects : Buffer} {count : Address}
    (hroom : 1 ≤ objects.room)
    (hadmitted : kms.admitted word (.findObjects session objects count) = .ok ()) :
    kms.answerTo ⟨word, .findObjects session objects count⟩ =
        ⟨.ok, .objects (some (min objects.room left.length)) (left.take objects.room)⟩ ∧
      (kms.next ⟨word, .findObjects session objects count⟩).IsSearching session
        (left.drop objects.room) := by
  obtain ⟨record, hget, hstate, rfl⟩ := hsearching
  refine dispatch_ends (fun answer after _ =>
    answer = ⟨.ok, .objects (some (min objects.room record.pending.length))
      (record.pending.take objects.room)⟩ ∧
      after.IsSearching session (record.pending.drop objects.room)) hadmitted ?_
  have hsession := requireSession_eq_ok.mpr ⟨hup, hget⟩
  have hturned : kms.sessions.nextFound session objects.room = _ := SessionTable.nextFound_eq hget
  rw [if_neg (not_not_intro hstate)] at hturned
  refine Ends.bind_get (Ends.bind_ok hsession (Ends.failing (fun hnone => ?_) fun _ => ?_))
  · omega
  rw [tokenSession_of_lacks hlacks]
  refine Ends.bind_ok hturned (Ends.bind_set (Ends.pure ⟨?_, ?_⟩))
  · rw [List.length_take]
    rfl
  · refine ⟨_, (SessionTable.get?_put hget).trans (if_pos rfl), hstate, ?_⟩
    exact record.pending_paged objects.room

/-- A request that does not name the session leaves its search as it is. -/
theorem isSearching_other (hnull : kms.layout.classify noKey = .unknown)
    (hup : kms.sessions.isUp = true) {call : Call} (hstays : (kms.next call).sessions.isUp = true)
    (hnamed : call.request.session? ≠ some session) {left : List ObjectHandle}
    (hsearching : kms.IsSearching session left) : (kms.next call).IsSearching session left := by
  obtain ⟨record, hget, hrecord⟩ := hsearching
  exact ⟨record,
    ((kms.next_effect call).onTable hnull).get?_other hup (fun _ => hstays) hnamed hget, hrecord⟩

-- ═══════════════════════════════════════════════════════════════════════════
-- Runs
-- ═══════════════════════════════════════════════════════════════════════════

/-- The token has none of the functions of a search at any time of a run. -/
def LacksSearch (kms : Kms C T N) (calls : List Call) : Prop :=
  ∀ front, front <+: calls → ∀ function ∈ searchFunctions,
    (kms.after front).tokenImplements function = false

/-- A run in which the library stays up, and a session does nothing but ask for pages with room for
a handle. -/
structure TurnsPages (kms : Kms C T N) (session : SessionHandle) (calls : List Call) : Prop where
  isUp : ∀ front, front <+: calls → (kms.after front).sessions.isUp = true
  turns : ∀ call ∈ calls, call.request.session? = some session → ∃ objects count,
    call.request = .findObjects session objects count ∧ 1 ≤ objects.room

theorem TurnsPages.of_prefix {calls front : List Call} (h : kms.TurnsPages session calls)
    (hfront : front <+: calls) : kms.TurnsPages session front :=
  ⟨fun earlier hearlier => h.isUp earlier (hearlier.trans hfront),
    fun call hmem => h.turns call (hfront.subset hmem)⟩

end Kms

/-- The handles that a served call handed out to a session. -/
def Served.page (session : SessionHandle) (served : Served) : List ObjectHandle :=
  match served.answer.outputs with
  | .objects _ page => if served.call.request.session? = some session then page else []
  | _ => []

namespace Kms

variable {C T N : Type} [CryptoProvider C] [ExternalToken T] [NvmStorage N] {kms : Kms C T N}
  {session : SessionHandle} {layout : ObjectLayout} {embedded : List Bytes}

/-- The handles that a session was handed in a run. -/
def delivered (kms : Kms C T N) (session : SessionHandle) (calls : List Call) :
    List ObjectHandle :=
  (kms.history calls).flatMap (Served.page session)

theorem delivered_concat (calls : List Call) (call : Call) :
    kms.delivered session (calls ++ [call]) =
      kms.delivered session calls ++ ((kms.after calls).served call).page session := by
  simp only [delivered, history_append, history, List.flatMap_append, List.flatMap_singleton]

theorem page_of_not_named {call : Call} (hnamed : call.request.session? ≠ some session) :
    (kms.served call).page session = [] := by
  unfold Served.page
  split
  · exact if_neg hnamed
  · rfl

/-- A page that is asked for is handed out, unless the call is refused for its function word. -/
theorem page_or_refused (hup : kms.sessions.isUp = true)
    (hlacks : kms.tokenImplements .findObjects = false) {left : List ObjectHandle}
    (hsearching : kms.IsSearching session left) {call : Call} {objects : Buffer} {count : Address}
    (hrequest : call.request = .findObjects session objects count) (hroom : 1 ≤ objects.room) :
    (kms.answerTo call = ⟨.ok, .objects (some (min objects.room left.length))
        (left.take objects.room)⟩ ∧ (kms.next call).IsSearching session (left.drop objects.room)) ∨
      (¬kms.Accepts call ∧ (∃ code, code ≠ .ok ∧ kms.answerTo call = ⟨code, .objects none []⟩) ∧
        kms.next call = kms) := by
  obtain ⟨word, request⟩ := call
  obtain rfl : request = .findObjects session objects count := hrequest
  cases hadmitted : kms.admitted word (.findObjects session objects count) with
  | ok u => exact .inl (page_of_isSearching hup hlacks hsearching hroom hadmitted)
  | error code =>
    right
    unfold answerTo next
    rw [dispatch_of_refused hadmitted]
    refine ⟨fun haccepts => ?_, ⟨code, ne_ok_of_refused hadmitted, rfl⟩, rfl⟩
    rw [haccepts.admitted] at hadmitted
    cases hadmitted

/-- A call hands out the first of the handles that are left, or none. -/
theorem isSearching_next (hnull : kms.layout.classify noKey = .unknown)
    (hup : kms.sessions.isUp = true) (hlacks : kms.tokenImplements .findObjects = false)
    {call : Call} (hstays : (kms.next call).sessions.isUp = true)
    (hturns : call.request.session? = some session → ∃ objects count,
      call.request = .findObjects session objects count ∧ 1 ≤ objects.room)
    {left : List ObjectHandle} (hsearching : kms.IsSearching session left) :
    ∃ rest, (kms.served call).page session ++ rest = left ∧
      (kms.next call).IsSearching session rest := by
  by_cases hnamed : call.request.session? = some session
  · obtain ⟨objects, count, hrequest, hroom⟩ := hturns hnamed
    have hpage {reported : Option Nat} {code : ReturnCode} {page : List ObjectHandle}
        (hanswer : kms.answerTo call = ⟨code, .objects reported page⟩) :
        (kms.served call).page session = page := by
      simp only [Served.page, served, hanswer]
      exact if_pos hnamed
    rcases page_or_refused hup hlacks hsearching hrequest hroom with
      ⟨hanswer, hnext⟩ | ⟨-, ⟨code, -, hanswer⟩, hnext⟩
    · exact ⟨left.drop objects.room, by rw [hpage hanswer, List.take_append_drop], hnext⟩
    · exact ⟨left, by rw [hpage hanswer, List.nil_append], by rwa [hnext]⟩
  · exact ⟨left, by rw [page_of_not_named hnamed, List.nil_append],
      isSearching_other hnull hup hstays hnamed hsearching⟩

/-- What was handed out and what is left is what was found. -/
theorem isSearching_after (hvalid : layout.validate = .ok ()) (hsound : kms.IsSound layout embedded)
    {found : List ObjectHandle} (hsearching : kms.IsSearching session found) {calls : List Call}
    (hlacks : kms.LacksSearch calls) (hrun : kms.TurnsPages session calls) :
    ∃ left, kms.delivered session calls ++ left = found ∧
      (kms.after calls).IsSearching session left := by
  induction calls using List.reverseRecOn with
  | nil => exact ⟨found, rfl, hsearching⟩
  | append_singleton calls call ih =>
    have hprefix : calls <+: calls ++ [call] := List.prefix_append calls [call]
    obtain ⟨left, hleft, hstill⟩ := ih (fun front hfront => hlacks front (hfront.trans hprefix))
      (hrun.of_prefix hprefix)
    have hsound' : (kms.after calls).IsSound layout embedded :=
      after_of_effect (fun _ _ _ _ heffect => heffect.isSound hvalid) hsound calls
    have hstays := hrun.isUp _ List.prefix_rfl
    rw [after_concat] at hstays
    obtain ⟨rest, hrest, hnext⟩ := isSearching_next (hsound'.classify_noKey hvalid)
      (hrun.isUp calls hprefix) (hlacks calls hprefix _ (by decide)) hstays
      (hrun.turns call (by simp)) hstill
    rw [delivered_concat, after_concat]
    exact ⟨rest, by rw [List.append_assoc, hrest, hleft], hnext⟩

/-- What a search that found `found` hands out in a run. -/
structure Pages (kms : Kms C T N) (session : SessionHandle) (found : List ObjectHandle)
    (calls : List Call) : Prop where
  /-- The pages one after the other are the first of what was found. -/
  delivered : kms.delivered session calls <+: found
  /-- A page holds as many handles as there is room for and are left, and nothing is written behind
  them. Only a call that is refused for its function word gets no page. -/
  page : ∀ front call rest objects count, calls = front ++ call :: rest →
    call.request = .findObjects session objects count →
    let left := found.drop (kms.delivered session front).length
    (kms.after front).answerTo call =
        ⟨.ok, .objects (some (min objects.room left.length)) (left.take objects.room)⟩ ∨
      ¬(kms.after front).Accepts call ∧
        ∃ code, code ≠ .ok ∧ (kms.after front).answerTo call = ⟨code, .objects none []⟩
  /-- An empty page comes only when everything was handed out. -/
  last : ∀ front call rest objects count written, calls = front ++ call :: rest →
    call.request = .findObjects session objects count →
    ((kms.after front).answerTo call).outputs = .objects (some 0) written →
      kms.delivered session front = found

/-- A search hands out what it found, page by page. -/
theorem pages_of_isSearching (hvalid : layout.validate = .ok ())
    (hsound : kms.IsSound layout embedded) {found : List ObjectHandle}
    (hsearching : kms.IsSearching session found) {calls : List Call}
    (hlacks : kms.LacksSearch calls) (hrun : kms.TurnsPages session calls) :
    kms.Pages session found calls := by
  have hpage {front rest : List Call} {call : Call} {objects : Buffer} {count : Address}
      (hcalls : calls = front ++ call :: rest)
      (hrequest : call.request = .findObjects session objects count) :
      ∃ left, kms.delivered session front ++ left = found ∧ 1 ≤ objects.room ∧
        ((kms.after front).answerTo call =
            ⟨.ok, .objects (some (min objects.room left.length)) (left.take objects.room)⟩ ∨
          ¬(kms.after front).Accepts call ∧
            ∃ code, code ≠ .ok ∧ (kms.after front).answerTo call = ⟨code, .objects none []⟩) := by
    have hprefix : front <+: calls := ⟨call :: rest, hcalls.symm⟩
    obtain ⟨left, hleft, hstill⟩ := isSearching_after hvalid hsound hsearching
      (fun earlier hearlier => hlacks earlier (hearlier.trans hprefix)) (hrun.of_prefix hprefix)
    obtain ⟨objects', count', hrequest', hroom⟩ := hrun.turns call (by simp [hcalls])
      (by rw [hrequest]; rfl)
    obtain ⟨-, rfl, rfl⟩ := Request.findObjects.inj (hrequest.symm.trans hrequest')
    refine ⟨left, hleft, hroom, ?_⟩
    rcases page_or_refused (hrun.isUp front hprefix) (hlacks front hprefix _ (by decide)) hstill
      hrequest hroom with ⟨hanswer, -⟩ | ⟨hrefused, hanswer, -⟩
    · exact .inl hanswer
    · exact .inr ⟨hrefused, hanswer⟩
  constructor
  case delivered =>
    obtain ⟨left, hleft, -⟩ := isSearching_after hvalid hsound hsearching hlacks hrun
    exact ⟨left, hleft⟩
  case page =>
    intro front call rest objects count hcalls hrequest
    obtain ⟨left, rfl, -, hanswer⟩ := hpage hcalls hrequest
    simpa only [List.drop_left] using hanswer
  case last =>
    intro front call rest objects count written hcalls hrequest houtputs
    obtain ⟨left, rfl, hroom, hanswer⟩ := hpage hcalls hrequest
    rcases hanswer with hanswer | ⟨-, code, -, hanswer⟩
    · rw [hanswer] at houtputs
      obtain ⟨hcount, -⟩ := Outputs.objects.inj houtputs
      have hnone : left.length = 0 := by
        have := Option.some.inj hcount
        omega
      rw [List.length_eq_zero_iff.mp hnone, List.append_nil]
    · rw [hanswer] at houtputs
      cases houtputs

/-- The embedded objects of an accepted configuration are as they should be. -/
theorem embeddedValid_after {config : KmsConfig} {crypto : C} {token : T} {nvm : N}
    {start : Kms C T N} (hnew : Kms.new config crypto token nvm = .ok start) (calls : List Call) :
    (start.after calls).store.embeddedValid = true := by
  have hsound := (isSound_after hnew calls).store
  have hembedded : (ObjectStore.new config.layout config.embedded nvm).embeddedValid = true := by
    simp only [new, (new_eq_ok hnew).1, bind, Except.bind] at hnew
    split at hnew
    · cases hnew
    · next hchecked => simpa using hchecked
  rw [ObjectStore.embeddedValid, hsound.embedded_eq, hsound.layout_eq]
  exact hembedded

/-- In a service whose embedded objects have distinct handles, the pages of a search are the first
of the objects that matched when it began, in the order of their ranges. Requests that do not name
the session and leave the library up make no difference, even if they create, destroy or latch
objects that were found. -/
theorem search_pages {config : KmsConfig} {crypto : C} {token : T} {nvm : N} {start : Kms C T N}
    (hnew : Kms.new config crypto token nvm = .ok start)
    (hdistinct : ((config.embedded.filterMap ObjectView.parse?).map ObjectView.handle).Nodup)
    (before : List Call) (word : UInt32) (template : PlacedTemplate) (calls : List Call)
    (hlacks : (start.after before).LacksSearch
      (⟨word, .findObjectsInit session template⟩ :: calls))
    (hbegun : ((start.after before).answerTo ⟨word, .findObjectsInit session template⟩).code = .ok)
    (hrun : ((start.after before).next ⟨word, .findObjectsInit session template⟩).TurnsPages
      session calls) :
    ((start.after before).next ⟨word, .findObjectsInit session template⟩).Pages session
      (((start.after before).sought template.template).take Limits.search) calls := by
  obtain ⟨hvalid, -⟩ := new_eq_ok hnew
  have hsound := isSound_after hnew before
  have hmatching : (start.after before).matching template.template =
      (start.after before).sought template.template := by
    refine matching_eq hsound.store (embeddedValid_after hnew before) ?_ _
    rw [ObjectStore.embeddedViews, hsound.store.embedded_eq]
    exact hdistinct
  rw [← hmatching]
  refine pages_of_isSearching hvalid ((next_effect _ _).isSound hvalid hsound)
    (isSearching_of_begun (hlacks [] (List.nil_prefix) _ (by decide)) hbegun) ?_ hrun
  intro front hfront function hmem
  exact hlacks (_ :: front) (List.cons_prefix_cons.mpr ⟨rfl, hfront⟩) function hmem

/-- Two objects without attributes are embedded. -/
def searchedConfig : KmsConfig where
  layout := .standard
  embedded := [3, 5].map fun handle =>
    [ObjectFormat.version, ObjectFormat.configuration, 0, 0, handle].flatMap Bytes.ofWord
  blobKeys := none

def searchedStart : Kms NoCrypto NoExternalToken NoNvm :=
  ⟨.allOpen, .down, ObjectStore.new .standard searchedConfig.embedded default, default, default,
    none⟩

/-- Two sessions are open, and the second one created an object. -/
def beforeSearch : List Call :=
  [⟨FunctionId.initialise.word, .initialise⟩,
    ⟨FunctionId.openSession.word, .openSession 0 SessionFlags.serialSession none default⟩,
    ⟨FunctionId.openSession.word, .openSession 0 SessionFlags.serialSession none default⟩,
    ⟨FunctionId.createObject.word, .createObject 2 (templateOf
      [(AttributeKind.objectClass, Bytes.ofWord ObjectClass.secretKey),
        (AttributeKind.keyType, Bytes.ofWord KeyKind.genericSecret)]) default⟩]

/-- A session asks for a page with room for some handles. -/
def askPage (session : SessionHandle) (room : Nat) : Call :=
  ⟨FunctionId.findObjects.word, .findObjects session ⟨default, room⟩ default⟩

/-- A search for all objects: another session destroys one of them between two pages. -/
theorem search_of_three :
    let searching := searchedStart.after beforeSearch
    let init : Call := ⟨FunctionId.findObjectsInit.word, .findObjectsInit 1 (templateOf [])⟩
    let calls := [askPage 1 1, ⟨FunctionId.destroyObject.word, .destroyObject 2 50⟩, askPage 1 5,
      askPage 1 2]
    (searching.answerTo init).code = .ok ∧ searching.sought [] = [3, 5, 50] ∧
      (searching.next init).Pages 1 ([3, 5, 50].take Limits.search) calls ∧
      (searching.next init).delivered 1 calls = [3, 5, 50] := by
  intro searching init calls
  have hbegun : (searching.answerTo init).code = .ok := by decide +kernel
  have hsought : searching.sought [] = [3, 5, 50] := by decide +kernel
  have hrun : (searching.next init).TurnsPages 1 calls := by
    constructor
    · intro front hfront
      have hup : ∀ front ∈ calls.inits,
          ((searching.next init).after front).sessions.isUp = true := by decide +kernel
      exact hup front ((List.mem_inits _ _).mpr hfront)
    · have hpage (room : Nat) (hroom : 1 ≤ room) : (askPage 1 room).request.session? = some 1 →
          ∃ objects count, (askPage 1 room).request = .findObjects 1 objects count ∧
            1 ≤ objects.room :=
        fun _ => ⟨⟨default, room⟩, default, rfl, hroom⟩
      simp only [calls, List.forall_mem_cons]
      exact ⟨hpage 1 (by decide), fun hnamed => absurd hnamed (by decide), hpage 5 (by decide),
        hpage 2 (by decide), List.forall_mem_nil _⟩
  have hnew : Kms.new searchedConfig NoCrypto.mk NoExternalToken.mk NoNvm.mk = .ok searchedStart :=
    rfl
  have hpages := search_pages hnew (by decide +kernel) beforeSearch
    FunctionId.findObjectsInit.word (templateOf []) calls (fun _ _ _ _ => rfl) hbegun hrun
  rw [show (templateOf []).template = [] from rfl, hsought] at hpages
  exact ⟨hbegun, hsought, hpages, by decide +kernel⟩

end Kms

end KeyEnclave
