import KeyEnclave.Proofs.Kms.Run
import KeyEnclave.Proofs.Store.AllOrNothing

/-!
# What a request does to the object store

Of everything a request may do, the object store sees little: it is loaded when the library comes up
and released when it goes down, objects are stored and removed, and blobs are installed.

## Main definitions

* `Kms.StoreEffect` — what a request does to the store, with its exchanges with storage.

## Main results

* `Kms.Effect.onStore` — every effect is one of that.
* `Kms.StoreEffect.isSound` — it leaves a well-formed store well-formed.
-/

namespace KeyEnclave

/-- The exchange with storage that an exchange of the service is. -/
def KmsEvent.nvm? : KmsEvent → Option NvmExchange
  | .nvm exchange => some exchange
  | .token _ | .provider _ => none

namespace Kms

open KeyEnclave.Action

variable {C T N : Type}

theorem filterMap_nvm (journal : List NvmExchange) :
    (journal.map KmsEvent.nvm).filterMap KmsEvent.nvm? = journal := by
  induction journal with
  | nil => rfl
  | cons exchange journal ih => exact congrArg (exchange :: ·) ih

theorem mem_of_nvm? {events : List KmsEvent} {exchange : NvmExchange}
    (h : exchange ∈ events.filterMap KmsEvent.nvm?) : .nvm exchange ∈ events := by
  obtain ⟨event, hmem, hexchange⟩ := List.mem_filterMap.mp h
  cases event with
  | nvm found =>
    obtain rfl := Option.some.inj hexchange
    exact hmem
  | token | provider => cases hexchange

@[simp] theorem filterMap_toldEvents [ExternalToken T] (kms : Kms C T N) (isTold : Bool)
    (op : TokenOp) : (kms.toldEvents isTold op).filterMap KmsEvent.nvm? = [] := by
  cases isTold <;> rfl

@[simp] theorem filterMap_conclusion (session : SessionHandle) (isEnded : Bool) :
    (conclusion session isEnded).filterMap KmsEvent.nvm? = [] := by
  cases isEnded <;> rfl

variable [CryptoProvider C] [ExternalToken T] [NvmStorage N] {kms after : Kms C T N}
  {request : Request} {events : List KmsEvent}

/-- What a request does to the store of a library that was up or down before, and is afterwards. -/
inductive StoreEffect (store : ObjectStore N) :
    Request → Bool → Bool → ObjectStore N → List NvmExchange → Prop
  | untouched (request : Request) {wasUp isUp : Bool} (hup : isUp = wasUp) :
      StoreEffect store request wasUp isUp store []
  | loaded {isUp : Bool}
      (hup : isUp = true → (ObjectStore.load.run store).answer = .ok ()) :
      StoreEffect store .initialise false isUp (ObjectStore.load.run store).state
        (ObjectStore.load.run store).journal
  | released : StoreEffect store .finalise true false store.release []
  | changed (request : Request) {after : ObjectStore N} {journal : List NvmExchange}
      (hchanges : store.Changes after journal) :
      StoreEffect store request true true after journal
  | installed (header blob : Placed Bytes) (blobs : List Bytes) :
      StoreEffect store (.importBlob header blob) true true
        ((ObjectStore.installAll blobs).run store).state
        ((ObjectStore.installAll blobs).run store).journal

theorem Effect.onStore (h : kms.Effect request after events) :
    StoreEffect kms.store request kms.sessions.isUp after.sessions.isUp after.store
      (events.filterMap KmsEvent.nvm?) := by
  cases h with
  | nothing => exact .untouched _ rfl
  | asked => exact .untouched _ rfl
  | raised hup isTold =>
    rw [filterMap_toldEvents, told_store]
    exact .untouched _ ((SessionTable.isUp_bringUp hup).trans hup.symm)
  | cameUp hdown isTold hload =>
    rw [List.filterMap_append, filterMap_toldEvents, filterMap_nvm, hdown]
    exact .loaded fun _ => hload
  | stayedDown hdown isTold error hload =>
    rw [List.filterMap_append, filterMap_toldEvents, filterMap_nvm, hdown]
    exact .loaded fun h => by cases h
  | lowered hnesting isTold =>
    rw [filterMap_toldEvents, told_store]
    exact .untouched _ (SessionTable.isUp_bringDown hnesting)
  | wentDown hnesting isTold =>
    rw [List.filterMap_append, filterMap_toldEvents, SessionTable.isUp_of_nesting hnesting]
    exact .released
  | opened | openedOnToken => exact .untouched _ rfl
  | @closed session record _ isTold =>
    rw [List.filterMap_append, filterMap_toldEvents]
    have hstore := told_store kms isTold (.closeSession record.external)
    show StoreEffect _ _ _ _ (kms.told isTold (.closeSession record.external)).store _
    rw [hstore]
    exact .untouched _ rfl
  | searchBegun | paged => exact .untouched _ rfl
  | searchEnded => exact .untouched _ SessionTable.isUp_reset
  | began | notBegun | beganOnToken => exact .untouched _ rfl
  | stepLatched => exact .untouched _ SessionTable.isUp_reset
  | stepped op =>
    rw [List.filterMap_cons, filterMap_conclusion, concluded_store, isUp_concluded]
    exact .untouched _ rfl
  | steppedOnToken =>
    rw [List.filterMap_append, filterMap_toldEvents, filterMap_conclusion, concluded_store,
      isUp_concluded, told_store, told_sessions]
    exact .untouched _ rfl
  | stored _ hup hchanges =>
    rw [filterMap_nvm, hup]
    exact .changed _ hchanges
  | @made _ op store journal _ hup hchanges =>
    show StoreEffect kms.store request kms.sessions.isUp kms.sessions.isUp store
      ((journal.map KmsEvent.nvm).filterMap KmsEvent.nvm?)
    rw [filterMap_nvm, hup]
    exact .changed _ hchanges
  | installed blobs hup =>
    rw [filterMap_nvm, hup]
    exact .installed _ _ blobs
  | latchedKeys | latchedServices => exact .untouched _ rfl

theorem isSound_of_changes {layout : ObjectLayout} {embedded : List Bytes}
    {store changed : ObjectStore N} {journal : List NvmExchange}
    (hchanges : store.Changes changed journal) (h : store.IsSound layout embedded) :
    changed.IsSound layout embedded := by
  induction hchanges with
  | none => exact h
  | insert blob _ ih => exact ObjectStore.insert_keeps blob _ ih
  | remove handle _ ih => exact ObjectStore.remove_keeps handle _ ih

theorem StoreEffect.isSound {layout : ObjectLayout} {embedded : List Bytes}
    (hvalid : layout.validate = .ok ()) {store changed : ObjectStore N} {wasUp isUp : Bool}
    {journal : List NvmExchange} (heffect : StoreEffect store request wasUp isUp changed journal)
    (h : store.IsSound layout embedded) : changed.IsSound layout embedded := by
  cases heffect with
  | untouched => exact h
  | loaded => exact ObjectStore.load_keeps hvalid store h
  | released => exact h.release
  | changed _ hchanges => exact isSound_of_changes hchanges h
  | installed _ _ blobs => exact ObjectStore.installAll_keeps blobs store h

/-- An admitted `initialise` of a library that is down loads what is in storage. -/
theorem next_initialise {kms : Kms C T N} {call : Call} (hrequest : call.request = .initialise)
    (hadmitted : kms.admitted call.word call.request = .ok ())
    (hdown : kms.sessions.isUp = false) :
    (kms.next call).store = (ObjectStore.load.run kms.store).state ∧
      (kms.eventsOf call).filterMap KmsEvent.nvm? = (ObjectStore.load.run kms.store).journal ∧
      ((ObjectStore.load.run kms.store).answer = .ok () →
        (kms.next call).sessions.isUp = true) := by
  unfold next eventsOf
  rw [dispatch_of_admitted hadmitted, hrequest]
  show Ends (codeOnly bringUp) kms fun outcome =>
    outcome.state.store = (ObjectStore.load.run kms.store).state ∧
      outcome.journal.filterMap KmsEvent.nvm? = (ObjectStore.load.run kms.store).journal ∧
      ((ObjectStore.load.run kms.store).answer = .ok () → outcome.state.sessions.isUp = true)
  refine Ends.bind (bringUp_ends (fun hup => ?_) (fun _ _ isTold _ => ?_)
    fun _ error hload isTold _ => ?_)
  · rw [hdown] at hup
    cases hup
  · refine Ends.pure ⟨rfl, ?_, fun _ => rfl⟩
    simp only [Outcome.after, List.append_nil, List.filterMap_append, filterMap_toldEvents,
      filterMap_nvm, List.nil_append]
  · refine Ends.pure ⟨rfl, ?_, fun hok => ?_⟩
    · simp only [Outcome.after, List.append_nil, List.filterMap_append, filterMap_toldEvents,
        filterMap_nvm, List.nil_append]
    · rw [hload] at hok
      cases hok

end Kms

end KeyEnclave
