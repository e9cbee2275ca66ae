import KeyEnclave.Proofs.Action.Ends
import KeyEnclave.Proofs.Handle.Layout
import KeyEnclave.Proofs.Record.RoundTrip
import KeyEnclave.Proofs.Store.Objects

/-!
# Rules for the steps of the store

What each step of the object store leaves behind, over any storage: everything it may do, with the
checks that were passed before.

## Main definitions

* `ObjectStore.afterNvm`, `ObjectStore.nvmReply`, `ObjectStore.nvmEvent` — one exchange with storage.
* `ObjectStore.writeOf` — the operation that writes the record of an object.
* `ObjectStore.objectOfReply` — the object that a read of its record yields.

## Main results

* `ObjectStore.insert_ends`, `remove_ends`, `loadHandle_ends` — the outcomes of a step.
-/

namespace KeyEnclave

open KeyEnclave.Action

namespace ObjectStore

variable {N : Type}

theorem run_pushCached (store : ObjectStore N) {object : StoredObject}
    (hroom : store.cached.length < Limits.cachedObjects) :
    (pushCached object).run store =
      ⟨.ok (), { store with cached := store.cached ++ [object] }, []⟩ := by
  unfold pushCached
  rw [run_bind, run_get]
  simp only [if_neg (Nat.not_le.mpr hroom)]
  rfl

variable [NvmStorage N] {store : ObjectStore N}

/-- The store after storage served an operation. -/
def afterNvm (store : ObjectStore N) (op : NvmOp) : ObjectStore N :=
  { store with nvm := (NvmStorage.serve op store.nvm).2 }

/-- What storage replies to an operation. -/
def nvmReply (store : ObjectStore N) (op : NvmOp) : op.Reply := (NvmStorage.serve op store.nvm).1

/-- The exchange with storage on an operation. -/
def nvmEvent (store : ObjectStore N) (op : NvmOp) : NvmExchange := ⟨op, store.nvmReply op⟩

/-- The store after storage served operations one after the other. -/
def afterAll (store : ObjectStore N) (ops : List NvmOp) : ObjectStore N := ops.foldl afterNvm store

/-- The exchanges with storage on operations one after the other. -/
def eventsOf (store : ObjectStore N) : List NvmOp → List NvmExchange
  | [] => []
  | op :: ops => store.nvmEvent op :: (store.afterNvm op).eventsOf ops

theorem afterAll_append (store : ObjectStore N) (ops rest : List NvmOp) :
    store.afterAll (ops ++ rest) = (store.afterAll ops).afterAll rest :=
  List.foldl_append

theorem eventsOf_append (store : ObjectStore N) (ops rest : List NvmOp) :
    store.eventsOf (ops ++ rest) = store.eventsOf ops ++ (store.afterAll ops).eventsOf rest := by
  induction ops generalizing store with
  | nil => rfl
  | cons op ops ih => exact congrArg (store.nvmEvent op :: ·) (ih (store.afterNvm op))

theorem map_fst_eventsOf (store : ObjectStore N) (ops : List NvmOp) :
    (store.eventsOf ops).map Sigma.fst = ops := by
  induction ops generalizing store with
  | nil => rfl
  | cons op ops ih => exact congrArg (op :: ·) (ih (store.afterNvm op))

/-- Storage is the only part of the store that operations on it change. -/
theorem afterAll_eq (store : ObjectStore N) (ops : List NvmOp) :
    store.afterAll ops = { store with nvm := (store.afterAll ops).nvm } := by
  induction ops generalizing store with
  | nil => rfl
  | cons op ops ih => exact ih (store.afterNvm op)

@[simp] theorem cached_afterAll (store : ObjectStore N) (ops : List NvmOp) :
    (store.afterAll ops).cached = store.cached := by rw [afterAll_eq]

@[simp] theorem volatile_afterAll (store : ObjectStore N) (ops : List NvmOp) :
    (store.afterAll ops).volatile = store.volatile := by rw [afterAll_eq]

/-- The operation that writes the record of an object. -/
abbrev writeOf (object : StoredObject) : NvmOp := .write object.handle (recordOf object)

end ObjectStore

theorem StoreError.code_ne_ok (error : StoreError) : error.code ≠ .ok := by
  cases error <;> decide

/-- Whether storage did what it was asked to do. -/
def NvmExchange.isSuccess : NvmExchange → Bool
  | ⟨.read .., .ok _⟩ | ⟨.write .., .ok _⟩ | ⟨.remove _, .ok _⟩ => true
  | ⟨.read .., .error _⟩ | ⟨.write .., .error _⟩ | ⟨.remove _, .error _⟩ => false

namespace ObjectStore

variable {N : Type} [NvmStorage N] {store : ObjectStore N}

theorem isSuccess_write (store : ObjectStore N) (key : UInt32) (data : Bytes) :
    (store.nvmEvent (.write key data)).isSuccess = (store.nvmReply (.write key data)).isOk := by
  unfold nvmEvent
  cases store.nvmReply (.write key data) <;> rfl

theorem isSuccess_remove (store : ObjectStore N) (key : UInt32) :
    (store.nvmEvent (.remove key)).isSuccess = (store.nvmReply (.remove key)).isOk := by
  unfold nvmEvent
  cases store.nvmReply (.remove key) <;> rfl

/-- The object that the reply to a read of its record yields. -/
def objectOfReply (handle : ObjectHandle) :
    Except NvmError (Option Bytes) → Except StoreError (Option StoredObject)
  | .error _ => .error .readFailed
  | .ok none => .ok none
  | .ok (some data) => objectOfRecord handle data

theorem bind_askNvm {α : Type} {op : NvmOp} {next : op.Reply → Step N α}
    {post : Outcome (ObjectStore N) NvmExchange StoreError α → Prop}
    (h : (next (store.nvmReply op)).Ends (store.afterNvm op) fun rest =>
      post (rest.after [store.nvmEvent op])) :
    (askNvm op >>= next).Ends store post :=
  Ends.bind_run rfl h

theorem handleOf_eq_ok {blob : Bytes} {handle : ObjectHandle} :
    handleOf blob = .ok handle ↔
      (ObjectView.parse? blob).map ObjectView.handle = some handle := by
  unfold handleOf
  cases ObjectView.parse? blob <;> simp

theorem checkSize_eq_ok {handle : ObjectHandle} {blob : Bytes} {object : StoredObject} :
    checkSize handle blob = .ok object ↔
      blob.length ≤ Limits.objectLength ∧ object = ⟨handle, blob⟩ := by
  unfold checkSize
  split
  · next h => simp [Nat.not_le.mpr h]
  · next h => simp [Nat.not_lt.mp h, eq_comm]

/-- The object found in a record is sound and has the handle that was asked for. -/
theorem isSound_of_objectOfRecord {handle : ObjectHandle} {data : Bytes} {object : StoredObject}
    (h : objectOfRecord handle data = .ok (some object)) :
    object.handle = handle ∧ object.IsSound := by
  unfold objectOfRecord at h
  split at h
  · cases h
  · next record rest _ =>
    split at h
    · cases h
    · split at h
      · cases h
      · next hnamed =>
        split at h
        · cases h
        · next hlength =>
          cases h
          exact ⟨rfl, Nat.not_lt.mp hlength, not_not.mp hnamed⟩

theorem isSound_of_objectOfReply {handle : ObjectHandle}
    {reply : Except NvmError (Option Bytes)} {object : StoredObject}
    (h : objectOfReply handle reply = .ok (some object)) :
    object.handle = handle ∧ object.IsSound := by
  rcases reply with error | _ | data
  · cases h
  · cases h
  · exact isSound_of_objectOfRecord h

/-- The record of a small object is always written, so only storage can refuse it. -/
theorem run_persist (store : ObjectStore N) {object : StoredObject}
    (hlength : object.blob.length ≤ Limits.objectLength) :
    (persist object).run store =
      ⟨(store.nvmReply (writeOf object)).mapError fun _ => .writeFailed,
        store.afterNvm (writeOf object), [store.nvmEvent (writeOf object)]⟩ := by
  have hends : (persist object).Ends store fun outcome => outcome =
      ⟨(store.nvmReply (writeOf object)).mapError fun _ => .writeFailed,
        store.afterNvm (writeOf object), [store.nvmEvent (writeOf object)]⟩ := by
    unfold persist
    rw [if_neg (Nat.not_lt.mpr (length_recordOf_le hlength))]
    refine bind_askNvm ?_
    cases store.nvmReply (.write object.handle (recordOf object)) with
    | ok u => exact Ends.pure rfl
    | error error => exact Ends.throw rfl
  exact hends

/-- What a read of its record yields for a handle is cached. -/
theorem loadHandle_eq (handle : ObjectHandle) : (loadHandle handle : Step N Unit) = (do
    let found ← Action.ofExcept (objectOfReply handle (← askNvm (.read handle recordRoom)))
    match found with
    | none => pure ()
    | some object => pushCached object) := by
  refine congrArg (askNvm (.read handle recordRoom) >>= ·) (funext fun reply => ?_)
  rcases reply with error | _ | data <;> rfl

/-- A step that reads a record and caches the object in it. -/
theorem loadHandle_ends {handle : ObjectHandle}
    {post : Outcome (ObjectStore N) NvmExchange StoreError Unit → Prop}
    (hnone : objectOfReply handle (store.nvmReply (.read handle recordRoom)) = .ok none →
      post ⟨.ok (), store.afterNvm (.read handle recordRoom),
        [store.nvmEvent (.read handle recordRoom)]⟩)
    (hsome : ∀ object,
      objectOfReply handle (store.nvmReply (.read handle recordRoom)) = .ok (some object) →
      store.cached.length < Limits.cachedObjects →
      post ⟨.ok (), { store.afterNvm (.read handle recordRoom) with
          cached := store.cached ++ [object] },
        [store.nvmEvent (.read handle recordRoom)]⟩)
    (herror : ∀ error, (store.cached.length < Limits.cachedObjects →
        ∃ e, objectOfReply handle (store.nvmReply (.read handle recordRoom)) = .error e) →
      post ⟨.error error, store.afterNvm (.read handle recordRoom),
        [store.nvmEvent (.read handle recordRoom)]⟩) :
    (loadHandle handle).Ends store post := by
  refine bind_askNvm ?_
  generalize store.nvmReply (.read handle recordRoom) = reply at hnone hsome herror ⊢
  rcases reply with error | _ | data
  · exact Ends.throw (herror _ fun _ => ⟨_, rfl⟩)
  · exact Ends.pure (hnone rfl)
  · refine Ends.bind_ofExcept (fun e he => herror _ fun _ => ⟨e, he⟩) fun found hfound => ?_
    cases found with
    | none => exact Ends.pure (hnone hfound)
    | some object =>
      refine Ends.bind_get (Ends.failing (fun hfull => herror _ fun h => ?_) fun hroom => ?_)
      · exact absurd hfull (Nat.not_le.mpr h)
      · exact hsome object hfound (Nat.not_le.mp hroom)

/-- Storing an object of a persistent range: there is no room for it, or it is written and cached. -/
theorem insertCached_ends {handle : ObjectHandle} {blob : Bytes}
    {post : Outcome (ObjectStore N) NvmExchange StoreError ObjectHandle → Prop}
    (hrefused : ∀ error, (blob.length ≤ Limits.objectLength →
      Limits.cachedObjects ≤ store.cached.length) → post ⟨.error error, store, []⟩)
    (hcached : blob.length ≤ Limits.objectLength → store.cached.length < Limits.cachedObjects →
      (store.nvmEvent (writeOf ⟨handle, blob⟩)).isSuccess = true →
      post ⟨.ok handle, { store.afterNvm (writeOf ⟨handle, blob⟩) with
          cached := store.cached ++ [⟨handle, blob⟩] },
        [store.nvmEvent (writeOf ⟨handle, blob⟩)]⟩)
    (hfailed : blob.length ≤ Limits.objectLength → store.cached.length < Limits.cachedObjects →
      (store.nvmEvent (writeOf ⟨handle, blob⟩)).isSuccess = false →
      post ⟨.error .writeFailed, store.afterNvm (writeOf ⟨handle, blob⟩),
        [store.nvmEvent (writeOf ⟨handle, blob⟩)]⟩) :
    (do
      let object ← Action.ofExcept (checkSize handle blob)
      if Limits.cachedObjects ≤ store.cached.length then throw .full
      persist object
      pushCached object
      pure handle : Step N ObjectHandle).Ends store post := by
  refine Ends.bind_ofExcept (fun error herror => hrefused error fun hlength => ?_)
    fun object hobject => ?_
  · rw [checkSize_eq_ok.mpr ⟨hlength, rfl⟩] at herror
    cases herror
  refine Ends.failing (fun hfull => hrefused _ fun _ => hfull) fun hroom => ?_
  rw [Nat.not_le] at hroom
  obtain ⟨hlength, rfl⟩ := checkSize_eq_ok.mp hobject
  have hrun := @run_persist N _ store ⟨handle, blob⟩ hlength
  cases hreply : store.nvmReply (writeOf ⟨handle, blob⟩) with
  | error error =>
    rw [hreply] at hrun
    refine Ends.bind (Ends.of_run hrun (hfailed hlength hroom ?_))
    rw [isSuccess_write, hreply]
    rfl
  | ok u =>
    rw [hreply] at hrun
    refine Ends.bind_run hrun (Ends.bind_run (run_pushCached _ hroom) ?_)
    refine Ends.pure (hcached hlength hroom ?_)
    rw [isSuccess_write, hreply]
    rfl

/-- Storing an object: it is refused, kept in RAM, or written and cached. -/
theorem insert_ends {blob : Bytes}
    {post : Outcome (ObjectStore N) NvmExchange StoreError ObjectHandle → Prop}
    (hrefused : ∀ error, post ⟨.error error, store, []⟩)
    (hvolatile : ∀ object : StoredObject, object.IsSound →
      store.layout.classify object.handle = .vmDynamic → store.get? object.handle = none →
      store.volatile.length < Limits.volatileObjects →
      post ⟨.ok object.handle, { store with volatile := store.volatile ++ [object] }, []⟩)
    (hcached : ∀ object : StoredObject, object.IsSound →
      store.layout.IsPersistent object.handle → store.get? object.handle = none →
      store.cached.length < Limits.cachedObjects →
      (store.nvmEvent (writeOf object)).isSuccess = true →
      post ⟨.ok object.handle,
        { store.afterNvm (writeOf object) with cached := store.cached ++ [object] },
        [store.nvmEvent (writeOf object)]⟩)
    (hfailed : ∀ object : StoredObject, object.IsSound →
      store.layout.IsPersistent object.handle →
      (store.nvmEvent (writeOf object)).isSuccess = false →
      post ⟨.error .writeFailed, store.afterNvm (writeOf object),
        [store.nvmEvent (writeOf object)]⟩) :
    (insert blob).Ends store post := by
  refine Ends.bind_ofExcept (fun _ _ => hrefused _) fun handle hhandle => Ends.bind_get ?_
  refine Ends.failing (fun _ => hrefused _) fun hfree => ?_
  rw [Bool.not_eq_true, Option.isSome_eq_false_iff, Option.isNone_iff_eq_none] at hfree
  have hpersistent (hplace : store.layout.IsPersistent handle) :=
    insertCached_ends (fun error _ => hrefused error)
      (fun hlength hroom => hcached ⟨handle, blob⟩ ⟨hlength, handleOf_eq_ok.mp hhandle⟩ hplace hfree
        hroom)
      (fun hlength _ => hfailed ⟨handle, blob⟩ ⟨hlength, handleOf_eq_ok.mp hhandle⟩ hplace)
  split
  · next hclass => exact hpersistent (.inl hclass)
  · next hclass => exact hpersistent (.inr hclass)
  · next hclass =>
    refine Ends.bind_ofExcept (fun _ _ => hrefused _) fun object hobject => ?_
    refine Ends.bind (Ends.bind_get (Ends.failing (fun _ => hrefused _) fun hroom => ?_))
    obtain ⟨hlength, rfl⟩ := checkSize_eq_ok.mp hobject
    exact hvolatile ⟨handle, blob⟩ ⟨hlength, handleOf_eq_ok.mp hhandle⟩ hclass hfree
      (Nat.not_le.mp hroom)
  all_goals exact Ends.bind_throw (hrefused _)

/-- Removing an object: it is refused, or the object is gone from RAM or from storage and cache. -/
theorem remove_ends {handle : ObjectHandle}
    {post : Outcome (ObjectStore N) NvmExchange StoreError Unit → Prop}
    (hrefused : ∀ error, post ⟨.error error, store, []⟩)
    (hvolatile : store.layout.classify handle = .vmDynamic →
      post ⟨.ok (), { store with
        volatile := StoredObject.removeSwapping store.volatile handle }, []⟩)
    (hcached : store.layout.classify handle = .nvmDynamic →
      (store.nvmEvent (.remove handle)).isSuccess = true →
      post ⟨.ok (), { store.afterNvm (.remove handle) with
          cached := StoredObject.removeSwapping store.cached handle },
        [store.nvmEvent (.remove handle)]⟩)
    (hfailed : (store.nvmEvent (.remove handle)).isSuccess = false →
      post ⟨.error .writeFailed, store.afterNvm (.remove handle),
        [store.nvmEvent (.remove handle)]⟩) :
    (remove handle).Ends store post := by
  refine Ends.bind_get ?_
  split
  · next hclass =>
    refine Ends.failing (fun _ => hrefused _) fun _ => bind_askNvm ?_
    cases hreply : store.nvmReply (.remove handle) with
    | error error =>
      refine Ends.throw (hfailed ?_)
      rw [isSuccess_remove, hreply]
      rfl
    | ok u =>
      refine hcached hclass ?_
      rw [isSuccess_remove, hreply]
      rfl
  · next hclass => exact Ends.failing (fun _ => hrefused _) fun _ => hvolatile hclass
  all_goals exact Ends.throw (hrefused _)

end ObjectStore

end KeyEnclave
