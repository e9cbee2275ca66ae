import KeyEnclave.Proofs.Store.Rules
import KeyEnclave.Store.Install

/-!
# What an installation does

An installation has three passes over its objects: it counts the handles that the cache does not
have yet, writes the records, and updates the cache. Here each pass is given as a function of the
objects, and the operations on storage as a list.

## Main definitions

* `StoredObject.cacheAll` — the cache after objects were put into it.
* `ObjectStore.undoOf` — the operation that takes a write back.

## Main results

* `StoredObject.length_cacheAll` — the count says how long the cache becomes.
* `StoredObject.find?_cacheAll` — the cache holds the last object of each handle.
* `ObjectStore.persistAll_ends` — the writes are all made, or those before a failed one taken back.
* `ObjectStore.installAll_ends` — the outcomes of an installation.
-/

namespace KeyEnclave

open KeyEnclave.Action

namespace StoredObject

variable {cached objects : List StoredObject} {object : StoredObject} {handle : ObjectHandle}

/-- The cache with an object in the place of one with the same handle, or at the end. -/
def cacheOne (cached : List StoredObject) (object : StoredObject) : List StoredObject :=
  match cached.findIdx? fun o => o.handle == object.handle with
  | some i => cached.set i object
  | none => cached ++ [object]

/-- The cache after objects were put into it one after the other. -/
def cacheAll (cached objects : List StoredObject) : List StoredObject := objects.foldl cacheOne cached

/-- The objects of those blobs that serialise one. -/
def ofBlobs (blobs : List Bytes) : List StoredObject :=
  blobs.filterMap fun blob => (ObjectView.parse? blob).map fun view => ⟨view.handle, blob⟩

/-- The last object with a handle. -/
def last? (objects : List StoredObject) (handle : ObjectHandle) : Option StoredObject :=
  find? objects.reverse handle

theorem findIdx?_eq_none : cached.findIdx? (fun o => o.handle == handle) = none ↔
    handle ∉ handles cached := by
  rw [List.findIdx?_eq_none_iff]
  simp [handles]

theorem handles_cacheOne (cached : List StoredObject) (object : StoredObject) :
    handles (cacheOne cached object) =
      if object.handle ∈ handles cached then handles cached
      else handles cached ++ [object.handle] := by
  unfold cacheOne
  cases hi : cached.findIdx? fun o => o.handle == object.handle with
  | some i =>
    have hmem : object.handle ∈ handles cached := by
      by_contra h
      rw [findIdx?_eq_none.mpr h] at hi
      cases hi
    rw [if_pos hmem]
    exact handles_set hi
  | none =>
    rw [if_neg (findIdx?_eq_none.mp hi)]
    simp [handles]

theorem mem_handles_cacheOne : handle ∈ handles (cacheOne cached object) ↔
    handle ∈ handles cached ∨ handle = object.handle := by
  rw [handles_cacheOne]
  split
  · next hmem => exact ⟨.inl, fun h => h.elim id fun heq => heq ▸ hmem⟩
  · simp

theorem mem_handles_cacheAll : handle ∈ handles (cacheAll cached objects) ↔
    handle ∈ handles cached ∨ handle ∈ handles objects := by
  induction objects generalizing cached with
  | nil => simp [cacheAll, handles]
  | cons object objects ih =>
    show handle ∈ handles (cacheAll (cacheOne cached object) objects) ↔ _
    rw [ih, mem_handles_cacheOne]
    simp [handles, or_assoc, eq_comm]

theorem nodup_cacheOne (hnodup : (handles cached).Nodup) :
    (handles (cacheOne cached object)).Nodup := by
  rw [handles_cacheOne]
  split
  · exact hnodup
  · next hnew =>
    refine List.Nodup.append hnodup (List.nodup_singleton _) fun handle hmem hsingle => ?_
    rw [List.mem_singleton.mp hsingle] at hmem
    exact hnew hmem

theorem nodup_cacheAll (hnodup : (handles cached).Nodup) :
    (handles (cacheAll cached objects)).Nodup := by
  induction objects generalizing cached with
  | nil => exact hnodup
  | cons object objects ih => exact ih (nodup_cacheOne hnodup)

/-- Putting an object into a table makes a table, as long as there is room. -/
theorem IsTable.cacheOne {p : ObjectHandle → Prop} {capacity : Nat} (h : IsTable p capacity cached)
    (hplaced : p object.handle) (hsound : object.IsSound)
    (hroom : (cacheOne cached object).length ≤ capacity) :
    IsTable p capacity (cacheOne cached object) := by
  unfold StoredObject.cacheOne at hroom ⊢
  cases hi : cached.findIdx? fun o => o.handle == object.handle with
  | some i => exact h.set hplaced hsound hi
  | none =>
    rw [hi] at hroom
    simp only [List.length_append, List.length_singleton] at hroom
    exact h.append (findIdx?_eq_none.mp hi) hplaced hsound (Nat.lt_of_succ_le hroom)

theorem find?_cacheOne (hnodup : (handles cached).Nodup) :
    find? (cacheOne cached object) handle =
      if handle = object.handle then some object else find? cached handle := by
  unfold cacheOne
  cases hi : cached.findIdx? fun o => o.handle == object.handle with
  | some i => exact find?_set hnodup hi
  | none => exact find?_append_new (find?_eq_none.mpr (findIdx?_eq_none.mp hi))

theorem last?_cons : last? (object :: objects) handle =
    (last? objects handle).or (if object.handle = handle then some object else none) := by
  unfold last?
  rw [List.reverse_cons, find?_append_single]

theorem last?_eq_none : last? objects handle = none ↔ handle ∉ handles objects := by
  unfold last?
  rw [find?_eq_none]
  simp [handles]

theorem mem_of_last? (h : last? objects handle = some object) :
    object ∈ objects ∧ object.handle = handle := by
  obtain ⟨hmem, hhandle⟩ := mem_of_find? h
  exact ⟨List.mem_reverse.mp hmem, hhandle⟩

theorem find?_cacheAll (hnodup : (handles cached).Nodup) :
    find? (cacheAll cached objects) handle = (last? objects handle).or (find? cached handle) := by
  induction objects generalizing cached with
  | nil => rfl
  | cons object objects ih =>
    rw [last?_cons, Option.or_assoc]
    refine (ih (nodup_cacheOne hnodup)).trans (congrArg _ ?_)
    rw [find?_cacheOne hnodup]
    by_cases heq : handle = object.handle
    · simp [heq]
    · simp [heq, Ne.symm heq]

/-- Only the handles that were met or are cached matter for the count. -/
theorem addedCount_congr {cached' : List StoredObject} {seen seen' : List ObjectHandle}
    (h : ∀ handle, handle ∈ seen ∨ handle ∈ handles cached ↔
      handle ∈ seen' ∨ handle ∈ handles cached') :
    ObjectStore.addedCount cached seen objects = ObjectStore.addedCount cached' seen' objects := by
  induction objects generalizing seen seen' with
  | nil => rfl
  | cons object objects ih =>
    have hnew : (!seen.contains object.handle && !holds cached object.handle) =
        (!seen'.contains object.handle && !holds cached' object.handle) := by
      have hobject := h object.handle
      rw [Bool.eq_iff_iff]
      simp only [Bool.and_eq_true, Bool.not_eq_true', ← Bool.not_eq_true, holds_iff,
        List.contains_iff_mem, ← not_or, hobject]
    have hrest : ObjectStore.addedCount cached (object.handle :: seen) objects =
        ObjectStore.addedCount cached' (object.handle :: seen') objects :=
      ih fun handle => by simp only [List.mem_cons, or_assoc, h handle]
    simp only [ObjectStore.addedCount, hnew, hrest]

/-- The count of new handles is exact. -/
theorem length_cacheAll (cached objects : List StoredObject) :
    (cacheAll cached objects).length = cached.length + ObjectStore.addedCount cached [] objects := by
  induction objects generalizing cached with
  | nil => rfl
  | cons object objects ih =>
    have hrest : ObjectStore.addedCount (cacheOne cached object) [] objects =
        ObjectStore.addedCount cached [object.handle] objects :=
      addedCount_congr fun handle => by
        rw [mem_handles_cacheOne]
        simp [or_comm]
    have hlength : (cacheOne cached object).length =
        cached.length + if object.handle ∈ handles cached then 0 else 1 := by
      have h := congrArg List.length (handles_cacheOne cached object)
      split at h
      · next hmem =>
        rw [if_pos hmem]
        simpa [handles] using h
      · next hmem =>
        rw [if_neg hmem]
        simpa [handles] using h
    show (cacheAll (cacheOne cached object) objects).length = _
    rw [ih, hrest, hlength]
    by_cases hmem : object.handle ∈ handles cached
    · simp [ObjectStore.addedCount, holds_iff.mpr hmem, hmem]
    · have hholds : holds cached object.handle = false := by
        rw [← Bool.not_eq_true, holds_iff]
        exact hmem
      simp [ObjectStore.addedCount, hholds, hmem]
      omega

theorem length_cacheOne_le (cached : List StoredObject) (object : StoredObject)
    (objects : List StoredObject) :
    (cacheOne cached object).length ≤ (cacheAll cached (object :: objects)).length := by
  show _ ≤ (cacheAll (cacheOne cached object) objects).length
  rw [length_cacheAll]
  exact Nat.le_add_right ..

theorem IsTable.cacheAll {p : ObjectHandle → Prop} {capacity : Nat} (h : IsTable p capacity cached)
    (hplaced : ∀ object ∈ objects, p object.handle) (hsound : ∀ object ∈ objects, object.IsSound)
    (hroom : (cacheAll cached objects).length ≤ capacity) :
    IsTable p capacity (cacheAll cached objects) := by
  induction objects generalizing cached with
  | nil => exact h
  | cons object objects ih =>
    rw [List.forall_mem_cons] at hplaced hsound
    have hone := Nat.le_trans (length_cacheOne_le cached object objects) hroom
    exact ih (h.cacheOne hplaced.1 hsound.1 hone) hplaced.2 hsound.2 hroom

end StoredObject

namespace ObjectStore

variable {N : Type} {store : ObjectStore N} {layout : ObjectLayout}

/-- A blob is an object of the installed range, and small enough. -/
def IsInstallable (layout : ObjectLayout) (blob : Bytes) : Prop :=
  ∃ view, ObjectView.parse? blob = some view ∧ layout.classify view.handle = .nvmStatic ∧
    blob.length ≤ Limits.objectLength

/-- The checks before the first write let pass exactly the lists of installable blobs. -/
theorem checkInstall_eq_ok {blobs : List Bytes} {objects : List StoredObject} :
    checkInstall layout blobs = .ok objects ↔
      (∀ blob ∈ blobs, IsInstallable layout blob) ∧ objects = StoredObject.ofBlobs blobs := by
  induction blobs generalizing objects with
  | nil => simp [checkInstall, StoredObject.ofBlobs, eq_comm]
  | cons blob blobs ih =>
    rw [List.forall_mem_cons]
    constructor
    · intro h
      simp only [checkInstall, bind, Except.bind] at h
      cases hhandle : handleOf blob with
      | error e => rw [hhandle] at h; cases h
      | ok handle =>
        obtain ⟨view, hparse, rfl⟩ := Option.map_eq_some_iff.mp (handleOf_eq_ok.mp hhandle)
        simp only [hhandle] at h
        split at h
        · cases h
        · next hclass =>
          cases hobject : checkSize view.handle blob with
          | error e => simp only [hobject] at h; cases h
          | ok object =>
            obtain ⟨hlength, rfl⟩ := checkSize_eq_ok.mp hobject
            simp only [hobject] at h
            cases hrest : checkInstall layout blobs with
            | error e => rw [hrest] at h; cases h
            | ok rest =>
              simp only [hrest, pure, Except.pure, Except.ok.injEq] at h
              obtain ⟨hblobs, rfl⟩ := ih.mp hrest
              refine ⟨⟨⟨view, hparse, not_not.mp hclass, hlength⟩, hblobs⟩, ?_⟩
              rw [← h, StoredObject.ofBlobs, StoredObject.ofBlobs, List.filterMap_cons, hparse]
              rfl
    · rintro ⟨⟨⟨view, hparse, hclass, hlength⟩, hblobs⟩, rfl⟩
      have hhandle : handleOf blob = .ok view.handle := handleOf_eq_ok.mpr (by rw [hparse]; rfl)
      have hobject : checkSize view.handle blob = .ok ⟨view.handle, blob⟩ :=
        checkSize_eq_ok.mpr ⟨hlength, rfl⟩
      simp only [checkInstall, hhandle, hclass, hobject, ih.mpr ⟨hblobs, rfl⟩, bind, Except.bind,
        pure, Except.pure, ne_eq, not_true_eq_false, if_false, StoredObject.ofBlobs,
        List.filterMap_cons, hparse, Option.map_some]

/-- The objects of installable blobs are sound objects of the installed range. -/
theorem isSound_of_installable {blobs : List Bytes}
    (h : ∀ blob ∈ blobs, IsInstallable layout blob) :
    ∀ object ∈ StoredObject.ofBlobs blobs,
      object.IsSound ∧ layout.classify object.handle = .nvmStatic := by
  intro object hmem
  obtain ⟨blob, hblob, hobject⟩ := List.mem_filterMap.mp hmem
  obtain ⟨view, hparse, hclass, hlength⟩ := h blob hblob
  rw [hparse] at hobject
  obtain rfl := Option.some.inj hobject
  exact ⟨⟨hlength, by rw [hparse]; rfl⟩, hclass⟩

section Cache

variable {post : Outcome (ObjectStore N) NvmExchange StoreError Unit → Prop}

theorem cacheObject_ends {object : StoredObject}
    (hroom : (StoredObject.cacheOne store.cached object).length ≤ Limits.cachedObjects)
    (h : post ⟨.ok (), { store with cached := StoredObject.cacheOne store.cached object }, []⟩) :
    (cacheObject object).Ends store post := by
  refine Ends.bind_get ?_
  unfold StoredObject.cacheOne at hroom h
  cases hi : store.cached.findIdx? fun o => o.handle == object.handle with
  | some i =>
    rw [hi] at h
    exact h
  | none =>
    rw [hi] at hroom h
    simp only [List.length_append, List.length_singleton] at hroom
    exact Ends.of_run (run_pushCached store (Nat.lt_of_succ_le hroom)) h

/-- With room for the handles it adds, putting objects into the cache can not fail. -/
theorem cacheAll_ends {objects : List StoredObject}
    (hroom : (StoredObject.cacheAll store.cached objects).length ≤ Limits.cachedObjects)
    (h : post ⟨.ok (), { store with cached := StoredObject.cacheAll store.cached objects }, []⟩) :
    Ends (objects.forM cacheObject) store post := by
  induction objects generalizing store with
  | nil => exact h
  | cons object objects ih =>
    have hone := Nat.le_trans (StoredObject.length_cacheOne_le store.cached object objects) hroom
    exact Ends.bind (cacheObject_ends hone (ih hroom h))

end Cache

variable [NvmStorage N]

/-- The operation that takes back the write of an object: the record of the cached object with its
handle is written again, or the record is removed. -/
def undoOf (cached : List StoredObject) (object : StoredObject) : NvmOp :=
  match StoredObject.find? cached object.handle with
  | some previous => writeOf previous
  | none => .remove object.handle

/-- Taking back a write is one exchange with storage, of which a failure is passed over. -/
theorem rollBackOne_ends {object : StoredObject}
    {post : Outcome (ObjectStore N) NvmExchange StoreError Unit → Prop}
    (hsound : ∀ o ∈ store.cached, o.IsSound)
    (h : post ⟨.ok (), store.afterNvm (undoOf store.cached object),
      [store.nvmEvent (undoOf store.cached object)]⟩) :
    (rollBackOne object).Ends store post := by
  refine Ends.bind_get ?_
  unfold undoOf at h
  cases hfind : StoredObject.find? store.cached object.handle with
  | none =>
    rw [hfind] at h
    exact bind_askNvm (Ends.pure h)
  | some previous =>
    rw [hfind] at h
    have hprevious := hsound previous (StoredObject.mem_of_find? hfind).1
    exact Ends.bind_attempt (Ends.of_run (run_persist store hprevious.1) (Ends.pure h))

theorem rollBack_ends {written : List StoredObject}
    {post : Outcome (ObjectStore N) NvmExchange StoreError Unit → Prop}
    (hsound : ∀ o ∈ store.cached, o.IsSound)
    (h : post ⟨.ok (), store.afterAll (written.map (undoOf store.cached)),
      store.eventsOf (written.map (undoOf store.cached))⟩) :
    (rollBack written).Ends store post := by
  induction written generalizing store post with
  | nil => exact h
  | cons object written ih => exact Ends.bind (rollBackOne_ends hsound (ih hsound h))

/-- The operations on storage of an installation that fails to write an object after others were
written: those are taken back. -/
def failedOps (cached done : List StoredObject) (object : StoredObject)
    (written : List StoredObject) : List NvmOp :=
  done.map writeOf ++ writeOf object :: (written ++ done).map (undoOf cached)

theorem eventsOf_failedOps (store : ObjectStore N) (done : List StoredObject)
    (object : StoredObject) :
    store.eventsOf (failedOps store.cached done object []) =
      store.eventsOf (done.map writeOf) ++
        (store.afterAll (done.map writeOf)).nvmEvent (writeOf object) ::
        ((store.afterAll (done.map writeOf)).afterNvm (writeOf object)).eventsOf
          (done.map (undoOf store.cached)) := by
  rw [failedOps, eventsOf_append]
  rfl

/-- The records are all written, or those written before a failed write are taken back. -/
theorem persistAll_ends {written objects : List StoredObject}
    {post : Outcome (ObjectStore N) NvmExchange StoreError Unit → Prop}
    (hcached : ∀ o ∈ store.cached, o.IsSound) (hsound : ∀ o ∈ objects, o.IsSound)
    (hok : (∀ event ∈ store.eventsOf (objects.map writeOf), event.isSuccess = true) →
      post ⟨.ok (), store.afterAll (objects.map writeOf), store.eventsOf (objects.map writeOf)⟩)
    (hfailed : ∀ done object rest, objects = done ++ object :: rest →
      (∀ event ∈ store.eventsOf (done.map writeOf), event.isSuccess = true) →
      ((store.afterAll (done.map writeOf)).nvmEvent (writeOf object)).isSuccess = false →
      post ⟨.error .writeFailed, store.afterAll (failedOps store.cached done object written),
        store.eventsOf (failedOps store.cached done object written)⟩) :
    (persistAll written objects).Ends store post := by
  induction objects generalizing store written post with
  | nil => exact hok (fun _ h => by cases h)
  | cons object objects ih =>
    have hrun := run_persist store (hsound object List.mem_cons_self).1
    refine Ends.bind_attempt (Ends.of_run hrun ?_)
    cases hreply : store.nvmReply (writeOf object) with
    | ok u =>
      have hwritten : (store.nvmEvent (writeOf object)).isSuccess = true := by
        rw [isSuccess_write, hreply]
        rfl
      refine ih hcached (fun o ho => hsound o (List.mem_cons_of_mem _ ho)) (fun hall => ?_) ?_
      · exact hok (List.forall_mem_cons.mpr ⟨hwritten, hall⟩)
      · intro done failing rest hobjects hdone hfailing
        have hops : failedOps store.cached (object :: done) failing written =
            writeOf object :: failedOps store.cached done failing (written ++ [object]) := by
          simp [failedOps]
        have h := hfailed (object :: done) failing rest (congrArg (object :: ·) hobjects)
          (List.forall_mem_cons.mpr ⟨hwritten, hdone⟩) hfailing
        rw [hops] at h
        exact h
    | error error =>
      have hrefused : (store.nvmEvent (writeOf object)).isSuccess = false := by
        rw [isSuccess_write, hreply]
        rfl
      have hops : failedOps store.cached [] object written =
          writeOf object :: written.map (undoOf store.cached) := by
        simp [failedOps]
      have h := hfailed [] object objects rfl (fun _ h => by cases h) hrefused
      refine Ends.bind (rollBack_ends hcached (Ends.throw ?_))
      show post ⟨_, _, store.nvmEvent (writeOf object) :: (_ ++ [])⟩
      rw [hops] at h
      rw [List.append_nil]
      exact h

/-- An installation is refused before the first write, fails in a write and takes back those before
it, or writes and caches every object. -/
theorem installAll_ends {blobs : List Bytes}
    {post : Outcome (ObjectStore N) NvmExchange StoreError Unit → Prop}
    (hcached : ∀ o ∈ store.cached, o.IsSound)
    (hrefused : ∀ error, ((∀ blob ∈ blobs, IsInstallable store.layout blob) →
        Limits.cachedObjects <
          (StoredObject.cacheAll store.cached (StoredObject.ofBlobs blobs)).length) →
      post ⟨.error error, store, []⟩)
    (hfailed : ∀ done object rest, (∀ blob ∈ blobs, IsInstallable store.layout blob) →
      (StoredObject.cacheAll store.cached (StoredObject.ofBlobs blobs)).length ≤
        Limits.cachedObjects →
      StoredObject.ofBlobs blobs = done ++ object :: rest →
      (∀ event ∈ store.eventsOf (done.map writeOf), event.isSuccess = true) →
      ((store.afterAll (done.map writeOf)).nvmEvent (writeOf object)).isSuccess = false →
      post ⟨.error .writeFailed, store.afterAll (failedOps store.cached done object []),
        store.eventsOf (failedOps store.cached done object [])⟩)
    (hok : (∀ blob ∈ blobs, IsInstallable store.layout blob) →
      (StoredObject.cacheAll store.cached (StoredObject.ofBlobs blobs)).length ≤
        Limits.cachedObjects →
      (∀ event ∈ store.eventsOf ((StoredObject.ofBlobs blobs).map writeOf),
        event.isSuccess = true) →
      post ⟨.ok (), { store.afterAll ((StoredObject.ofBlobs blobs).map writeOf) with
        cached := StoredObject.cacheAll store.cached (StoredObject.ofBlobs blobs) },
        store.eventsOf ((StoredObject.ofBlobs blobs).map writeOf)⟩) :
    (installAll blobs).Ends store post := by
  refine Ends.bind_get (Ends.bind_ofExcept (fun error herror => hrefused _ fun hblobs => ?_)
    fun objects hobjects => ?_)
  · rw [checkInstall_eq_ok.mpr ⟨hblobs, rfl⟩] at herror
    cases herror
  · obtain ⟨hblobs, rfl⟩ := checkInstall_eq_ok.mp hobjects
    refine Ends.failing (fun hfull => hrefused _ fun _ => ?_) fun hroom => ?_
    · rwa [StoredObject.length_cacheAll]
    · rw [Nat.not_lt, ← StoredObject.length_cacheAll] at hroom
      refine Ends.bind (persistAll_ends hcached (fun o ho => (isSound_of_installable hblobs o ho).1)
        (fun hall => ?_) fun done object rest hsplit hdone hobject => ?_)
      · refine cacheAll_ends (by rwa [cached_afterAll]) ?_
        have h := hok hblobs hroom hall
        rw [← List.append_nil (store.eventsOf _)] at h
        rw [cached_afterAll]
        exact h
      · exact hfailed done object rest hblobs hroom hsplit hdone hobject

end ObjectStore

end KeyEnclave
