import KeyEnclave.Proofs.Store.Sound
import KeyEnclave.Simulation.Storage

/-!
# What a store can be trusted with

Over any storage, and whatever the store was asked to do before, each object is found and listed
under its own handle, the lowest free handle is what it is said to be, and an object under a free
handle of persistent storage is refused only if storage refuses it.

## Main definitions

* `StoreCall` — a request to a store; `ObjectStore.afterCalls` — the store after several.
* `ObjectStore.Represents` — what holds of a store at any time.

## Main results

* `ObjectStore.afterCalls_keeps` — requests leave a store well-formed.
* `ObjectStore.IsSound.isSome_get?_iff` — what is found is what is listed.
* `ObjectStore.IsSound.freeHandle_eq_ok`, `freeHandle_eq_full` — which handle is free.
* `ObjectStore.IsSound.run_insert_cached`, `run_insert_volatile` — storing an object under a free
  handle.
* `ObjectStore.store_represents` — a store keeps its promises at any time.
-/

namespace KeyEnclave

open KeyEnclave.Action

/-- A request to an object store. -/
inductive StoreCall
  | load
  | release
  | insert (blob : Bytes)
  | installAll (blobs : List Bytes)
  | remove (handle : ObjectHandle)
  deriving DecidableEq, Repr

namespace Provenance

/-- Objects may be created in the range. -/
def IsWritable (provenance : Provenance) : Prop :=
  provenance = nvmStatic ∨ provenance = nvmDynamic ∨ provenance = vmDynamic

instance (provenance : Provenance) : Decidable provenance.IsWritable :=
  inferInstanceAs (Decidable (_ ∨ _))

end Provenance

namespace ObjectStore

variable {N : Type} {layout : ObjectLayout} {embedded : List Bytes} {store : ObjectStore N}
  {handle : ObjectHandle} {blob : Bytes}

-- ═══════════════════════════════════════════════════════════════════════════
-- Finding and listing
-- ═══════════════════════════════════════════════════════════════════════════

theorem isSome_find?_iff {p : ObjectHandle → Prop} {capacity : Nat} {objects : List StoredObject}
    (htable : StoredObject.IsTable p capacity objects) :
    ((StoredObject.find? objects handle).bind fun o => ObjectView.parse? o.blob).isSome = true ↔
      handle ∈ StoredObject.handles objects := by
  constructor
  · intro hsome
    by_contra hnot
    rw [StoredObject.find?_eq_none.mpr hnot] at hsome
    cases hsome
  · intro hmem
    by_contra hnone
    rw [Bool.not_eq_true, Option.isSome_eq_false_iff, Option.isNone_iff_eq_none] at hnone
    exact not_mem_of_get?_eq_none htable hnone hmem

theorem IsSound.isSome_get?_cached (h : store.IsSound layout embedded)
    (hplace : layout.IsPersistent handle) :
    (store.get? handle).isSome = true ↔ handle ∈ StoredObject.handles store.cached := by
  rw [get?, h.layout_eq]
  rcases hplace with hclass | hclass
  · rw [hclass]
    exact isSome_find?_iff h.cached
  · rw [hclass]
    exact isSome_find?_iff h.cached

theorem IsSound.isSome_get?_volatile (h : store.IsSound layout embedded)
    (hclass : layout.classify handle = .vmDynamic) :
    (store.get? handle).isSome = true ↔ handle ∈ StoredObject.handles store.volatile := by
  rw [get?, h.layout_eq, hclass]
  exact isSome_find?_iff h.volatile

theorem isSome_get?_embedded (hclass : store.layout.classify handle = .embedded) :
    (store.get? handle).isSome = true ↔ handle ∈ store.embeddedViews.map ObjectView.handle := by
  rw [get?, hclass]
  simp

theorem mem_cachedHandles {provenance : Provenance} : handle ∈ store.cachedHandles provenance ↔
    handle ∈ StoredObject.handles store.cached ∧ store.layout.classify handle = provenance := by
  simp [cachedHandles, StoredObject.handles]

/-- The handles in RAM are listed, and those of the embedded objects. -/
theorem IsSound.mem_handles (h : store.IsSound layout embedded) : handle ∈ store.handles ↔
    handle ∈ store.embeddedViews.map ObjectView.handle ∨
      handle ∈ StoredObject.handles store.cached ∨
        handle ∈ StoredObject.handles store.volatile := by
  have hplaced : handle ∈ StoredObject.handles store.cached →
      store.layout.classify handle = .nvmStatic ∨ store.layout.classify handle = .nvmDynamic := by
    intro hmem
    obtain ⟨object, hobject, rfl⟩ := List.mem_map.mp hmem
    rw [h.layout_eq]
    exact h.cached.placed object hobject
  simp only [handles, List.mem_append, mem_cachedHandles]
  constructor
  · rintro (((hmem | ⟨hmem, -⟩) | ⟨hmem, -⟩) | hmem)
    · exact .inl hmem
    · exact .inr (.inl hmem)
    · exact .inr (.inl hmem)
    · exact .inr (.inr hmem)
  · rintro (hmem | hmem | hmem)
    · exact .inl (.inl (.inl hmem))
    · rcases hplaced hmem with hclass | hclass
      · exact .inl (.inl (.inr ⟨hmem, hclass⟩))
      · exact .inl (.inr ⟨hmem, hclass⟩)
    · exact .inr hmem

/-- An object is found under a handle exactly if the handle is listed, as long as no embedded object
takes a handle of another range. -/
theorem IsSound.isSome_get?_iff (h : store.IsSound layout embedded)
    (hembedded : handle ∈ store.embeddedViews.map ObjectView.handle →
      layout.classify handle = .embedded) :
    (store.get? handle).isSome = true ↔ handle ∈ store.handles := by
  have hcached : handle ∈ StoredObject.handles store.cached → layout.IsPersistent handle := by
    intro hmem
    obtain ⟨object, hobject, rfl⟩ := List.mem_map.mp hmem
    exact h.cached.placed object hobject
  have hvolatile : handle ∈ StoredObject.handles store.volatile →
      layout.classify handle = .vmDynamic := by
    intro hmem
    obtain ⟨object, hobject, rfl⟩ := List.mem_map.mp hmem
    exact h.volatile.placed object hobject
  rw [h.mem_handles]
  by_cases hpersistent : layout.IsPersistent handle
  · rw [h.isSome_get?_cached hpersistent]
    refine ⟨fun hmem => .inr (.inl hmem), ?_⟩
    rintro (hmem | hmem | hmem)
    · rcases hpersistent with hclass | hclass
      · cases hclass.symm.trans (hembedded hmem)
      · cases hclass.symm.trans (hembedded hmem)
    · exact hmem
    · rcases hpersistent with hclass | hclass
      · cases hclass.symm.trans (hvolatile hmem)
      · cases hclass.symm.trans (hvolatile hmem)
  · have hnot : handle ∉ StoredObject.handles store.cached := fun hmem =>
      hpersistent (hcached hmem)
    by_cases hvm : layout.classify handle = .vmDynamic
    · rw [h.isSome_get?_volatile hvm]
      refine ⟨fun hmem => .inr (.inr hmem), ?_⟩
      rintro (hmem | hmem | hmem)
      · cases hvm.symm.trans (hembedded hmem)
      · exact absurd hmem hnot
      · exact hmem
    · have hnot' : handle ∉ StoredObject.handles store.volatile := fun hmem => hvm (hvolatile hmem)
      simp only [hnot, hnot', or_false]
      by_cases hclass : layout.classify handle = .embedded
      · exact isSome_get?_embedded (by rw [h.layout_eq]; exact hclass)
      · refine ⟨fun hsome => ?_, fun hmem => absurd (hembedded hmem) hclass⟩
        rw [get?, h.layout_eq] at hsome
        unfold ObjectLayout.IsPersistent at hpersistent
        cases hcase : layout.classify handle <;> simp_all

/-- An embedded blob that is as it should be is an object of the embedded range. -/
theorem exists_of_embeddedValid (hvalid : store.embeddedValid = true) {blob : Bytes}
    (hmem : blob ∈ store.embedded) : ∃ object, ObjectView.parse? blob = some object ∧
      store.layout.classify object.handle = .embedded := by
  have hplaced := List.all_eq_true.mp hvalid blob hmem
  cases hparse : ObjectView.parse? blob with
  | none =>
    rw [hparse] at hplaced
    cases hplaced
  | some object =>
    rw [hparse] at hplaced
    exact ⟨object, rfl, beq_iff_eq.mp hplaced⟩

/-- The handles of embedded objects that are as they should be are those of the embedded range. -/
theorem classify_of_embeddedValid (hvalid : store.embeddedValid = true)
    (hmem : handle ∈ store.embeddedViews.map ObjectView.handle) :
    store.layout.classify handle = .embedded := by
  obtain ⟨view, hview, rfl⟩ := List.mem_map.mp hmem
  obtain ⟨blob, hblob, hparse⟩ := List.mem_filterMap.mp hview
  obtain ⟨object, hobject, hclass⟩ := exists_of_embeddedValid hvalid hblob
  obtain rfl : view = object := Option.some.inj (hparse.symm.trans hobject)
  exact hclass

/-- An embedded object is found under its handle, as long as no two of them share one. -/
theorem get?_of_mem_embedded {view : ObjectView}
    (hclass : store.layout.classify view.handle = .embedded)
    (hdistinct : (store.embeddedViews.map ObjectView.handle).Nodup)
    (hmem : view ∈ store.embeddedViews) : store.get? view.handle = some view := by
  rw [get?, hclass]
  cases hfind : store.embeddedViews.find? fun other => other.handle == view.handle with
  | none => simpa using List.find?_eq_none.mp hfind view hmem
  | some found =>
    have hsame : found.handle = view.handle := by simpa using List.find?_some hfind
    exact congrArg some (List.inj_on_of_nodup_map hdistinct (List.mem_of_find?_eq_some hfind)
      hmem hsame)

-- ═══════════════════════════════════════════════════════════════════════════
-- Free handles
-- ═══════════════════════════════════════════════════════════════════════════

/-- The lowest free handle of a range, by what is found in the range. -/
theorem IsSound.freeHandle_eq (h : store.IsSound layout embedded) (hvalid : layout.validate = .ok ())
    {provenance : Provenance} {range : HandleRange} (hwritable : provenance.IsWritable)
    (hrange : layout.range? provenance = some range) :
    store.freeHandle provenance =
      match range.find? fun handle => (store.get? handle).isNone with
      | some handle => .ok handle
      | none => .error .full := by
  have hclass {handle : ObjectHandle} (hcontains : range.contains handle = true) :
      layout.classify handle = provenance :=
    ObjectLayout.classify_eq_of_contains hvalid hrange hcontains
  have hfind {objects : List StoredObject} (hobjects : ∀ handle, range.contains handle = true →
      ((store.get? handle).isSome = true ↔ handle ∈ StoredObject.handles objects)) :
      (range.find? fun handle => !StoredObject.holds objects handle) =
        range.find? fun handle => (store.get? handle).isNone := by
    refine HandleRange.find?_congr fun handle hcontains => ?_
    rw [← Option.not_isSome, Bool.eq_iff_iff.mpr
      ((hobjects handle hcontains).trans StoredObject.holds_iff.symm)]
  have hpersistent (hnvm : provenance = .nvmStatic ∨ provenance = .nvmDynamic) :
      (range.find? fun handle => !StoredObject.holds store.cached handle) =
        range.find? fun handle => (store.get? handle).isNone := by
    refine hfind fun handle hcontains => h.isSome_get?_cached ?_
    unfold ObjectLayout.IsPersistent
    rwa [hclass hcontains]
  rcases hwritable with rfl | rfl | rfl
  · rw [freeHandle, h.layout_eq, hrange, ← hpersistent (.inl rfl)]
    rfl
  · rw [freeHandle, h.layout_eq, hrange, ← hpersistent (.inr rfl)]
    rfl
  · rw [freeHandle, h.layout_eq, hrange,
      ← hfind fun handle hcontains => h.isSome_get?_volatile (hclass hcontains)]
    rfl

theorem IsSound.freeHandle_eq_ok (h : store.IsSound layout embedded)
    (hvalid : layout.validate = .ok ()) {provenance : Provenance} {range : HandleRange}
    (hwritable : provenance.IsWritable) (hrange : layout.range? provenance = some range) :
    store.freeHandle provenance = .ok handle ↔
      range.contains handle = true ∧ store.get? handle = none ∧
        ∀ other, range.contains other = true → other < handle →
          (store.get? other).isSome = true := by
  have hfind : store.freeHandle provenance = .ok handle ↔
      (range.find? fun handle => (store.get? handle).isNone) = some handle := by
    rw [h.freeHandle_eq hvalid hwritable hrange]
    cases range.find? fun handle => (store.get? handle).isNone <;> simp
  rw [hfind, HandleRange.find?_eq_some]
  simp

theorem IsSound.freeHandle_eq_full (h : store.IsSound layout embedded)
    (hvalid : layout.validate = .ok ()) {provenance : Provenance} {range : HandleRange}
    (hwritable : provenance.IsWritable) (hrange : layout.range? provenance = some range) :
    store.freeHandle provenance = .error .full ↔
      ∀ handle, range.contains handle = true → (store.get? handle).isSome = true := by
  have hfind : store.freeHandle provenance = .error .full ↔
      (range.find? fun handle => (store.get? handle).isNone) = none := by
    rw [h.freeHandle_eq hvalid hwritable hrange]
    cases range.find? fun handle => (store.get? handle).isNone <;> simp
  rw [hfind, HandleRange.find?_eq_none]
  simp

/-- Other ranges have no free handles, and neither has a provenance without a range. -/
theorem freeHandle_wrongRange {provenance : Provenance}
    (h : ¬provenance.IsWritable ∨ store.layout.range? provenance = none) :
    store.freeHandle provenance = .error .wrongRange := by
  rcases h with h | h
  · unfold Provenance.IsWritable at h
    cases provenance <;> first | rfl | simp at h
  · unfold freeHandle
    cases provenance <;> simp only [h] <;> rfl

/-- A free handle is one of the range it was asked for, and nothing is found under it. -/
theorem IsSound.of_freeHandle (h : store.IsSound layout embedded) (hvalid : layout.validate = .ok ())
    {provenance : Provenance} (hfree : store.freeHandle provenance = .ok handle) :
    provenance.IsWritable ∧ layout.classify handle = provenance ∧ store.get? handle = none := by
  by_cases hwritable : provenance.IsWritable
  · cases hrange : layout.range? provenance with
    | none =>
      rw [freeHandle_wrongRange (.inr (h.layout_eq ▸ hrange))] at hfree
      cases hfree
    | some range =>
      obtain ⟨hcontains, hget, -⟩ := (h.freeHandle_eq_ok hvalid hwritable hrange).mp hfree
      exact ⟨hwritable, ObjectLayout.classify_eq_of_contains hvalid hrange hcontains, hget⟩
  · rw [freeHandle_wrongRange (.inl hwritable)] at hfree
    cases hfree

-- ═══════════════════════════════════════════════════════════════════════════
-- Storing under a free handle
-- ═══════════════════════════════════════════════════════════════════════════

/-- As long as some persistent handle is free the cache has room. -/
theorem IsSound.length_cached_lt (h : store.IsSound layout embedded)
    (hvalid : layout.validate = .ok ()) (hplace : layout.IsPersistent handle)
    (hget : store.get? handle = none) : store.cached.length < Limits.cachedObjects := by
  have hplaced : ∀ object ∈ [(⟨handle, []⟩ : StoredObject)], layout.IsPersistent object.handle := by
    simpa using hplace
  have hnew : store.cached.findIdx? (fun o => o.handle == handle) = none :=
    StoredObject.findIdx?_eq_none.mpr (h.not_mem_cached hplace hget)
  have hroom := h.length_cacheAll_le hvalid hplaced
  simp only [StoredObject.cacheAll, StoredObject.cacheOne, List.foldl_cons, List.foldl_nil, hnew,
    List.length_append, List.length_singleton] at hroom
  omega

/-- A stored object is found under its handle. -/
theorem IsSound.get?_stored (h : store.IsSound layout embedded)
    (hplace : layout.IsPersistent handle) (hget : store.get? handle = none) (nvm : N) :
    ({ store with nvm := nvm, cached := store.cached ++ [⟨handle, blob⟩] } : ObjectStore N).get?
      handle = ObjectView.parse? blob := by
  have hnew : StoredObject.find? store.cached handle = none :=
    StoredObject.find?_eq_none.mpr (h.not_mem_cached hplace hget)
  have hfind : StoredObject.find? (store.cached ++ [⟨handle, blob⟩]) handle =
      some ⟨handle, blob⟩ := by
    rw [StoredObject.find?_append_new hnew, if_pos rfl]
  rw [get?, h.layout_eq]
  rcases hplace with hclass | hclass <;> simp [hclass, hfind]

theorem IsSound.get?_held (h : store.IsSound layout embedded)
    (hclass : layout.classify handle = .vmDynamic) (hget : store.get? handle = none) :
    ({ store with volatile := store.volatile ++ [⟨handle, blob⟩] } : ObjectStore N).get? handle =
      ObjectView.parse? blob := by
  have hnew : StoredObject.find? store.volatile handle = none :=
    StoredObject.find?_eq_none.mpr (h.not_mem_volatile hclass hget)
  have hfind : StoredObject.find? (store.volatile ++ [⟨handle, blob⟩]) handle =
      some ⟨handle, blob⟩ := by
    rw [StoredObject.find?_append_new hnew, if_pos rfl]
  rw [get?, h.layout_eq]
  simp [hclass, hfind]

variable [NvmStorage N]

/-- What becomes of an object that is to be written and cached: only storage can refuse it. -/
def storedUnder (store : ObjectStore N) (object : StoredObject) :
    Outcome (ObjectStore N) NvmExchange StoreError ObjectHandle :=
  let event := store.nvmEvent (writeOf object)
  let after := store.afterNvm (writeOf object)
  if event.isSuccess = true then
    ⟨.ok object.handle, { after with cached := store.cached ++ [object] }, [event]⟩
  else ⟨.error .writeFailed, after, [event]⟩

theorem IsSound.run_insert_cached (h : store.IsSound layout embedded)
    (hvalid : layout.validate = .ok ()) (hplace : layout.IsPersistent handle)
    (hget : store.get? handle = none) (hhandle : handleOf blob = .ok handle)
    (hlength : blob.length ≤ Limits.objectLength) :
    (insert blob).run store = store.storedUnder ⟨handle, blob⟩ := by
  have hroom := h.length_cached_lt hvalid hplace hget
  have hstored := @insertCached_ends N _ store handle blob
    (fun outcome => outcome = store.storedUnder ⟨handle, blob⟩)
    (fun error hfull => absurd (hfull hlength) (Nat.not_le.mpr hroom))
    (fun _ _ hsuccess => by rw [storedUnder, if_pos hsuccess])
    (fun _ _ hfailed => by rw [storedUnder, if_neg (by simp [hfailed])])
  show Ends (insert blob) store fun outcome => outcome = store.storedUnder ⟨handle, blob⟩
  unfold insert
  rw [hhandle]
  refine Ends.bind_pure (Ends.bind_get (Ends.failing (fun hsome => ?_) fun _ => ?_))
  · rw [hget] at hsome
    cases hsome
  · rw [h.layout_eq]
    rcases hplace with hclass | hclass
    · rw [hclass]
      exact hstored
    · rw [hclass]
      exact hstored

/-- A volatile object is stored as long as there is room. -/
theorem run_insert_volatile (hclass : store.layout.classify handle = .vmDynamic)
    (hget : store.get? handle = none) (hhandle : handleOf blob = .ok handle)
    (hlength : blob.length ≤ Limits.objectLength) :
    (insert blob).run store =
      if store.volatile.length < Limits.volatileObjects then
        ⟨.ok handle, { store with volatile := store.volatile ++ [⟨handle, blob⟩] }, []⟩
      else ⟨.error .full, store, []⟩ := by
  show Ends (insert blob) store fun outcome => outcome = _
  unfold insert pushVolatile
  rw [hhandle]
  refine Ends.bind_pure (Ends.bind_get (Ends.failing (fun hsome => ?_) fun _ => ?_))
  · rw [hget] at hsome
    cases hsome
  · rw [hclass, checkSize_eq_ok.mpr ⟨hlength, rfl⟩]
    refine Ends.bind_pure (Ends.bind (Ends.bind_get (Ends.failing (fun hfull => ?_) fun hroom => ?_)))
    · rw [if_neg (Nat.not_lt.mpr hfull)]
    · rw [if_pos (Nat.not_le.mp hroom)]
      rfl

/-- A volatile object is removed from RAM. -/
theorem run_remove_volatile (hclass : store.layout.classify handle = .vmDynamic)
    (hmem : handle ∈ StoredObject.handles store.volatile) :
    (remove handle).run store = ⟨.ok (), { store with
      volatile := StoredObject.removeSwapping store.volatile handle }, []⟩ := by
  show Ends (remove handle) store fun outcome => outcome = _
  unfold remove
  refine Ends.bind_get ?_
  rw [hclass]
  refine Ends.failing (fun hnone => ?_) fun _ => rfl
  rw [StoredObject.holds_iff.mpr hmem] at hnone
  cases hnone

/-- A cached object that was created at run time is removed unless storage refuses that. -/
theorem run_remove_cached (hclass : store.layout.classify handle = .nvmDynamic)
    (hmem : handle ∈ StoredObject.handles store.cached) :
    (remove handle).run store = match store.nvmReply (.remove handle) with
      | .ok () => ⟨.ok (), { store.afterNvm (.remove handle) with
          cached := StoredObject.removeSwapping store.cached handle },
        [store.nvmEvent (.remove handle)]⟩
      | .error _ => ⟨.error .writeFailed, store.afterNvm (.remove handle),
        [store.nvmEvent (.remove handle)]⟩ := by
  show Ends (remove handle) store fun outcome => outcome = _
  unfold remove
  refine Ends.bind_get ?_
  rw [hclass]
  refine Ends.failing (fun hnone => ?_) fun _ => bind_askNvm ?_
  · rw [StoredObject.holds_iff.mpr hmem] at hnone
    cases hnone
  · cases store.nvmReply (.remove handle) <;> rfl

/-- An object under a free handle is stored if there is room for a volatile one and storage takes a
persistent one, and is then found. -/
theorem IsSound.insert_free (h : store.IsSound layout embedded) (hvalid : layout.validate = .ok ())
    {provenance : Provenance} (hfree : store.freeHandle provenance = .ok handle)
    (hhandle : handleOf blob = .ok handle) (hlength : blob.length ≤ Limits.objectLength) :
    ((provenance = .vmDynamic → store.volatile.length < Limits.volatileObjects) →
      (∀ exchange ∈ ((insert blob).run store).journal, exchange.isSuccess = true) →
      ((insert blob).run store).answer = .ok handle) ∧
    ∀ stored, ((insert blob).run store).answer = .ok stored →
      stored = handle ∧ ((insert blob).run store).state.get? handle = ObjectView.parse? blob := by
  obtain ⟨hwritable, hclass, hget⟩ := h.of_freeHandle hvalid hfree
  by_cases hvolatile : provenance = .vmDynamic
  · subst hvolatile
    rw [run_insert_volatile (h.layout_eq ▸ hclass) hget hhandle hlength]
    by_cases hroom : store.volatile.length < Limits.volatileObjects
    · rw [if_pos hroom]
      refine ⟨fun _ _ => rfl, fun stored hstored => ⟨(Except.ok.inj hstored).symm, ?_⟩⟩
      exact h.get?_held hclass hget
    · rw [if_neg hroom]
      exact ⟨fun hthere => absurd (hthere rfl) hroom, fun _ hstored => by cases hstored⟩
  · have hplace : layout.IsPersistent handle := by
      unfold ObjectLayout.IsPersistent
      rw [hclass]
      exact hwritable.elim .inl fun hdynamic => .inr (hdynamic.resolve_right hvolatile)
    rw [h.run_insert_cached hvalid hplace hget hhandle hlength, storedUnder]
    by_cases hsuccess : (store.nvmEvent (writeOf ⟨handle, blob⟩)).isSuccess = true
    · rw [if_pos hsuccess]
      refine ⟨fun _ _ => rfl, fun stored hstored => ⟨(Except.ok.inj hstored).symm, ?_⟩⟩
      exact h.get?_stored hplace hget _
    · rw [if_neg hsuccess]
      exact ⟨fun _ hall => absurd (hall _ List.mem_cons_self) hsuccess,
        fun _ hstored => by cases hstored⟩

-- ═══════════════════════════════════════════════════════════════════════════
-- Any number of requests
-- ═══════════════════════════════════════════════════════════════════════════

/-- The store after a request, whether it failed or not. -/
def afterCall (store : ObjectStore N) : StoreCall → ObjectStore N
  | .load => (load.run store).state
  | .release => store.release
  | .insert blob => ((insert blob).run store).state
  | .installAll blobs => ((installAll blobs).run store).state
  | .remove handle => ((remove handle).run store).state

/-- The store after requests one after the other. -/
def afterCalls (store : ObjectStore N) (calls : List StoreCall) : ObjectStore N :=
  calls.foldl afterCall store

theorem afterCall_keeps (hvalid : layout.validate = .ok ()) (call : StoreCall)
    (h : store.IsSound layout embedded) : (store.afterCall call).IsSound layout embedded := by
  cases call with
  | load => exact load_keeps hvalid store h
  | release => exact h.release
  | insert blob => exact insert_keeps blob store h
  | installAll blobs => exact installAll_keeps blobs store h
  | remove handle => exact remove_keeps handle store h

/-- Requests leave a store well-formed. -/
theorem afterCalls_keeps (hvalid : layout.validate = .ok ()) (calls : List StoreCall)
    (h : store.IsSound layout embedded) : (store.afterCalls calls).IsSound layout embedded := by
  induction calls generalizing store with
  | nil => exact h
  | cons call calls ih => exact ih (afterCall_keeps hvalid call h)

/-- What holds of a store with a layout at any time. -/
structure Represents (layout : ObjectLayout) (store : ObjectStore N) : Prop where
  /-- At most 40 persistent objects are cached, each sound and under a handle of its own. -/
  cached : StoredObject.IsTable layout.IsPersistent 40 store.cached
  /-- At most 20 volatile objects are held, each sound and under a handle of its own. -/
  volatile : StoredObject.IsTable (layout.classify · = .vmDynamic) 20 store.volatile
  /-- Exactly the listed handles are found, those of embedded objects apart. -/
  listed : ∀ handle, handle ∉ store.embeddedViews.map ObjectView.handle →
    ((store.get? handle).isSome = true ↔ handle ∈ store.handles)
  /-- With well-placed embedded objects, exactly the listed handles are found. -/
  listedAll : store.embeddedValid = true →
    ∀ handle, (store.get? handle).isSome = true ↔ handle ∈ store.handles
  /-- A free handle is the lowest one of its range under which nothing is found. -/
  free : ∀ provenance range, provenance.IsWritable → layout.range? provenance = some range →
    ∀ handle, store.freeHandle provenance = .ok handle ↔
      range.contains handle = true ∧ store.get? handle = none ∧
        ∀ other, range.contains other = true → other < handle → (store.get? other).isSome = true
  /-- There is none when an object is found under every handle of the range. -/
  full : ∀ provenance range, provenance.IsWritable → layout.range? provenance = some range →
    (store.freeHandle provenance = .error .full ↔
      ∀ handle, range.contains handle = true → (store.get? handle).isSome = true)
  /-- No other range is searched for free handles. -/
  unsearched : ∀ provenance, ¬provenance.IsWritable ∨ layout.range? provenance = none →
    store.freeHandle provenance = .error .wrongRange
  /-- Only storage can refuse an object under a free handle of a persistent range. -/
  insertion : ∀ provenance handle blob, provenance = .nvmStatic ∨ provenance = .nvmDynamic →
    store.freeHandle provenance = .ok handle →
    (ObjectView.parse? blob).map ObjectView.handle = some handle → blob.length ≤ 512 →
    (insert blob).run store = store.storedUnder ⟨handle, blob⟩

theorem IsSound.represents (h : store.IsSound layout embedded) (hvalid : layout.validate = .ok ()) :
    store.Represents layout where
  cached := h.cached
  volatile := h.volatile
  listed _ hembedded := h.isSome_get?_iff fun hmem => absurd hmem hembedded
  listedAll hplaced _ := h.isSome_get?_iff fun hmem => by
    rw [← h.layout_eq]
    exact classify_of_embeddedValid hplaced hmem
  free _ _ hwritable hrange _ := h.freeHandle_eq_ok hvalid hwritable hrange
  full _ _ hwritable hrange := h.freeHandle_eq_full hvalid hwritable hrange
  unsearched _ hunsearched := freeHandle_wrongRange (h.layout_eq.symm ▸ hunsearched)
  insertion provenance handle blob hnvm hfree hparse hlength := by
    obtain ⟨-, hclass, hget⟩ := h.of_freeHandle hvalid hfree
    have hplace : layout.IsPersistent handle := by
      unfold ObjectLayout.IsPersistent
      rwa [hclass]
    exact h.run_insert_cached hvalid hplace hget (handleOf_eq_ok.mpr hparse) hlength

/-- Whatever a store with an accepted layout was asked to do and whatever its storage did, it keeps
its promises. -/
theorem store_represents (hvalid : layout.validate = .ok ()) (embedded : List Bytes) (nvm : N)
    (calls : List StoreCall) :
    ((ObjectStore.new layout embedded nvm).afterCalls calls).Represents layout :=
  (afterCalls_keeps hvalid calls (isSound_new layout embedded nvm)).represents hvalid

/-- A store that loaded one of two records, the other being kept under a wrong handle, and then held
an installed and a volatile object. -/
theorem half_loaded_store_represents :
    let blob (handle : ObjectHandle) : Bytes :=
      [ObjectFormat.version, ObjectFormat.configuration, 0, 0, handle].flatMap Bytes.ofWord
    let nvm : SimulatedNvm :=
      { records := [(30, recordOf ⟨30, blob 30⟩), (31, recordOf ⟨32, blob 32⟩)] }
    let store := (ObjectStore.new .standard [] nvm).afterCalls
      [.load, .installAll [blob 31], .insert (blob 50)]
    store.Represents .standard ∧ store.handles = [30, 31, 50] ∧
      store.freeHandle .nvmStatic = .ok 32 ∧ store.freeHandle .vmDynamic = .ok 51 :=
  ⟨store_represents (by decide) [] _ _, by decide +kernel, by decide +kernel, by decide +kernel⟩

end ObjectStore

end KeyEnclave
