import KeyEnclave.Proofs.Store.Install
import Mathlib.Data.List.Perm.Subperm

/-!
# The store is well-formed

Over any storage, whatever it replies, RAM holds sound objects with distinct handles of the right
ranges, and no more of them than there is room for.

## Main definitions

* `ObjectStore.IsSound` — the invariant, for a layout and the embedded objects of the firmware.

## Main results

* `ObjectStore.isSound_new` — it holds at first.
* `ObjectStore.load_keeps`, `insert_keeps`, `remove_keeps`, `installAll_keeps` — every step keeps it.
* `ObjectStore.IsSound.handle_of_get?` — an object is found under the handle that it carries.
* `ObjectStore.IsSound.length_cacheAll_le` — the cache has room for every persistent object.
-/

namespace KeyEnclave.ObjectStore

open KeyEnclave.Action

variable {N : Type} {layout : ObjectLayout} {embedded : List Bytes} {store : ObjectStore N}

/-- The store is one of an enclave with the given layout and embedded objects, and what it holds in
RAM is as it should be. -/
structure IsSound (layout : ObjectLayout) (embedded : List Bytes) (store : ObjectStore N) :
    Prop where
  layout_eq : store.layout = layout
  embedded_eq : store.embedded = embedded
  cached : StoredObject.IsTable layout.IsPersistent Limits.cachedObjects store.cached
  volatile : StoredObject.IsTable (layout.classify · = .vmDynamic) Limits.volatileObjects
    store.volatile

theorem isSound_new (layout : ObjectLayout) (embedded : List Bytes) (nvm : N) :
    (ObjectStore.new layout embedded nvm).IsSound layout embedded :=
  ⟨rfl, rfl, .nil, .nil⟩

theorem IsSound.release (h : store.IsSound layout embedded) :
    store.release.IsSound layout embedded :=
  ⟨h.layout_eq, h.embedded_eq, .nil, .nil⟩

/-- An object is found under the handle that it carries. -/
theorem IsSound.handle_of_get? (h : store.IsSound layout embedded) {handle : ObjectHandle}
    {view : ObjectView} (hget : store.get? handle = some view) : view.handle = handle := by
  unfold get? at hget
  split at hget
  · simpa using List.find?_some hget
  · exact h.cached.handle_of_find? hget
  · exact h.cached.handle_of_find? hget
  · exact h.volatile.handle_of_find? hget
  all_goals cases hget

/-- Objects are found under handles of the enclave only. -/
theorem isLocal_of_get? {handle : ObjectHandle} {view : ObjectView}
    (hget : store.get? handle = some view) : (store.layout.classify handle).isLocal = true := by
  unfold get? at hget
  split at hget <;> next hrange => first | cases hget | rw [hrange]; rfl

/-- Every handle that an object is found under has a latch. -/
theorem IsSound.lockable_of_get? (h : store.IsSound layout embedded)
    (hvalid : layout.validate = .ok ()) {handle : ObjectHandle} {view : ObjectView}
    (hget : store.get? handle = some view) : handle.toNat < Limits.lockableKeys := by
  have hlocal := isLocal_of_get? hget
  rw [h.layout_eq] at hlocal
  refine ObjectLayout.lockable_of_classify hvalid fun hunknown => ?_
  rw [hunknown] at hlocal
  cases hlocal

/-- A sound object under a handle can be found there. -/
theorem not_mem_of_get?_eq_none {p : ObjectHandle → Prop} {capacity : Nat}
    {objects : List StoredObject} {handle : ObjectHandle}
    (htable : StoredObject.IsTable p capacity objects)
    (hget : ((StoredObject.find? objects handle).bind fun o => ObjectView.parse? o.blob) = none) :
    handle ∉ StoredObject.handles objects := by
  rw [← StoredObject.find?_eq_none]
  cases hfind : StoredObject.find? objects handle with
  | none => rfl
  | some found =>
    have hnamed := (htable.sound found (StoredObject.mem_of_find? hfind).1).2
    rw [hfind, Option.bind_some] at hget
    rw [hget] at hnamed
    cases hnamed

theorem IsSound.not_mem_cached (h : store.IsSound layout embedded) {handle : ObjectHandle}
    (hplace : layout.IsPersistent handle) (hget : store.get? handle = none) :
    handle ∉ StoredObject.handles store.cached := by
  rw [get?, h.layout_eq] at hget
  rcases hplace with hclass | hclass
  · rw [hclass] at hget
    exact not_mem_of_get?_eq_none h.cached hget
  · rw [hclass] at hget
    exact not_mem_of_get?_eq_none h.cached hget

theorem IsSound.not_mem_volatile (h : store.IsSound layout embedded) {handle : ObjectHandle}
    (hclass : layout.classify handle = .vmDynamic) (hget : store.get? handle = none) :
    handle ∉ StoredObject.handles store.volatile := by
  rw [get?, h.layout_eq, hclass] at hget
  exact not_mem_of_get?_eq_none h.volatile hget

/-- The cache has room for all persistent objects of an accepted layout at once. -/
theorem IsSound.length_cacheAll_le (h : store.IsSound layout embedded)
    (hvalid : layout.validate = .ok ()) {objects : List StoredObject}
    (hobjects : ∀ o ∈ objects, layout.IsPersistent o.handle) :
    (StoredObject.cacheAll store.cached objects).length ≤ Limits.cachedObjects := by
  have hnodup : (StoredObject.handles (StoredObject.cacheAll store.cached objects)).Nodup :=
    StoredObject.nodup_cacheAll h.cached.nodup
  have hsubset : StoredObject.handles (StoredObject.cacheAll store.cached objects) ⊆
      layout.nvmHandles := by
    intro handle hmem
    rw [ObjectLayout.mem_nvmHandles hvalid]
    rcases StoredObject.mem_handles_cacheAll.mp hmem with hmem | hmem
    · obtain ⟨o, ho, rfl⟩ := List.mem_map.mp hmem
      exact h.cached.placed o ho
    · obtain ⟨o, ho, rfl⟩ := List.mem_map.mp hmem
      exact hobjects o ho
  have hlength := (hnodup.subperm hsubset).length_le
  rw [StoredObject.handles, List.length_map] at hlength
  exact Nat.le_trans hlength (ObjectLayout.length_nvmHandles hvalid)

variable [NvmStorage N]

/-- What storage did plays no part. -/
theorem IsSound.afterAll (h : store.IsSound layout embedded) (ops : List NvmOp) :
    (store.afterAll ops).IsSound layout embedded := by
  rw [afterAll_eq]
  exact ⟨h.layout_eq, h.embedded_eq, h.cached, h.volatile⟩

theorem insert_keeps (blob : Bytes) : Keeps (IsSound layout embedded) (insert (N := N) blob) := by
  intro store h
  show Ends (insert blob) store fun outcome => outcome.state.IsSound layout embedded
  refine insert_ends (fun _ => h) ?_ ?_ fun object _ _ _ => h.afterAll [writeOf object]
  · intro object hsound hclass hget hroom
    rw [h.layout_eq] at hclass
    exact ⟨h.layout_eq, h.embedded_eq, h.cached,
      h.volatile.append (h.not_mem_volatile hclass hget) hclass hsound hroom⟩
  · intro object hsound hplace hget hroom _
    rw [h.layout_eq] at hplace
    exact ⟨h.layout_eq, h.embedded_eq,
      h.cached.append (h.not_mem_cached hplace hget) hplace hsound hroom, h.volatile⟩

theorem remove_keeps (handle : ObjectHandle) :
    Keeps (IsSound layout embedded) (remove (N := N) handle) := by
  intro store h
  show Ends (remove handle) store fun outcome => outcome.state.IsSound layout embedded
  refine remove_ends (fun _ => h) ?_ ?_ fun _ => h.afterAll [.remove handle]
  · intro _
    exact ⟨h.layout_eq, h.embedded_eq, h.cached, h.volatile.removeSwapping handle⟩
  · intro _ _
    exact ⟨h.layout_eq, h.embedded_eq, h.cached.removeSwapping handle, h.volatile⟩

/-- Loading distinct handles that are not cached yet. -/
theorem loadAll_keeps {handles : List ObjectHandle} (hnodup : handles.Nodup)
    (hplaced : ∀ handle ∈ handles, layout.IsPersistent handle)
    (hnew : ∀ handle ∈ handles, handle ∉ StoredObject.handles store.cached)
    (h : store.IsSound layout embedded) :
    Ends (handles.forM loadHandle) store fun outcome => outcome.state.IsSound layout embedded := by
  induction handles generalizing store with
  | nil => exact h
  | cons handle handles ih =>
    rw [List.nodup_cons] at hnodup
    rw [List.forall_mem_cons] at hplaced hnew
    refine Ends.bind (loadHandle_ends (fun _ => ?_) (fun object hobject hroom => ?_) fun _ _ => ?_)
    · exact ih hnodup.2 hplaced.2 hnew.2 (h.afterAll [.read handle recordRoom])
    · obtain ⟨rfl, hsound⟩ := isSound_of_objectOfReply hobject
      refine ih hnodup.2 hplaced.2 (fun other hother hmem => ?_)
        ⟨h.layout_eq, h.embedded_eq, h.cached.append hnew.1 hplaced.1 hsound hroom, h.volatile⟩
      rw [StoredObject.handles, List.map_append, List.mem_append] at hmem
      rcases hmem with hmem | hmem
      · exact hnew.2 other hother hmem
      · rw [List.map_singleton, List.mem_singleton] at hmem
        exact hnodup.1 (hmem ▸ hother)
    · exact h.afterAll [.read handle recordRoom]

theorem load_keeps (hvalid : layout.validate = .ok ()) :
    Keeps (IsSound layout embedded) (load (N := N)) := by
  intro store h
  obtain rfl := h.layout_eq
  show Ends load store fun outcome => outcome.state.IsSound store.layout embedded
  refine Ends.bind_modify (Ends.bind_get ?_)
  exact loadAll_keeps (ObjectLayout.nodup_nvmHandles hvalid)
    (fun _ => (ObjectLayout.mem_nvmHandles hvalid).mp) (fun _ _ hmem => by cases hmem)
    ⟨rfl, h.embedded_eq, .nil, h.volatile⟩

/-- Loading does not touch the volatile objects. -/
theorem load_volatile (store : ObjectStore N) :
    (load.run store).state.volatile = store.volatile := by
  show Ends load store fun outcome => outcome.state.volatile = store.volatile
  refine Ends.bind_modify (Ends.bind_get ?_)
  generalize store.layout.nvmHandles = handles
  suffices h : ∀ start : ObjectStore N, start.volatile = store.volatile →
      Ends (handles.forM loadHandle) start fun outcome => outcome.state.volatile = store.volatile from
    h { store with cached := [] } rfl
  induction handles with
  | nil => exact fun _ h => h
  | cons handle handles ih =>
    intro start h
    exact Ends.bind (loadHandle_ends (fun _ => ih _ h) (fun _ _ _ => ih _ h) fun _ _ => h)

theorem installAll_keeps (blobs : List Bytes) :
    Keeps (IsSound layout embedded) (installAll (N := N) blobs) := by
  intro store h
  show Ends (installAll blobs) store fun outcome => outcome.state.IsSound layout embedded
  refine installAll_ends h.cached.sound (fun _ _ => h) (fun _ _ _ _ _ _ _ _ => h.afterAll _)
    fun hblobs hroom _ => ?_
  rw [h.layout_eq] at hblobs
  have hobjects := isSound_of_installable hblobs
  exact ⟨(h.afterAll _).layout_eq, (h.afterAll _).embedded_eq,
    h.cached.cacheAll (fun o ho => .inl (hobjects o ho).2) (fun o ho => (hobjects o ho).1) hroom,
    (h.afterAll _).volatile⟩

end KeyEnclave.ObjectStore
