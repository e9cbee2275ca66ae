import KeyEnclave.Proofs.Store.Reload
import KeyEnclave.Proofs.Store.Representation

/-!
# New objects, and taking them back

A step of the store that fails leaves the objects as they were, and an object that was added under a
free handle can be taken back.

## Main definitions

* `ObjectStore.Adds` — a store with one more object; `ObjectStore.Spares` — one that refused it.
* `ObjectStore.SameObjects` — RAM holds what it held, and storage reloads to what it did.

## Main results

* `ObjectStore.remove_sameObjects` — a removal that fails changes no object.
* `ObjectStore.insert_adds` — an object under a free handle is refused or added.
* `ObjectStore.Adds.takenBack` — removing what was added leaves the objects as they were.
* `ObjectStore.Recalls.installAll_keeps` — an installation has no part in other ranges.

## Design notes

Nothing is kept under the handle of an object that was taken back, so storage reloads to what it did
only if nothing would have been loaded under the handle before. The cache tells whether that is so
in the range of objects that are created at run time. In the range of installed objects it does not:
an installation that failed to take back its writes leaves records there that were never cached.
-/

namespace KeyEnclave

open KeyEnclave.Action

namespace NvmOp

/-- The key that an operation is about. -/
def key : NvmOp → UInt32
  | .read key _ | .write key _ | .remove key => key

theorem effect_other {op : NvmOp} {content : NvmContent} {other : UInt32} (h : op.key ≠ other) :
    op.effect content other = content other := by
  cases op with
  | read => rfl
  | write | remove => exact Function.update_of_ne (Ne.symm h) ..

end NvmOp

namespace ObjectStore

variable {N : Type} {layout : ObjectLayout} {embedded : List Bytes}
  {store added after : ObjectStore N} {object : StoredObject} {handle : ObjectHandle} {blob : Bytes}

-- ═══════════════════════════════════════════════════════════════════════════
-- One more object
-- ═══════════════════════════════════════════════════════════════════════════

section Adding

variable [NvmStorage N]

/-- A store with one more object, under a handle that nothing was found under. -/
inductive Adds (store : ObjectStore N) (object : StoredObject) : ObjectStore N → Prop
  | held (hnew : store.get? object.handle = none)
      (hclass : store.layout.classify object.handle = .vmDynamic) :
      Adds store object { store with volatile := store.volatile ++ [object] }
  | kept (hnew : store.get? object.handle = none)
      (hclass : store.layout.classify object.handle = .nvmDynamic)
      (hwritten : (store.nvmEvent (writeOf object)).isSuccess = true) :
      Adds store object { store.afterNvm (writeOf object) with cached := store.cached ++ [object] }

/-- A store that asked for nothing of storage, or for one thing in vain. -/
inductive Spares (store : ObjectStore N) : ObjectStore N → Prop
  | untouched : Spares store store
  | failed {op : NvmOp} (hfailed : (store.nvmEvent op).isSuccess = false) :
      Spares store (store.afterNvm op)

/-- An object under a free handle for objects that are created at run time is refused or added. -/
theorem insert_adds (h : store.IsSound layout embedded) (hvalid : layout.validate = .ok ())
    {provenance : Provenance} (hdynamic : provenance = .nvmDynamic ∨ provenance = .vmDynamic)
    (hfree : store.freeHandle provenance = .ok handle)
    (hobject : (⟨handle, blob⟩ : StoredObject).IsSound) :
    (insert blob).Ends store fun outcome =>
      (∃ error, outcome.answer = .error error ∧ store.Spares outcome.state) ∨
        outcome.answer = .ok handle ∧ store.Adds ⟨handle, blob⟩ outcome.state := by
  obtain ⟨-, hclass, hget⟩ := h.of_freeHandle hvalid hfree
  have hnamed := handleOf_eq_ok.mpr hobject.2
  have hplaced := (congrArg (·.classify handle) h.layout_eq).trans hclass
  rcases hdynamic with rfl | rfl
  · refine Ends.of_run (h.run_insert_cached hvalid (.inr hclass) hget hnamed hobject.1) ?_
    unfold storedUnder
    by_cases hwritten : (store.nvmEvent (writeOf ⟨handle, blob⟩)).isSuccess = true
    · rw [if_pos hwritten]
      exact .inr ⟨rfl, .kept hget hplaced hwritten⟩
    · rw [if_neg hwritten]
      exact .inl ⟨_, rfl, .failed (Bool.eq_false_iff.mpr hwritten)⟩
  · refine Ends.of_run (run_insert_volatile hplaced hget hnamed hobject.1) ?_
    split
    · exact .inr ⟨rfl, .held hget hplaced⟩
    · exact .inl ⟨_, rfl, .untouched⟩

namespace Adds

theorem get?_eq_none (hadds : store.Adds object added) : store.get? object.handle = none := by
  cases hadds with
  | held hnew | kept hnew => exact hnew

theorem get?_self (hadds : store.Adds object added) (hsound : store.IsSound layout embedded) :
    added.get? object.handle = ObjectView.parse? object.blob := by
  cases hadds with
  | held hnew hclass => exact hsound.get?_held (hsound.layout_eq ▸ hclass) hnew
  | kept hnew hclass => exact hsound.get?_stored (.inr (hsound.layout_eq ▸ hclass)) hnew _

theorem get?_other (hadds : store.Adds object added) (hne : handle ≠ object.handle) :
    added.get? handle = store.get? handle := by
  have hfind (objects : List StoredObject) :
      StoredObject.find? (objects ++ [object]) handle = StoredObject.find? objects handle := by
    rw [StoredObject.find?_append_single, if_neg (Ne.symm hne), Option.or_none]
  cases hadds with
  | held =>
    unfold get?
    rw [hfind]
    rfl
  | kept =>
    unfold get?
    rw [hfind]
    rfl

/-- An object that is added next has another handle, under which this one is not. -/
theorem get?_first {other : StoredObject} {view : ObjectView} (hadds : store.Adds object added)
    (hnext : added.Adds other after) (hsound : store.IsSound layout embedded)
    (hparse : ObjectView.parse? object.blob = some view) :
    object.handle ≠ other.handle ∧ after.get? object.handle = some view := by
  have hfound : added.get? object.handle = some view := (hadds.get?_self hsound).trans hparse
  have hne : object.handle ≠ other.handle := by
    intro heq
    have hnone := hnext.get?_eq_none
    rw [← heq, hfound] at hnone
    cases hnone
  exact ⟨hne, (hnext.get?_other hne).trans hfound⟩

end Adds

end Adding

variable [SteadyStorage N]

-- ═══════════════════════════════════════════════════════════════════════════
-- The same objects
-- ═══════════════════════════════════════════════════════════════════════════

/-- RAM holds what it held, and storage would load the same under every handle. -/
structure SameObjects (store after : ObjectStore N) : Prop where
  layout_eq : after.layout = store.layout
  cached_eq : after.cached = store.cached
  volatile_eq : after.volatile = store.volatile
  recall_eq : ∀ handle, recallOne after.content handle = recallOne store.content handle

theorem SameObjects.refl (store : ObjectStore N) : store.SameObjects store :=
  ⟨rfl, rfl, rfl, fun _ => rfl⟩

theorem SameObjects.reload_eq (h : store.SameObjects after) (layout : ObjectLayout) :
    reload layout after.content = reload layout store.content :=
  reload_congr fun handle _ => h.recall_eq handle

theorem sameObjects_afterNvm {op : NvmOp} (hfailed : (store.nvmEvent op).isSuccess = false) :
    store.SameObjects (store.afterNvm op) := by
  have hcontent : (store.afterNvm op).content = store.content :=
    SteadyStorage.content_of_failure _ _ hfailed
  exact ⟨rfl, rfl, rfl, fun handle => by rw [hcontent]⟩

theorem Spares.sameObjects (h : store.Spares after) : store.SameObjects after := by
  cases h with
  | untouched => exact .refl store
  | failed hfailed => exact sameObjects_afterNvm hfailed

theorem remove_sameObjects (handle : ObjectHandle) :
    (remove handle).Ends store fun outcome => ∀ error, outcome.answer = .error error →
      store.SameObjects outcome.state :=
  remove_ends (fun _ _ _ => .refl store) (fun _ _ h => nomatch h) (fun _ _ _ h => nomatch h)
    fun hfailed _ _ => sameObjects_afterNvm hfailed

-- ═══════════════════════════════════════════════════════════════════════════
-- Taking an object back
-- ═══════════════════════════════════════════════════════════════════════════

namespace Adds

/-- When an object was added, and what came after it changed no object, removing it leaves the
objects as they were, unless storage fails to remove its record. -/
theorem takenBack (hadds : store.Adds object added) (hsame : added.SameObjects after)
    (hsound : store.IsSound layout embedded)
    (hrecalls : Recalls (layout.classify · = .nvmDynamic) store.content store.cached) :
    (remove object.handle).Ends after fun outcome =>
      ⟨.remove object.handle, .error .failed⟩ ∉ outcome.journal →
        store.SameObjects outcome.state := by
  have hmem {objects : List StoredObject} :
      object.handle ∈ StoredObject.handles (objects ++ [object]) :=
    List.mem_map_of_mem (List.mem_append_right _ List.mem_cons_self)
  cases hadds with
  | held hnew hclass =>
    have hfresh := hsound.not_mem_volatile (hsound.layout_eq ▸ hclass) hnew
    have hplaced : after.layout.classify object.handle = .vmDynamic := hsame.layout_eq ▸ hclass
    refine Ends.of_run (run_remove_volatile hplaced (hsame.volatile_eq ▸ hmem)) fun _ => ?_
    refine ⟨hsame.layout_eq, hsame.cached_eq, ?_, hsame.recall_eq⟩
    exact (congrArg (StoredObject.removeSwapping · object.handle) hsame.volatile_eq).trans
      (StoredObject.removeSwapping_append hfresh)
  | kept hnew hclass hwritten =>
    have hdynamic : layout.classify object.handle = .nvmDynamic := hsound.layout_eq ▸ hclass
    have hfresh := hsound.not_mem_cached (.inr hdynamic) hnew
    have hplaced : after.layout.classify object.handle = .nvmDynamic := hsame.layout_eq ▸ hclass
    have hrun := run_remove_cached hplaced (hsame.cached_eq ▸ hmem)
    cases hreply : after.nvmReply (.remove object.handle) with
    | error failure =>
      rw [hreply] at hrun
      refine Ends.of_run hrun fun hremoved => absurd ?_ hremoved
      cases failure
      rw [nvmEvent, hreply]
      exact List.mem_cons_self
    | ok u =>
      rw [hreply] at hrun
      refine Ends.of_run hrun fun _ => ⟨hsame.layout_eq, ?_, hsame.volatile_eq, fun other => ?_⟩
      · exact (congrArg (StoredObject.removeSwapping · object.handle) hsame.cached_eq).trans
          (StoredObject.removeSwapping_append hfresh)
      · have hsuccess : (after.nvmEvent (.remove object.handle)).isSuccess = true := by
          rw [isSuccess_remove, hreply]
          rfl
        have hremoved : (after.afterNvm (.remove object.handle)).content =
            NvmOp.effect (.remove object.handle) after.content :=
          ContentStorage.content_of_success _ _ hsuccess
        have hadded : (store.afterNvm (writeOf object)).content =
            (writeOf object).effect store.content :=
          ContentStorage.content_of_success _ _ hwritten
        show recallOne (after.afterNvm (.remove object.handle)).content other = _
        rw [hremoved, recallOne_remove]
        split
        · next heq =>
          rw [heq, hrecalls object.handle hdynamic, StoredObject.find?_eq_none.mpr hfresh]
        · next hne =>
          rw [hsame.recall_eq other]
          refine recallOne_congr ?_
          rw [hadded]
          exact NvmOp.effect_other (Ne.symm hne)

end Adds

-- ═══════════════════════════════════════════════════════════════════════════
-- Installed objects
-- ═══════════════════════════════════════════════════════════════════════════

/-- Operations on other keys leave what is kept under a key, whether they succeed or not. -/
theorem content_afterAll_other {ops : List NvmOp} {key : UInt32} (h : ∀ op ∈ ops, op.key ≠ key) :
    (store.afterAll ops).content key = store.content key := by
  induction ops generalizing store with
  | nil => rfl
  | cons op ops ih =>
    rw [List.forall_mem_cons] at h
    refine (ih h.2).trans ?_
    cases hsuccess : (store.nvmEvent op).isSuccess with
    | true =>
      have hcontent : (store.afterNvm op).content = op.effect store.content :=
        ContentStorage.content_of_success _ _ hsuccess
      rw [hcontent, NvmOp.effect_other h.1]
    | false =>
      have hcontent : (store.afterNvm op).content = store.content :=
        SteadyStorage.content_of_failure _ _ hsuccess
      rw [hcontent]

theorem key_undoOf (cached : List StoredObject) (object : StoredObject) :
    (undoOf cached object).key = object.handle := by
  unfold undoOf
  cases hfind : StoredObject.find? cached object.handle with
  | none => rfl
  | some previous => exact (StoredObject.mem_of_find? hfind).2

/-- A failed installation asks storage for nothing but what has to do with its objects. -/
theorem key_of_mem_failedOps {cached done rest : List StoredObject} {op : NvmOp}
    (h : op ∈ failedOps cached done object []) :
    op.key ∈ StoredObject.handles (done ++ object :: rest) := by
  have hdone {written : StoredObject} (hmem : written ∈ done) :
      written.handle ∈ StoredObject.handles (done ++ object :: rest) :=
    List.mem_map_of_mem (List.mem_append_left _ hmem)
  rw [failedOps, List.nil_append, List.mem_append, List.mem_cons] at h
  rcases h with h | rfl | h
  · obtain ⟨written, hmem, rfl⟩ := List.mem_map.mp h
    exact hdone hmem
  · exact List.mem_map_of_mem (List.mem_append_right _ List.mem_cons_self)
  · obtain ⟨written, hmem, rfl⟩ := List.mem_map.mp h
    rw [key_undoOf]
    exact hdone hmem

/-- An installation leaves what is recalled and cached under the handles of other ranges, whether it
can take back its writes or not. -/
theorem Recalls.installAll_keeps {p : ObjectHandle → Prop} (hsound : store.IsSound layout embedded)
    (hother : ∀ handle, p handle → layout.classify handle ≠ .nvmStatic)
    (h : Recalls p store.content store.cached) (blobs : List Bytes) :
    (installAll blobs).Ends store fun outcome =>
      Recalls p outcome.state.content outcome.state.cached := by
  obtain rfl := hsound.layout_eq
  have hfree (hblobs : ∀ blob ∈ blobs, IsInstallable store.layout blob) {handle : ObjectHandle}
      (hhandle : p handle) : handle ∉ StoredObject.handles (StoredObject.ofBlobs blobs) := by
    intro hmem
    obtain ⟨object, hobject, rfl⟩ := List.mem_map.mp hmem
    exact hother _ hhandle (isSound_of_installable hblobs object hobject).2
  refine installAll_ends hsound.cached.sound (fun _ _ => h) ?_ ?_
  · intro done object rest hblobs _ hsplit _ _ handle hhandle
    rw [cached_afterAll, recallOne_congr (content_afterAll_other fun op hop hkey => ?_)]
    · exact h handle hhandle
    · have hmem := @key_of_mem_failedOps object _ _ rest _ hop
      rw [hkey, ← hsplit] at hmem
      exact hfree hblobs hhandle hmem
  · intro hblobs _ _ handle hhandle
    show recallOne (store.afterAll _).content handle =
      .ok (StoredObject.find? (StoredObject.cacheAll store.cached _) handle)
    rw [StoredObject.find?_cacheAll hsound.cached.nodup,
      StoredObject.last?_eq_none.mpr (hfree hblobs hhandle), Option.none_or,
      recallOne_congr (content_afterAll_other fun op hop hkey => ?_)]
    · exact h handle hhandle
    · obtain ⟨object, hmem, rfl⟩ := List.mem_map.mp hop
      exact hfree hblobs hhandle (hkey ▸ List.mem_map_of_mem hmem)

end ObjectStore

end KeyEnclave
