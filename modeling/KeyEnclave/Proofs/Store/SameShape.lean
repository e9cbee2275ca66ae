import KeyEnclave.Proofs.Store.Rules

/-!
# Stores of the same shape

Two stores that have the same objects under the same handles, as far as storage is concerned, and
volatile objects under the same handles that may say different things. Neither a free handle nor the
room that is left tells them apart, and storage does not either unless it looks at the bytes it is to
keep.

## Main definitions

* `NvmStorage.IsBlind` — storage that does not refuse a write for its bytes.
* `ObjectStore.SameShape` — the relation of the two stores.

## Main results

* `ObjectStore.SameShape.freeHandle_eq` — the same handles are free.
* `ObjectStore.SameShape.refuses` — storage refuses objects of the same length alike.
-/

namespace KeyEnclave

open KeyEnclave.Action

/-- Storage does not refuse a write for its bytes: where it refuses one, and is left as it was, it
refuses every other of the same length. -/
def NvmStorage.IsBlind (N : Type) [NvmStorage N] : Prop :=
  ∀ (key : UInt32) (data data' : Bytes) (nvm : N), data'.length = data.length →
    NvmStorage.serve (.write key data) nvm = (.error .failed, nvm) →
    NvmStorage.serve (.write key data') nvm = (.error .failed, nvm)

namespace ObjectStore

variable {N : Type} {store store' : ObjectStore N} {handle : ObjectHandle}

/-- Two stores differ at most in what their volatile objects say. -/
structure SameShape (store store' : ObjectStore N) : Prop where
  rest_eq : store' = { store with volatile := store'.volatile }
  handles_eq : StoredObject.handles store'.volatile = StoredObject.handles store.volatile

namespace SameShape

theorem of_eq (h : store' = store) : store.SameShape store' := by
  subst h
  exact ⟨rfl, rfl⟩

variable (h : store.SameShape store')

include h

theorem layout_eq : store'.layout = store.layout := by rw [h.rest_eq]

theorem nvm_eq : store'.nvm = store.nvm := by rw [h.rest_eq]

theorem cached_eq : store'.cached = store.cached := by rw [h.rest_eq]

theorem length_eq : store'.volatile.length = store.volatile.length := by
  have hlength := congrArg List.length h.handles_eq
  rwa [StoredObject.handles, StoredObject.handles, List.length_map, List.length_map] at hlength

theorem freeHandle_eq (provenance : Provenance) :
    store'.freeHandle provenance = store.freeHandle provenance := by
  unfold freeHandle
  rw [h.layout_eq, h.cached_eq]
  cases provenance with
  | vmDynamic => simp only [pure_bind, StoredObject.holds_congr h.handles_eq]
  | _ => rfl

end SameShape

/-- What storage refuses of one store it refuses of the other, if it cannot tell the objects. -/
theorem SameShape.refuses [NvmStorage N] (hblind : NvmStorage.IsBlind N)
    (hshape : store.SameShape store') {blob blob' : Bytes} (hlength : blob'.length = blob.length)
    (hfailed : (store.nvmEvent (writeOf ⟨handle, blob⟩)).isSuccess = false)
    (hkept : store.afterNvm (writeOf ⟨handle, blob⟩) = store) :
    (store'.nvmEvent (writeOf ⟨handle, blob'⟩)).isSuccess = false ∧
      store'.afterNvm (writeOf ⟨handle, blob'⟩) = store' := by
  have hrecord : (recordOf ⟨handle, blob'⟩).length = (recordOf ⟨handle, blob⟩).length := by
    rw [length_recordOf, length_recordOf, hlength]
  have hrefused : NvmStorage.serve (writeOf ⟨handle, blob⟩) store.nvm =
      (.error .failed, store.nvm) := by
    refine Prod.ext ?_ (congrArg nvm hkept)
    rw [isSuccess_write] at hfailed
    show store.nvmReply (writeOf ⟨handle, blob⟩) = .error .failed
    cases hreply : store.nvmReply (writeOf ⟨handle, blob⟩) with
    | error error => rfl
    | ok u =>
      rw [hreply] at hfailed
      cases hfailed
  have hrefused' := hblind _ _ _ _ hrecord hrefused
  rw [← hshape.nvm_eq] at hrefused'
  constructor
  · rw [isSuccess_write, nvmReply, hrefused']
    rfl
  · rw [afterNvm, hrefused']

end ObjectStore

end KeyEnclave
