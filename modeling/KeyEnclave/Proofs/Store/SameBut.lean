import KeyEnclave.Proofs.Action.Alike
import KeyEnclave.Proofs.Store.Schedule
import Mathlib.Data.List.Forall2

/-!
# Stores that differ in one object

Two stores over storage with a schedule that are the same but for what an object contains, wherever
it is kept: as an embedded object, in RAM, and in its record. Every step of the store ends alike on
both, and leaves them the same but for that object again.

## Main definitions

* `StoredObject.IsCopyOf` — a sound object with the handle.
* `ObjectStore.SameBut` — two stores are the same but for the object with a handle.

## Main results

* `ObjectStore.SameBut.get?_eq`, `SameBut.isSome_get?_eq` — other objects are the same, and the object
  itself is there in both stores or in neither.
* `ObjectStore.SameBut.handles_eq`, `SameBut.freeHandle_eq` — so are the handles in use.
* `ObjectStore.SameBut.load`, `insert`, `remove`, `installAll` — the steps of the store.
-/

namespace KeyEnclave

open KeyEnclave.Action

-- ═══════════════════════════════════════════════════════════════════════════
-- Lists
-- ═══════════════════════════════════════════════════════════════════════════

section Lists

variable {α β : Type} {p : α → Prop} {xs xs' : List α}

/-- What related values have in common is in the same places. -/
theorem map_eq_of_forall₂ {R : α → α → Prop} {f : α → β} (hf : ∀ x x', R x x' → f x' = f x)
    (h : List.Forall₂ R xs xs') : xs'.map f = xs.map f := by
  induction h with
  | nil => rfl
  | cons hhead _ ih => rw [List.map_cons, List.map_cons, hf _ _ hhead, ih]

/-- Lists related entry by entry are searched alike. -/
theorem find?_forall₂ {R : α → α → Prop} {q : α → Bool} (hq : ∀ x x', R x x' → q x' = q x)
    (h : List.Forall₂ R xs xs') : Option.Rel R (xs.find? q) (xs'.find? q) := by
  induction h with
  | nil => exact .none
  | @cons x x' xs xs' hhead htail ih =>
    simp only [List.find?_cons, hq x x' hhead]
    cases q x with
    | false => exact ih
    | true => exact .some hhead

theorem find?_same {q : α → Bool} (hq : ∀ x x', SameUnless p x x' → q x' = q x)
    (h : List.Forall₂ (SameUnless p) xs xs') :
    SameUnless (fun found => ∃ x, found = some x ∧ p x ∧ q x = true) (xs.find? q) (xs'.find? q) := by
  have hfound := find?_forall₂ hq h
  generalize hx : xs.find? q = x, hx' : xs'.find? q = x' at hfound ⊢
  cases hfound with
  | none => exact .refl _
  | @some x x' hsame =>
    rcases hsame with rfl | ⟨hp, hp'⟩
    · exact .refl _
    · exact .inr ⟨⟨x, rfl, hp, List.find?_some hx⟩, x', rfl, hp', List.find?_some hx'⟩

theorem forall₂_set {R : α → α → Prop} (h : List.Forall₂ R xs xs') {x x' : α} (hx : R x x')
    (i : Nat) : List.Forall₂ R (xs.set i x) (xs'.set i x') := by
  induction h generalizing i with
  | nil => exact .nil
  | cons hhead htail ih =>
    cases i with
    | zero => exact .cons hx htail
    | succ i => exact .cons hhead (ih i)

theorem forall₂_dropLast {R : α → α → Prop} (h : List.Forall₂ R xs xs') :
    List.Forall₂ R xs.dropLast xs'.dropLast := by
  rw [List.dropLast_eq_take, List.dropLast_eq_take, h.length_eq]
  exact List.forall₂_take _ h

end Lists

namespace StoredObject

variable {handle : ObjectHandle} {object object' : StoredObject}
  {objects objects' : List StoredObject}

/-- A sound object with the handle. -/
def IsCopyOf (handle : ObjectHandle) (object : StoredObject) : Prop :=
  object.handle = handle ∧ object.IsSound

instance (handle : ObjectHandle) (object : StoredObject) : Decidable (object.IsCopyOf handle) :=
  inferInstanceAs (Decidable (_ ∧ _))

theorem handle_eq_of_same (h : SameUnless (IsCopyOf handle) object object') :
    object'.handle = object.handle := by
  rcases h with rfl | ⟨hcopy, hcopy'⟩
  · rfl
  · rw [hcopy.1, hcopy'.1]

theorem isRecordOf_recordOf (h : object.IsCopyOf handle) :
    IsRecordOf handle (ObjectStore.recordOf object) := by
  obtain ⟨rfl, hlength, hnamed⟩ := h
  exact ⟨ObjectStore.length_recordOf_le hlength, object,
    ObjectStore.objectOfRecord_recordOf hlength hnamed⟩

section Objects

variable (h : List.Forall₂ (SameUnless (IsCopyOf handle)) objects objects')

include h

theorem handles_eq_of_same : handles objects' = handles objects :=
  map_eq_of_forall₂ (fun _ _ => handle_eq_of_same) h

theorem holds_eq_of_same (other : ObjectHandle) : holds objects' other = holds objects other := by
  rw [Bool.eq_iff_iff, holds_iff, holds_iff, handles_eq_of_same h]

theorem findIdx?_eq_of_same (other : ObjectHandle) :
    objects'.findIdx? (fun o => o.handle == other) =
      objects.findIdx? (fun o => o.handle == other) := by
  have hmap (list : List StoredObject) : list.findIdx? (fun o => o.handle == other) =
      (handles list).findIdx? (· == other) := by
    rw [handles, List.findIdx?_map]
    rfl
  rw [hmap, hmap, handles_eq_of_same h]

theorem find?_same_objects (other : ObjectHandle) :
    SameUnless (fun found => other = handle ∧ ∃ o, found = some o ∧ o.IsCopyOf handle)
      (find? objects other) (find? objects' other) := by
  have hnamed (o : StoredObject) (hcopy : o.IsCopyOf handle) (ho : (o.handle == other) = true) :
      other = handle := by
    rw [← hcopy.1]
    exact (beq_iff_eq.mp ho).symm
  have hquery (o o' : StoredObject) (hsame : SameUnless (IsCopyOf handle) o o') :
      (o'.handle == other) = (o.handle == other) := by
    rw [handle_eq_of_same hsame]
  rcases find?_same (q := fun o => o.handle == other) hquery h with
    hsame | ⟨⟨o, ho, hcopy, hfound⟩, o', ho', hcopy', -⟩
  · exact .inl hsame
  · exact .inr ⟨⟨hnamed o hcopy hfound, o, ho, hcopy⟩, hnamed o hcopy hfound, o', ho', hcopy'⟩

theorem append_same (hobject : SameUnless (IsCopyOf handle) object object') :
    List.Forall₂ (SameUnless (IsCopyOf handle)) (objects ++ [object]) (objects' ++ [object']) :=
  List.rel_append h (.cons hobject .nil)

theorem removeSwapping_same (other : ObjectHandle) :
    List.Forall₂ (SameUnless (IsCopyOf handle)) (removeSwapping objects other)
      (removeSwapping objects' other) := by
  unfold removeSwapping
  rw [findIdx?_eq_of_same h, List.getLast?_eq_head?_reverse, List.getLast?_eq_head?_reverse]
  cases objects.findIdx? (fun o => o.handle == other) with
  | none => exact h
  | some i =>
    -- the last objects are related as the first ones of the reversed lists
    have hreverse := List.forall₂_reverse_iff.mpr h
    generalize objects.reverse = last, objects'.reverse = last' at hreverse
    cases hreverse with
    | nil => exact h
    | cons hlast => exact forall₂_dropLast (forall₂_set h hlast i)

end Objects

end StoredObject

-- ═══════════════════════════════════════════════════════════════════════════
-- Stores
-- ═══════════════════════════════════════════════════════════════════════════

/-- A blob serialises an object with the handle. -/
def IsBlobOf (handle : ObjectHandle) (blob : Bytes) : Prop :=
  (ObjectView.parse? blob).map ObjectView.handle = some handle

namespace ObjectStore

/-- Two stores are the same but for what the object with the handle contains. -/
structure SameBut (handle : ObjectHandle) (store store' : ObjectStore ScheduledNvm) : Prop where
  layout_eq : store'.layout = store.layout
  embedded : List.Forall₂ (SameUnless (IsBlobOf handle)) store.embedded store'.embedded
  nvm : store.nvm.SameBut handle store'.nvm
  cached : List.Forall₂ (SameUnless (StoredObject.IsCopyOf handle)) store.cached store'.cached
  volatile : List.Forall₂ (SameUnless (StoredObject.IsCopyOf handle)) store.volatile store'.volatile

namespace SameBut

variable {handle : ObjectHandle} {store store' : ObjectStore ScheduledNvm}

theorem embeddedViews (h : store.SameBut handle store') :
    List.Forall₂ (SameUnless fun view => view.handle = handle) store.embeddedViews
      store'.embeddedViews := by
  refine List.rel_filterMap (fun blob blob' hsame => ?_) h.embedded
  rcases hsame with rfl | ⟨hblob, hblob'⟩
  · cases ObjectView.parse? blob' with
    | none => exact .none
    | some view => exact .some (.refl _)
  · obtain ⟨view, hview, hhandle⟩ := Option.map_eq_some_iff.mp hblob
    obtain ⟨view', hview', hhandle'⟩ := Option.map_eq_some_iff.mp hblob'
    rw [hview, hview']
    exact .some (.inr ⟨hhandle, hhandle'⟩)

/-- The objects under a handle are the same, unless it is the one and there is one in both stores. -/
theorem get? (h : store.SameBut handle store') (other : ObjectHandle) :
    SameUnless (fun found => other = handle ∧ found.isSome = true) (store.get? other)
      (store'.get? other) := by
  have hparsed {objects objects' : List StoredObject}
      (hobjects : List.Forall₂ (SameUnless (StoredObject.IsCopyOf handle)) objects objects') :
      SameUnless (fun found => other = handle ∧ found.isSome = true)
        ((StoredObject.find? objects other).bind fun o => ObjectView.parse? o.blob)
        ((StoredObject.find? objects' other).bind fun o => ObjectView.parse? o.blob) := by
    rcases StoredObject.find?_same_objects hobjects other with
      hsame | ⟨⟨heq, o, ho, hcopy⟩, -, o', ho', hcopy'⟩
    · rw [hsame]
      exact .refl _
    · obtain ⟨view, hview, -⟩ := Option.map_eq_some_iff.mp hcopy.2.2
      obtain ⟨view', hview', -⟩ := Option.map_eq_some_iff.mp hcopy'.2.2
      rw [ho, ho', Option.bind_some, Option.bind_some, hview, hview']
      exact .inr ⟨⟨heq, rfl⟩, heq, rfl⟩
  unfold ObjectStore.get?
  rw [h.layout_eq]
  cases store.layout.classify other with
  | embedded =>
    have hquery (view view' : ObjectView) (hsame : SameUnless (fun view => view.handle = handle)
        view view') : (view'.handle == other) = (view.handle == other) := by
      rcases hsame with rfl | ⟨hhandle, hhandle'⟩
      · rfl
      · rw [hhandle, hhandle']
    rcases find?_same (q := fun view => view.handle == other) hquery h.embeddedViews with
      hsame | ⟨⟨view, hview, hhandle, hfound⟩, view', hview', -, -⟩
    · exact .inl hsame
    · have heq : other = handle := (beq_iff_eq.mp hfound).symm.trans hhandle
      exact .inr ⟨⟨heq, by rw [hview]; rfl⟩, heq, by rw [hview']; rfl⟩
  | nvmStatic | nvmDynamic => exact hparsed h.cached
  | vmDynamic => exact hparsed h.volatile
  | extTokenStatic | extTokenDynamic | unknown => exact .refl _

theorem get?_eq (h : store.SameBut handle store') {other : ObjectHandle} (hne : other ≠ handle) :
    store'.get? other = store.get? other := by
  rcases h.get? other with hsame | ⟨⟨heq, -⟩, -⟩
  · exact hsame
  · exact absurd heq hne

theorem isSome_get?_eq (h : store.SameBut handle store') (other : ObjectHandle) :
    (store'.get? other).isSome = (store.get? other).isSome := by
  rcases h.get? other with hsame | ⟨⟨-, hsome⟩, -, hsome'⟩
  · rw [hsame]
  · rw [hsome, hsome']

theorem handles_eq (h : store.SameBut handle store') : store'.handles = store.handles := by
  have hviews : store'.embeddedViews.map ObjectView.handle =
      store.embeddedViews.map ObjectView.handle :=
    map_eq_of_forall₂ (fun view view' hsame => by
      rcases hsame with rfl | ⟨hhandle, hhandle'⟩
      · rfl
      · rw [hhandle, hhandle']) h.embeddedViews
  have hcached : store'.cached.map StoredObject.handle = store.cached.map StoredObject.handle :=
    StoredObject.handles_eq_of_same h.cached
  have hvolatile : store'.volatile.map StoredObject.handle = store.volatile.map StoredObject.handle :=
    StoredObject.handles_eq_of_same h.volatile
  simp only [ObjectStore.handles, cachedHandles, hviews, hcached, hvolatile, h.layout_eq]

theorem freeHandle_eq (h : store.SameBut handle store') (range : Provenance) :
    store'.freeHandle range = store.freeHandle range := by
  have hcached := funext (StoredObject.holds_eq_of_same h.cached)
  have hvolatile := funext (StoredObject.holds_eq_of_same h.volatile)
  cases range with
  | nvmStatic | nvmDynamic =>
    simp [freeHandle, h.layout_eq, hcached, bind, Except.bind, pure, Except.pure]
  | vmDynamic => simp [freeHandle, h.layout_eq, hvolatile, bind, Except.bind, pure, Except.pure]
  | embedded | extTokenStatic | extTokenDynamic | unknown => rfl

theorem release (h : store.SameBut handle store') : store.release.SameBut handle store'.release :=
  ⟨h.layout_eq, h.embedded, h.nvm, .nil, .nil⟩

-- ═══════════════════════════════════════════════════════════════════════════
-- Steps
-- ═══════════════════════════════════════════════════════════════════════════

theorem bind_askNvm {α : Type} {op op' : NvmOp} {next : op.Reply → Step ScheduledNvm α}
    {next' : op'.Reply → Step ScheduledNvm α}
    {post : ObjectStore ScheduledNvm → ObjectStore ScheduledNvm → Prop}
    (h : EndsAlike (next (store.nvmReply op)) (next' (store'.nvmReply op')) (store.afterNvm op)
      (store'.afterNvm op') post) :
    EndsAlike (askNvm op >>= next) (askNvm op' >>= next') store store' post :=
  .bind_run rfl rfl h

theorem pushCached (h : store.SameBut handle store') {object object' : StoredObject}
    (hobject : SameUnless (StoredObject.IsCopyOf handle) object object') :
    EndsAlike (pushCached object) (ObjectStore.pushCached object') store store'
      (SameBut handle) := by
  refine .bind_get ?_
  rw [← h.cached.length_eq]
  refine .failing h fun _ => ⟨rfl, ?_⟩
  exact ⟨h.layout_eq, h.embedded, h.nvm, StoredObject.append_same h.cached hobject, h.volatile⟩

theorem pushVolatile (h : store.SameBut handle store') (object : StoredObject) :
    EndsAlike (pushVolatile object) (ObjectStore.pushVolatile object) store store'
      (SameBut handle) := by
  refine .bind_get ?_
  rw [← h.volatile.length_eq]
  refine .failing h fun _ => ⟨rfl, ?_⟩
  exact ⟨h.layout_eq, h.embedded, h.nvm, h.cached, StoredObject.append_same h.volatile (.refl _)⟩

/-- Writes succeed alike if they write the same, or both a record of the object. -/
theorem afterWrite (h : store.SameBut handle store') {object object' : StoredObject}
    (hobject : SameUnless (StoredObject.IsCopyOf handle) object object') :
    (store'.nvmReply (writeOf object') : Except NvmError Unit) = store.nvmReply (writeOf object) ∧
      (store.afterNvm (writeOf object)).SameBut handle (store'.afterNvm (writeOf object')) := by
  unfold writeOf
  rw [StoredObject.handle_eq_of_same hobject]
  have hdata : SameUnless (fun data => object.handle = handle ∧ IsRecordOf handle data)
      (recordOf object) (recordOf object') := by
    rcases hobject with rfl | ⟨hcopy, hcopy'⟩
    · exact .refl _
    · exact .inr ⟨⟨hcopy.1, StoredObject.isRecordOf_recordOf hcopy⟩, hcopy.1,
        StoredObject.isRecordOf_recordOf hcopy'⟩
  obtain ⟨hreply, hafter⟩ := h.nvm.write hdata
  exact ⟨hreply, h.layout_eq, h.embedded, hafter, h.cached, h.volatile⟩

theorem persist (h : store.SameBut handle store') {object object' : StoredObject}
    (hobject : SameUnless (StoredObject.IsCopyOf handle) object object') :
    EndsAlike (persist object) (ObjectStore.persist object') store store' (SameBut handle) := by
  obtain ⟨hreply, hafter⟩ := h.afterWrite hobject
  rcases hobject with rfl | ⟨hcopy, hcopy'⟩
  · refine .failing h fun _ => bind_askNvm ?_
    rw [hreply]
    cases store.nvmReply (writeOf object') with
    | ok u => exact .pure hafter
    | error error => exact .throw hafter
  · unfold EndsAlike
    rw [run_persist store hcopy.2.1, run_persist store' hcopy'.2.1, hreply]
    exact ⟨rfl, hafter⟩

theorem loadHandle (h : store.SameBut handle store') (other : ObjectHandle) :
    EndsAlike (loadHandle other) (ObjectStore.loadHandle other) store store' (SameBut handle) := by
  obtain ⟨hreply, hnvm⟩ := h.nvm.read other
  have hafter : (store.afterNvm (.read other recordRoom)).SameBut handle
      (store'.afterNvm (.read other recordRoom)) :=
    ⟨h.layout_eq, h.embedded, hnvm, h.cached, h.volatile⟩
  have hread (store : ObjectStore ScheduledNvm) : store.nvmReply (.read other recordRoom) =
      store.nvm.reply (.read other recordRoom) := rfl
  refine bind_askNvm ?_
  rw [hread, hread]
  rcases hreply with hsame | ⟨⟨rfl, data, hdata, -, o, ho⟩, -, data', hdata', -, o', ho'⟩
  · rw [hsame]
    rcases store.nvm.reply (.read other recordRoom) with error | _ | data
    · exact .throw hafter
    · exact .pure hafter
    · refine .bind_ofExcept hafter fun found _ => ?_
      cases found with
      | none => exact .pure hafter
      | some object => exact hafter.pushCached (.refl _)
  · rw [hdata, hdata']
    simp only [ho, ho']
    exact .bind_run rfl rfl (hafter.pushCached
      (.inr ⟨isSound_of_objectOfRecord ho, isSound_of_objectOfRecord ho'⟩))

theorem load (h : store.SameBut handle store') :
    EndsAlike load ObjectStore.load store store' (SameBut handle) := by
  refine .bind_modify (.bind_get ?_)
  rw [h.layout_eq]
  exact .forM _ (fun other _ _ _ hsame => hsame.loadHandle other)
    ⟨rfl, h.embedded, h.nvm, .nil, h.volatile⟩

theorem insert (h : store.SameBut handle store') (blob : Bytes) :
    EndsAlike (insert blob) (ObjectStore.insert blob) store store' (SameBut handle) := by
  refine .bind_ofExcept h fun other _ => .bind_get ?_
  rw [h.isSome_get?_eq, h.layout_eq, ← h.cached.length_eq]
  refine .failing h fun _ => ?_
  cases store.layout.classify other with
  | nvmStatic | nvmDynamic =>
    refine .bind_ofExcept h fun object _ => .failing h fun _ => ?_
    exact .bind_kept (h.persist (.refl object)) fun _ _ _ h =>
      .bind_pure (h.pushCached (.refl object))
  | vmDynamic =>
    refine .bind_ofExcept h fun object _ => ?_
    exact .bind_pure (h.pushVolatile object)
  | embedded | extTokenStatic | extTokenDynamic | unknown => exact .bind_throw h

theorem afterRemove (h : store.SameBut handle store') (other : ObjectHandle) :
    store'.nvmReply (.remove other) = store.nvmReply (.remove other) ∧
      (store.afterNvm (.remove other)).SameBut handle (store'.afterNvm (.remove other)) := by
  obtain ⟨hreply, hafter⟩ := h.nvm.remove other
  exact ⟨hreply, h.layout_eq, h.embedded, hafter, h.cached, h.volatile⟩

theorem remove (h : store.SameBut handle store') (other : ObjectHandle) :
    EndsAlike (remove other) (ObjectStore.remove other) store store' (SameBut handle) := by
  obtain ⟨hreply, hafter⟩ := h.afterRemove other
  refine .bind_get ?_
  rw [h.layout_eq, StoredObject.holds_eq_of_same h.cached, StoredObject.holds_eq_of_same h.volatile]
  cases store.layout.classify other with
  | nvmDynamic =>
    refine .failing h fun _ => bind_askNvm ?_
    rw [hreply]
    cases store.nvmReply (.remove other) with
    | error error => exact .throw hafter
    | ok u =>
      exact ⟨rfl, h.layout_eq, h.embedded, hafter.nvm,
        StoredObject.removeSwapping_same h.cached other, h.volatile⟩
  | vmDynamic =>
    exact .failing h fun _ => ⟨rfl, h.layout_eq, h.embedded, h.nvm, h.cached,
      StoredObject.removeSwapping_same h.volatile other⟩
  | embedded | nvmStatic | extTokenStatic | extTokenDynamic | unknown => exact .throw h

-- ═══════════════════════════════════════════════════════════════════════════
-- Installing
-- ═══════════════════════════════════════════════════════════════════════════

theorem rollBackOne (h : store.SameBut handle store') (object : StoredObject) :
    EndsAlike (rollBackOne object) (ObjectStore.rollBackOne object) store store'
      (SameBut handle) := by
  have hrestored {previous previous' : StoredObject}
      (hsame : SameUnless (StoredObject.IsCopyOf handle) previous previous') :
      EndsAlike (do let _ ← attempt (ObjectStore.persist previous) : Step ScheduledNvm Unit)
        (do let _ ← attempt (ObjectStore.persist previous')) store store' (SameBut handle) :=
    .bind_attempt (h.persist hsame) fun _ _ _ h => .pure h
  refine .bind_get ?_
  rcases StoredObject.find?_same_objects h.cached object.handle with
    hsame | ⟨⟨-, o, ho, hcopy⟩, -, o', ho', hcopy'⟩
  · rw [hsame]
    cases StoredObject.find? store.cached object.handle with
    | some previous => exact hrestored (.refl previous)
    | none => exact bind_askNvm (.pure (h.afterRemove object.handle).2)
  · rw [ho, ho']
    exact hrestored (.inr ⟨hcopy, hcopy'⟩)

theorem persistAll (h : store.SameBut handle store') (written objects : List StoredObject) :
    EndsAlike (persistAll written objects) (ObjectStore.persistAll written objects) store store'
      (SameBut handle) := by
  induction objects generalizing store store' written with
  | nil => exact .pure h
  | cons object objects ih =>
    refine .bind_attempt (h.persist (.refl object)) fun outcome _ _ h => ?_
    cases outcome with
    | ok u => exact ih h (written ++ [object])
    | error error =>
      exact .bind_kept (.forM written (fun o _ _ _ h => h.rollBackOne o) h) fun _ _ _ h => .throw h

theorem cacheObject (h : store.SameBut handle store') (object : StoredObject) :
    EndsAlike (cacheObject object) (ObjectStore.cacheObject object) store store'
      (SameBut handle) := by
  refine .bind_get ?_
  rw [StoredObject.findIdx?_eq_of_same h.cached]
  cases store.cached.findIdx? fun o => o.handle == object.handle with
  | none => exact h.pushCached (.refl object)
  | some i =>
    exact ⟨rfl, h.layout_eq, h.embedded, h.nvm, forall₂_set h.cached (.refl object) i, h.volatile⟩

theorem installAll (h : store.SameBut handle store') (blobs : List Bytes) :
    EndsAlike (installAll blobs) (ObjectStore.installAll blobs) store store' (SameBut handle) := by
  have hcount (objects : List StoredObject) :
      addedCount store'.cached [] objects = addedCount store.cached [] objects :=
    StoredObject.addedCount_congr fun other => by
      rw [StoredObject.handles_eq_of_same h.cached]
  refine .bind_get ?_
  rw [h.layout_eq]
  refine .bind_ofExcept h fun objects _ => ?_
  rw [hcount, ← h.cached.length_eq]
  refine .failing h fun _ => ?_
  refine .bind_kept (h.persistAll [] objects) fun _ _ _ h => ?_
  exact .forM objects (fun o _ _ _ h => h.cacheObject o) h

end SameBut

end ObjectStore

end KeyEnclave
