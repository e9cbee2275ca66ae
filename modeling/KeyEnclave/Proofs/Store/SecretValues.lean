import KeyEnclave.Proofs.Store.SameBut

/-!
# Stores that differ in a value that may not be read

Two stores that are the same but for the value of one object, which says that it is not extractable.
What the objects have in common is all that a caller may learn of them: their handles, and every
other attribute.

## Main definitions

* `ObjectView.HidesValue` — two objects are not extractable and the same but for their value.
* `ObjectStore.SameButValue` — two stores are the same but for the value of one such object.

## Main results

* `ObjectStore.SameButValue.handles_eq` — the handles in use are the same.
* `ObjectStore.SameButValue.get?` — objects are the same, or hide their value.
-/

namespace KeyEnclave

-- ═══════════════════════════════════════════════════════════════════════════
-- Objects
-- ═══════════════════════════════════════════════════════════════════════════

/-- Two attributes of one type, with one value unless it is the value of an object. -/
structure Attribute.SameButValue (a a' : Attribute) : Prop where
  kind_eq : a'.kind = a.kind
  value_eq : a.kind ≠ AttributeKind.value → a'.value = a.value

namespace ObjectView

/-- Two objects are not extractable and the same but for their value. -/
structure HidesValue (view view' : ObjectView) : Prop where
  hidden : view.isExtractable = false
  handle_eq : view'.handle = view.handle
  attributes : List.Forall₂ Attribute.SameButValue view.attributes view'.attributes

namespace HidesValue

variable {view view' : ObjectView} {template : Template}

theorem attribute?_eq (h : view.HidesValue view') {kind : AttributeKind}
    (hkind : kind ≠ AttributeKind.value) : view'.attribute? kind = view.attribute? kind := by
  have hfound := find?_forall₂ (q := fun a => a.kind == kind)
    (fun a a' hsame => by rw [hsame.kind_eq]) h.attributes
  unfold attribute? Template.find?
  generalize hx : view.attributes.find? (fun a => a.kind == kind) = x,
    view'.attributes.find? (fun a => a.kind == kind) = x' at hfound ⊢
  cases hfound with
  | none => rfl
  | @some a a' hsame =>
    have hnamed : a.kind = kind := by simpa using List.find?_some hx
    exact congrArg some (hsame.value_eq (hnamed ▸ hkind))

theorem hidden' (h : view.HidesValue view') : view'.isExtractable = false := by
  unfold isExtractable flag?
  rw [h.attribute?_eq (by decide)]
  exact h.hidden

/-- A template without a value matches both objects or neither. -/
theorem matches_iff (h : view.HidesValue view')
    (hnone : ∀ wanted ∈ template, wanted.kind ≠ AttributeKind.value) :
    view'.Matches template ↔ view.Matches template := by
  refine forall₂_congr fun wanted hmem => ?_
  rw [h.attribute?_eq (hnone wanted hmem)]

end HidesValue

end ObjectView

/-- Two blobs serialise objects that hide their value. -/
def BlobHidesValue (blob blob' : Bytes) : Prop :=
  ∃ view view', ObjectView.parse? blob = some view ∧ ObjectView.parse? blob' = some view' ∧
    view.HidesValue view'

/-- Two objects with the handle that hide their value. -/
def StoredObject.HidesValue (handle : ObjectHandle) (object object' : StoredObject) : Prop :=
  object.handle = handle ∧ object'.handle = handle ∧ BlobHidesValue object.blob object'.blob

-- ═══════════════════════════════════════════════════════════════════════════
-- Stores
-- ═══════════════════════════════════════════════════════════════════════════

namespace ObjectStore

variable {N : Type} {handle : ObjectHandle} {store store' : ObjectStore N}

/-- Two stores are the same but for the value of the object with the handle, which is not
extractable. Storage may differ in any way. -/
structure SameButValue (handle : ObjectHandle) (store store' : ObjectStore N) : Prop where
  layout_eq : store'.layout = store.layout
  embedded : List.Forall₂ (fun blob blob' => blob' = blob ∨
    IsBlobOf handle blob ∧ BlobHidesValue blob blob') store.embedded store'.embedded
  cached : List.Forall₂ (fun object object' => object' = object ∨
    object.HidesValue handle object') store.cached store'.cached
  volatile : List.Forall₂ (fun object object' => object' = object ∨
    object.HidesValue handle object') store.volatile store'.volatile

theorem handle_eq_of_hides {object object' : StoredObject}
    (h : object' = object ∨ object.HidesValue handle object') : object'.handle = object.handle := by
  rcases h with rfl | ⟨hhandle, hhandle', -⟩
  · rfl
  · rw [hhandle, hhandle']

namespace SameButValue

theorem embeddedViews (h : store.SameButValue handle store') :
    List.Forall₂ (fun view view' => view' = view ∨ view.handle = handle ∧ view.HidesValue view')
      store.embeddedViews store'.embeddedViews := by
  refine List.rel_filterMap (fun blob blob' hsame => ?_) h.embedded
  rcases hsame with rfl | ⟨hblob, view, view', hview, hview', hhides⟩
  · cases ObjectView.parse? blob' with
    | none => exact .none
    | some view => exact .some (.inl rfl)
  · rw [IsBlobOf, hview, Option.map_some, Option.some.injEq] at hblob
    rw [hview, hview']
    exact .some (.inr ⟨hblob, hhides⟩)

theorem handles_eq (h : store.SameButValue handle store') : store'.handles = store.handles := by
  have hviews : store'.embeddedViews.map ObjectView.handle =
      store.embeddedViews.map ObjectView.handle :=
    map_eq_of_forall₂ (fun view view' hsame => by
      rcases hsame with rfl | ⟨-, hhides⟩
      · rfl
      · exact hhides.handle_eq) h.embeddedViews
  have hstored (object object' : StoredObject)
      (hsame : object' = object ∨ object.HidesValue handle object') :
      object'.handle = object.handle :=
    handle_eq_of_hides hsame
  have hcached := map_eq_of_forall₂ hstored h.cached
  have hvolatile := map_eq_of_forall₂ hstored h.volatile
  simp only [ObjectStore.handles, cachedHandles, hviews, hcached, hvolatile, h.layout_eq]

/-- The objects under a handle are the same, or it is the handle and they hide their value. -/
theorem get? (h : store.SameButValue handle store') (other : ObjectHandle) :
    Option.Rel (fun view view' => view' = view ∨ other = handle ∧ view.HidesValue view')
      (store.get? other) (store'.get? other) := by
  have hsame (found : Option ObjectView) : Option.Rel
      (fun view view' => view' = view ∨ other = handle ∧ view.HidesValue view') found found := by
    cases found with
    | none => exact .none
    | some view => exact .some (.inl rfl)
  have hparsed {objects objects' : List StoredObject}
      (hobjects : List.Forall₂ (fun object object' => object' = object ∨
        object.HidesValue handle object') objects objects') :
      Option.Rel (fun view view' => view' = view ∨ other = handle ∧ view.HidesValue view')
        ((StoredObject.find? objects other).bind fun o => ObjectView.parse? o.blob)
        ((StoredObject.find? objects' other).bind fun o => ObjectView.parse? o.blob) := by
    have hfound := find?_forall₂ (q := fun o => o.handle == other)
      (fun o o' hrelated => by rw [handle_eq_of_hides hrelated]) hobjects
    unfold StoredObject.find?
    generalize hx : objects.find? (fun o => o.handle == other) = x,
      objects'.find? (fun o => o.handle == other) = x' at hfound ⊢
    cases hfound with
    | none => exact .none
    | @some object object' hrelated =>
      have hnamed : object.handle = other := by simpa using List.find?_some hx
      rcases hrelated with rfl | ⟨hhandle, -, view, view', hview, hview', hhides⟩
      · exact hsame _
      · rw [Option.bind_some, Option.bind_some, hview, hview']
        exact .some (.inr ⟨hnamed.symm.trans hhandle, hhides⟩)
  unfold ObjectStore.get?
  rw [h.layout_eq]
  cases store.layout.classify other with
  | embedded =>
    have hfound := find?_forall₂ (q := fun view => view.handle == other)
      (fun view view' hrelated => by
        rcases hrelated with rfl | ⟨-, hhides⟩
        · rfl
        · rw [hhides.handle_eq]) h.embeddedViews
    generalize hx : store.embeddedViews.find? (fun view => view.handle == other) = x,
      store'.embeddedViews.find? (fun view => view.handle == other) = x' at hfound ⊢
    cases hfound with
    | none => exact .none
    | @some view view' hrelated =>
      have hnamed : view.handle = other := by simpa using List.find?_some hx
      exact .some (hrelated.imp_right fun hhides => ⟨hnamed.symm.trans hhides.1, hhides.2⟩)
  | nvmStatic | nvmDynamic => exact hparsed h.cached
  | vmDynamic => exact hparsed h.volatile
  | extTokenStatic | extTokenDynamic | unknown => exact hsame none

end SameButValue

end ObjectStore

end KeyEnclave
