import KeyEnclave.Proofs.Kms.Import
import KeyEnclave.Proofs.Kms.Searching

/-!
# The objects of the firmware

A configuration is accepted blob by blob: each has to be an object of the embedded range. Whether
all of them can be reached is a question about the whole table, since a lookup stops at the first
object with the handle.

## Main definitions

* `Kms.IsProvisioned` — every embedded object can be reached, and no handle is listed twice.

## Main results

* `ObjectStore.IsSound.nodup_handles_iff` — only embedded objects can share a handle.
* `ObjectStore.get?_of_first` — a lookup finds the first embedded object with the handle.
* `Kms.isProvisioned_iff_distinct` — every object is reached as long as no two share a handle.
-/

namespace KeyEnclave

-- ═══════════════════════════════════════════════════════════════════════════
-- The embedded objects of a store
-- ═══════════════════════════════════════════════════════════════════════════

namespace ObjectStore

variable {N : Type} {layout : ObjectLayout} {embedded front rest : List Bytes} {blob : Bytes}
  {store : ObjectStore N} {object : ObjectView}

/-- A lookup finds the first embedded object with the handle. -/
theorem get?_of_first (hclass : store.layout.classify object.handle = .embedded)
    (htable : store.embedded = front ++ blob :: rest)
    (hparse : ObjectView.parse? blob = some object)
    (hfirst : object.handle ∉ (front.filterMap ObjectView.parse?).map ObjectView.handle) :
    store.get? object.handle = some object := by
  have hnone : (front.filterMap ObjectView.parse?).find?
      (fun view => view.handle == object.handle) = none := by
    refine List.find?_eq_none.mpr fun view hview hsame => hfirst ?_
    rw [← beq_iff_eq.mp hsame]
    exact List.mem_map_of_mem hview
  rw [Kms.get?_embedded hclass, embeddedViews, htable, List.filterMap_append, List.find?_append,
    hnone, Option.none_or, List.filterMap_cons, hparse]
  exact List.find?_cons_of_pos (beq_self_eq_true _)

/-- The ranges keep the objects apart, and the tables in RAM hold a handle once. -/
theorem IsSound.nodup_handles_iff (h : store.IsSound layout embedded)
    (hvalid : store.embeddedValid = true) :
    store.handles.Nodup ↔ (store.embeddedViews.map ObjectView.handle).Nodup := by
  have hcached {provenance : Provenance} : ∀ handle ∈ store.cachedHandles provenance,
      store.layout.classify handle = provenance := fun _ hmem => (mem_cachedHandles.mp hmem).2
  have hvolatile : ∀ handle ∈ StoredObject.handles store.volatile,
      store.layout.classify handle = .vmDynamic := by
    intro handle hmem
    obtain ⟨object, hobject, rfl⟩ := List.mem_map.mp hmem
    rw [h.layout_eq]
    exact h.volatile.placed object hobject
  have hembedded : ∀ handle ∈ store.embeddedViews.map ObjectView.handle,
      store.layout.classify handle = .embedded := fun _ => classify_of_embeddedValid hvalid
  have happart {p q : Provenance} {handles handles' : List ObjectHandle} (hne : p ≠ q)
      (hp : ∀ handle ∈ handles, store.layout.classify handle = p)
      (hq : ∀ handle ∈ handles', store.layout.classify handle = q) : handles.Disjoint handles' :=
    fun handle hmem hmem' => hne ((hp handle hmem).symm.trans (hq handle hmem'))
  have honce (provenance : Provenance) : (store.cachedHandles provenance).Nodup :=
    h.cached.nodup.filter _
  constructor
  · intro hnodup
    simp only [handles, List.append_assoc] at hnodup
    exact hnodup.of_append_left
  · intro hdistinct
    have hpersistent := (hdistinct.append (honce .nvmStatic)
      (happart (by decide) hembedded hcached)).append (honce .nvmDynamic)
        (List.disjoint_append_left.mpr
          ⟨happart (by decide) hembedded hcached, happart (by decide) hcached hcached⟩)
    refine hpersistent.append h.volatile.nodup ?_
    rw [List.disjoint_append_left, List.disjoint_append_left]
    exact ⟨⟨happart (by decide) hembedded hvolatile, happart (by decide) hcached hvolatile⟩,
      happart (by decide) hcached hvolatile⟩

end ObjectStore

-- ═══════════════════════════════════════════════════════════════════════════
-- The embedded objects of a service
-- ═══════════════════════════════════════════════════════════════════════════

/-- The objects of the table of a configuration. -/
def KmsConfig.objects (config : KmsConfig) : List ObjectView :=
  config.embedded.filterMap ObjectView.parse?

namespace Kms

/-- Every blob of the table is an object that is found under its handle, unless the handle is
latched, and no handle is listed twice. -/
structure IsProvisioned {C T N : Type} (config : KmsConfig) (kms : Kms C T N) : Prop where
  reachable : ∀ blob ∈ config.embedded, ∃ object, ObjectView.parse? blob = some object ∧
    (kms.latches.isKeyLocked object.handle = false → kms.lookup object.handle = some object)
  nodup : kms.store.handles.Nodup

variable {C T N : Type} {config : KmsConfig} {kms : Kms C T N}

theorem lookup_of_unlatched {handle : ObjectHandle}
    (hlatch : kms.latches.isKeyLocked handle = false) :
    kms.lookup handle = kms.store.get? handle := by
  rw [lookup, hlatch]
  rfl

/-- Without a template a search finds every listed object that is not latched. -/
theorem matching_nil (hsound : kms.store.IsSound config.layout config.embedded)
    (hvalid : kms.store.embeddedValid = true) :
    kms.matching [] = kms.store.handles.filter fun handle => !kms.latches.isKeyLocked handle := by
  refine List.filter_congr fun handle hmem => ?_
  have hthere : (kms.store.get? handle).isSome = true := by
    refine (hsound.isSome_get?_iff fun hembedded => ?_).mpr hmem
    rw [← hsound.layout_eq]
    exact ObjectStore.classify_of_embeddedValid hvalid hembedded
  cases hlatch : kms.latches.isKeyLocked handle with
  | true => simp [lookup, hlatch]
  | false =>
    obtain ⟨object, hobject⟩ := Option.isSome_iff_exists.mp hthere
    simp [lookup_of_unlatched hlatch, hobject, ObjectView.Matches]

variable [CryptoProvider C] [ExternalToken T] [NvmStorage N]

/-- In every state of an accepted service each embedded blob is an object, under whose handle the
first object of the table with this handle is found. So exactly if no two of them share a handle
every one is found under its own, and a search considers no handle twice: without a template that is
every listed handle that is not latched. -/
theorem isProvisioned_iff_distinct {crypto : C} {token : T} {nvm : N} {start : Kms C T N}
    (hnew : Kms.new config crypto token nvm = .ok start) (calls : List Call) :
    let kms := start.after calls
    (kms.IsProvisioned config ↔ (config.objects.map ObjectView.handle).Nodup) ∧
      (∀ front blob rest, config.embedded = front ++ blob :: rest →
        ∃ object, ObjectView.parse? blob = some object ∧
          (kms.latches.isKeyLocked object.handle = false →
            ∃ found, kms.lookup object.handle = some found ∧ found.handle = object.handle ∧
              (object.handle ∉ (front.filterMap ObjectView.parse?).map ObjectView.handle →
                found = object))) ∧
      kms.matching [] =
        kms.store.handles.filter fun handle => !kms.latches.isKeyLocked handle := by
  intro kms
  have hsound : kms.store.IsSound config.layout config.embedded := (isSound_after hnew calls).store
  have hvalid : kms.store.embeddedValid = true := embeddedValid_after hnew calls
  have hobject {blob : Bytes} (hmem : blob ∈ config.embedded) :
      ∃ object, ObjectView.parse? blob = some object ∧
        kms.store.layout.classify object.handle = .embedded :=
    ObjectStore.exists_of_embeddedValid hvalid (by rwa [hsound.embedded_eq])
  have hviews : kms.store.embeddedViews = config.objects := by
    rw [ObjectStore.embeddedViews, hsound.embedded_eq]
    rfl
  have hmem {blob : Bytes} {object : ObjectView} (hblob : blob ∈ config.embedded)
      (hparse : ObjectView.parse? blob = some object) : object ∈ kms.store.embeddedViews := by
    rw [hviews]
    exact List.mem_filterMap.mpr ⟨blob, hblob, hparse⟩
  have hlisted := hsound.nodup_handles_iff hvalid
  refine ⟨⟨fun hprovisioned => ?_, fun hdistinct => ?_⟩, ?_, matching_nil hsound hvalid⟩
  · rw [← hviews]
    exact hlisted.mp hprovisioned.nodup
  · rw [← hviews] at hdistinct
    refine ⟨fun blob hblob => ?_, hlisted.mpr hdistinct⟩
    obtain ⟨object, hparse, hclass⟩ := hobject hblob
    refine ⟨object, hparse, fun hlatch => ?_⟩
    rw [lookup_of_unlatched hlatch]
    exact ObjectStore.get?_of_mem_embedded hclass hdistinct (hmem hblob hparse)
  · intro front blob rest htable
    have hblob : blob ∈ config.embedded := by simp [htable]
    obtain ⟨object, hparse, hclass⟩ := hobject hblob
    refine ⟨object, hparse, fun hlatch => ?_⟩
    obtain ⟨found, hfound⟩ := Option.isSome_iff_exists.mp
      ((ObjectStore.isSome_get?_embedded hclass).mpr (List.mem_map_of_mem (hmem hblob hparse)))
    obtain ⟨-, -, -, hhandle⟩ := exists_embedded hclass hfound
    refine ⟨found, (lookup_of_unlatched hlatch).trans hfound, hhandle, fun hfirst => ?_⟩
    have hown := ObjectStore.get?_of_first hclass (hsound.embedded_eq.trans htable) hparse hfirst
    exact Option.some.inj (hfound.symm.trans hown)

/-- Two embedded objects and one in RAM. -/
theorem embedded_pair_is_provisioned :
    (searchedConfig.objects.map ObjectView.handle) = [3, 5] ∧
      (searchedStart.after beforeSearch).IsProvisioned searchedConfig ∧
      (searchedStart.after beforeSearch).matching [] = [3, 5, 50] := by
  have hnew : Kms.new searchedConfig NoCrypto.mk NoExternalToken.mk NoNvm.mk = .ok searchedStart :=
    rfl
  have hhandles : searchedConfig.objects.map ObjectView.handle = [3, 5] := by decide +kernel
  refine ⟨hhandles, (isProvisioned_iff_distinct hnew beforeSearch).1.mpr ?_, by decide +kernel⟩
  rw [hhandles]
  decide

/-- An object with a label of one byte. -/
def labelled (handle : ObjectHandle) (label : UInt8) : Bytes :=
  [ObjectFormat.version, ObjectFormat.configuration, 12, 1, handle, AttributeKind.label, 1,
    label.toUInt32].flatMap Bytes.ofWord

/-- Two objects with a handle. -/
def shadowingConfig : KmsConfig := ⟨.standard, [labelled 5 1, labelled 5 2], none⟩

/-- The table is accepted, but the handle is listed twice, and the second object is never found. -/
theorem second_object_is_shadowed :
    ∃ start : Kms NoCrypto NoExternalToken NoNvm,
      Kms.new shadowingConfig NoCrypto.mk NoExternalToken.mk NoNvm.mk = .ok start ∧
        start.latches.isKeyLocked 5 = false ∧
        ObjectView.parse? (labelled 5 2) ≠ ObjectView.parse? (labelled 5 1) ∧
        start.lookup 5 = ObjectView.parse? (labelled 5 1) ∧ start.store.handles = [5, 5] ∧
        ¬start.IsProvisioned shadowingConfig := by
  refine ⟨_, rfl, by decide +kernel, by decide +kernel, by decide +kernel, by decide +kernel,
    fun hprovisioned => ?_⟩
  exact absurd hprovisioned.nodup (by decide +kernel)

end Kms

end KeyEnclave
