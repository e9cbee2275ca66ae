import KeyEnclave.Proofs.Simulation.Storage
import Mathlib.Data.Finset.Card

/-!
# Installations are all or nothing

An installation either replaces every listed object, in the cache and in storage, or leaves both as
they were. Which of the two happens is decided before the first write, except for writes that fail,
and those are taken back.

## Main definitions

* `ObjectStore.Accepts` — what is checked before the first write.
* `ObjectStore.AllOrNothing` — what an installation may leave behind.

## Main results

* `ObjectStore.installAll_allOrNothing` — what it leaves behind is one of that.
-/

namespace KeyEnclave

open KeyEnclave.Action

/-- What operations that all succeed do to the content. -/
def NvmOp.effects (ops : List NvmOp) (content : NvmContent) : NvmContent :=
  ops.foldl (fun content op => op.effect content) content

namespace ObjectStore

section Contents

variable {content : NvmContent} {objects cached : List StoredObject} {key : ObjectHandle}

/-- After writes, the last object with a handle is kept under it. -/
theorem effects_writes : NvmOp.effects (objects.map writeOf) content key =
    ((StoredObject.last? objects key).map recordOf).or (content key) := by
  induction objects generalizing content with
  | nil => rfl
  | cons object objects ih =>
    show NvmOp.effects (objects.map writeOf) ((writeOf object).effect content) key = _
    rw [ih, StoredObject.last?_cons]
    cases StoredObject.last? objects key with
    | some found => rfl
    | none =>
      by_cases heq : object.handle = key
      · simp [NvmOp.effect, heq]
      · simp [NvmOp.effect, heq, Function.update_of_ne (Ne.symm heq)]

theorem effect_undoOf (cached : List StoredObject) (object : StoredObject) :
    (undoOf cached object).effect content = Function.update content object.handle
      ((StoredObject.find? cached object.handle).map recordOf) := by
  unfold undoOf
  cases hfind : StoredObject.find? cached object.handle with
  | none => rfl
  | some previous =>
    rw [← (StoredObject.mem_of_find? hfind).2]
    rfl

/-- After writes were taken back, what the cache holds is kept under their handles. -/
theorem effects_undone : NvmOp.effects (objects.map (undoOf cached)) content key =
    if key ∈ StoredObject.handles objects then (StoredObject.find? cached key).map recordOf
    else content key := by
  induction objects generalizing content with
  | nil => rfl
  | cons object objects ih =>
    show NvmOp.effects (objects.map (undoOf cached)) ((undoOf cached object).effect content) key = _
    rw [ih, effect_undoOf]
    by_cases heq : key = object.handle
    · subst heq
      simp [StoredObject.handles]
    · simp [StoredObject.handles, heq]

variable {N : Type} [ContentStorage N] {store : ObjectStore N}

theorem content_afterAll {ops : List NvmOp}
    (h : ∀ event ∈ store.eventsOf ops, event.isSuccess = true) :
    (store.afterAll ops).content = NvmOp.effects ops store.content := by
  induction ops generalizing store with
  | nil => rfl
  | cons op ops ih =>
    have h := List.forall_mem_cons.mp h
    have hfirst : (store.afterNvm op).content = op.effect store.content :=
      ContentStorage.content_of_success op store.nvm h.1
    show ((store.afterNvm op).afterAll ops).content = NvmOp.effects ops (op.effect store.content)
    rw [ih h.2, hfirst]

/-- A failed installation whose writes could be taken back leaves what the cache holds under the
handles it wrote to, and what was there under all others. -/
theorem content_failedOps (key : ObjectHandle) {done : List StoredObject} {object : StoredObject}
    (hdone : ∀ event ∈ store.eventsOf (done.map writeOf), event.isSuccess = true)
    (hfailed : ((store.afterAll (done.map writeOf)).nvmEvent (writeOf object)).isSuccess = false)
    (hundone : ∀ event ∈ ((store.afterAll (done.map writeOf)).afterNvm (writeOf object)).eventsOf
      (done.map (undoOf store.cached)), event.isSuccess = true) :
    (store.afterAll (failedOps store.cached done object [])).content key =
      if key ∈ StoredObject.handles done then (StoredObject.find? store.cached key).map recordOf
      else store.content key := by
  have hfirst : ((store.afterAll (done.map writeOf)).afterNvm (writeOf object)).content =
      NvmOp.effects (done.map writeOf) store.content :=
    (ContentStorage.content_of_failedWrite _ _ _ hfailed).trans (content_afterAll hdone)
  rw [failedOps, afterAll_append]
  show (((store.afterAll (done.map writeOf)).afterNvm (writeOf object)).afterAll _).content key = _
  rw [List.nil_append, content_afterAll hundone, effects_undone, hfirst, effects_writes]
  split
  · rfl
  · next hnew => rw [StoredObject.last?_eq_none.mpr hnew, Option.map_none, Option.none_or]

end Contents

/-- The handles that are cached or listed, each once. -/
def handlesWith {N : Type} (store : ObjectStore N) (blobs : List Bytes) : Finset ObjectHandle :=
  (StoredObject.handles (store.cached ++ StoredObject.ofBlobs blobs)).toFinset

/-- Every blob may be installed, and the cache has room for all their handles. -/
def Accepts {N : Type} (store : ObjectStore N) (blobs : List Bytes) : Prop :=
  (∀ blob ∈ blobs, IsInstallable store.layout blob) ∧
    (store.handlesWith blobs).card ≤ Limits.cachedObjects

section Installation

variable {N : Type} {store : ObjectStore N}

/-- The cache becomes as long as there are handles that are cached or listed. -/
theorem length_cacheAll_eq_card (blobs : List Bytes)
    (hnodup : (StoredObject.handles store.cached).Nodup) :
    (StoredObject.cacheAll store.cached (StoredObject.ofBlobs blobs)).length =
      (store.handlesWith blobs).card := by
  have hset : (StoredObject.handles
      (StoredObject.cacheAll store.cached (StoredObject.ofBlobs blobs))).toFinset =
      store.handlesWith blobs := by
    ext handle
    rw [handlesWith, List.mem_toFinset, List.mem_toFinset, StoredObject.mem_handles_cacheAll,
      StoredObject.handles, StoredObject.handles, StoredObject.handles, List.map_append,
      List.mem_append]
  rw [← hset, List.toFinset_card_of_nodup (StoredObject.nodup_cacheAll hnodup)]
  simp [StoredObject.handles]

variable [ContentStorage N]

/-- What an installation may leave behind. -/
structure AllOrNothing (store : ObjectStore N) (blobs : List Bytes)
    (outcome : Outcome (ObjectStore N) NvmExchange StoreError Unit) : Prop where
  /-- An error leaves RAM as it was. -/
  ram_of_error : ∀ error, outcome.answer = .error error →
    outcome.state.cached = store.cached ∧ outcome.state.volatile = store.volatile
  /-- What is not accepted is refused, and storage is not asked for anything. -/
  refused : ¬store.Accepts blobs → ∃ error, outcome = ⟨.error error, store, []⟩
  /-- What is accepted fails in a write only. The writes before it are taken back one by one, and
  when that succeeds storage reloads to what the cache holds. -/
  rolledBack : store.Accepts blobs → ∀ error, outcome.answer = .error error →
    error = .writeFailed ∧ ∃ done object rest written failed undone,
      StoredObject.ofBlobs blobs = done ++ object :: rest ∧
      outcome.journal = written ++ failed :: undone ∧
      written.map Sigma.fst = done.map writeOf ∧
      (∀ event ∈ written, NvmExchange.isSuccess event = true) ∧
      failed.fst = writeOf object ∧ NvmExchange.isSuccess failed = false ∧
      undone.map Sigma.fst = done.map (undoOf store.cached) ∧
      ((∀ event ∈ undone, NvmExchange.isSuccess event = true) →
        Mirrors store.layout outcome.state.content store.cached)
  /-- On success every listed handle has the last object listed for it and every other handle what it
  had, in the cache and in what storage reloads to. -/
  installed : outcome.answer = .ok () →
    (∀ handle, StoredObject.find? outcome.state.cached handle =
      (StoredObject.last? (StoredObject.ofBlobs blobs) handle).or
        (StoredObject.find? store.cached handle)) ∧
    Mirrors store.layout outcome.state.content outcome.state.cached ∧
    outcome.state.volatile = store.volatile
  /-- The cache is then as long as was reckoned with, which is not too long. -/
  capacity : outcome.answer = .ok () →
    outcome.state.cached.length = (store.handlesWith blobs).card ∧
      outcome.state.cached.length ≤ Limits.cachedObjects

/-- Storage from which every write was taken back reloads to what the cache holds. -/
theorem mirrors_failedOps (hvalid : store.layout.validate = .ok ())
    (hnodup : (StoredObject.handles store.cached).Nodup)
    (hmirrors : Mirrors store.layout store.content store.cached)
    {done : List StoredObject} {object : StoredObject}
    (hdone : ∀ event ∈ store.eventsOf (done.map writeOf), event.isSuccess = true)
    (hfailed : ((store.afterAll (done.map writeOf)).nvmEvent (writeOf object)).isSuccess = false)
    (hundone : ∀ event ∈ ((store.afterAll (done.map writeOf)).afterNvm (writeOf object)).eventsOf
      (done.map (undoOf store.cached)), event.isSuccess = true) :
    Mirrors store.layout (store.afterAll (failedOps store.cached done object [])).content
      store.cached := by
  refine mirrors_of_recallOne hvalid (fun handle hplace => ?_)
    fun handle hplace => find?_eq_none_of_mirrors hvalid hmirrors hplace
  have hcontent := content_failedOps handle hdone hfailed hundone
  split at hcontent
  · exact recallOne_of_kept (fun o ho => isSound_of_mirrors hvalid hmirrors hnodup ho) hcontent
  · rw [recallOne_congr hcontent]
    exact recallOne_of_mirrors hvalid hmirrors hplace

/-- Storage to which every object was written reloads to the cache with all of them. -/
theorem mirrors_writes (hvalid : store.layout.validate = .ok ())
    (hnodup : (StoredObject.handles store.cached).Nodup)
    (hmirrors : Mirrors store.layout store.content store.cached) {objects : List StoredObject}
    (hobjects : ∀ o ∈ objects, o.IsSound ∧ store.layout.classify o.handle = .nvmStatic)
    (hall : ∀ event ∈ store.eventsOf (objects.map writeOf), event.isSuccess = true) :
    Mirrors store.layout (store.afterAll (objects.map writeOf)).content
      (StoredObject.cacheAll store.cached objects) := by
  have hcontent (handle : ObjectHandle) : (store.afterAll (objects.map writeOf)).content handle =
      ((StoredObject.last? objects handle).map recordOf).or (store.content handle) := by
    rw [content_afterAll hall, effects_writes]
  refine mirrors_of_recallOne hvalid (fun handle hplace => ?_) fun handle hplace => ?_
  · rw [StoredObject.find?_cacheAll hnodup]
    have hkept := hcontent handle
    cases hlast : StoredObject.last? objects handle with
    | some found =>
      rw [hlast] at hkept
      obtain ⟨hmem, rfl⟩ := StoredObject.mem_of_last? hlast
      exact recallOne_of_record (hobjects found hmem).1 hkept
    | none =>
      rw [hlast] at hkept
      rw [recallOne_congr hkept]
      exact recallOne_of_mirrors hvalid hmirrors hplace
  · rw [StoredObject.find?_cacheAll hnodup, find?_eq_none_of_mirrors hvalid hmirrors hplace,
      Option.or_none, StoredObject.last?_eq_none]
    intro hmem
    obtain ⟨object, hobject, rfl⟩ := List.mem_map.mp hmem
    exact hplace (.inl (hobjects object hobject).2)

/-- An installation into a cache that mirrors storage is all or nothing. -/
theorem installAll_allOrNothing (store : ObjectStore N) (blobs : List Bytes)
    (hvalid : store.layout.validate = .ok ())
    (hnodup : (StoredObject.handles store.cached).Nodup)
    (hmirrors : Mirrors store.layout store.content store.cached) :
    AllOrNothing store blobs ((installAll blobs).run store) := by
  show Ends (installAll blobs) store (AllOrNothing store blobs)
  have hsound : ∀ o ∈ store.cached, o.IsSound := fun o ho =>
    isSound_of_mirrors hvalid hmirrors hnodup ho
  have hlength := length_cacheAll_eq_card blobs hnodup
  refine installAll_ends hsound (fun error hrefused => ?_) ?_ ?_
  · -- refused before the first write
    have hnot : ¬store.Accepts blobs := fun haccepts =>
      absurd (hrefused haccepts.1) (Nat.not_lt.mpr (hlength ▸ haccepts.2))
    exact {
      ram_of_error := fun _ _ => ⟨rfl, rfl⟩
      refused := fun _ => ⟨error, rfl⟩
      rolledBack := fun haccepts => absurd haccepts hnot
      installed := fun h => by cases h
      capacity := fun h => by cases h }
  · -- failed in a write
    intro done object rest hblobs hroom hsplit hdone hfailed
    have haccepts : store.Accepts blobs := ⟨hblobs, hlength ▸ hroom⟩
    refine {
      ram_of_error := fun _ _ => ⟨cached_afterAll _ _, volatile_afterAll _ _⟩
      refused := fun hnot => absurd haccepts hnot
      rolledBack := fun _ error herror => ?_
      installed := fun h => by cases h
      capacity := fun h => by cases h }
    obtain rfl := Except.error.inj herror
    exact ⟨rfl, done, object, rest, _, _, _, hsplit, eventsOf_failedOps store done object,
      map_fst_eventsOf _ _, hdone, rfl, hfailed, map_fst_eventsOf _ _, fun hundone =>
        mirrors_failedOps hvalid hnodup hmirrors hdone hfailed hundone⟩
  · -- every object was written
    intro hblobs hroom hall
    exact {
      ram_of_error := fun _ h => by cases h
      refused := fun hnot => absurd ⟨hblobs, hlength ▸ hroom⟩ hnot
      rolledBack := fun _ _ h => by cases h
      installed := fun _ => ⟨fun _ => StoredObject.find?_cacheAll hnodup,
        mirrors_writes hvalid hnodup hmirrors (isSound_of_installable hblobs) hall,
        volatile_afterAll _ _⟩
      capacity := fun _ => ⟨hlength, hroom⟩ }

end Installation

/-- Two objects without attributes and a store whose storage fails in the second write: the first
object is taken back. -/
theorem installAll_second_write_fails :
    let blobs := [30, 31].map fun handle =>
      [ObjectFormat.version, ObjectFormat.configuration, 0, 0, handle].flatMap Bytes.ofWord
    let store := ObjectStore.new .standard []
      ({ faults := { writesFrom := some 2 } } : SimulatedNvm)
    ((installAll blobs).run store).answer = .error .writeFailed ∧
      AllOrNothing store blobs ((installAll blobs).run store) :=
  ⟨by decide +kernel, installAll_allOrNothing _ _ (by decide) (by decide)
    (mirrors_empty (by decide) fun _ => rfl)⟩

end ObjectStore

end KeyEnclave
