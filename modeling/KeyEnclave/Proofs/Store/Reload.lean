import KeyEnclave.Proofs.Action.Alike
import KeyEnclave.Proofs.Store.Sound
import Mathlib.Logic.Function.Basic

/-!
# The cache and what storage would reload

Storage that keeps what is written to it has a content, and a content determines what loading from
it gives. The cache mirrors storage when it holds just that.

## Main definitions

* `ContentStorage` — storage with a content, on which failed writes have no effect.
* `SteadyStorage` — so have no other failed operations, and reads return the content.
* `PlainStorage` — storage that is nothing but a content.
* `ObjectStore.reload` — what loading from a content gives.
* `ObjectStore.Mirrors` — the cache holds what loading would give.
* `ObjectStore.Recalls` — it does so under some of the handles.

## Main results

* `ObjectStore.mirrors_iff` — what that means, handle by handle.
* `ObjectStore.Recalls.insert_keeps`, `remove_keeps` — storing and removing keep it.
* `ObjectStore.reload_congr` — what is reloaded depends on what is recalled under each handle.
* `ObjectStore.load_recalls` — loading establishes it.
-/

namespace KeyEnclave

open KeyEnclave.Action

/-- What storage keeps under each key. -/
abbrev NvmContent := UInt32 → Option Bytes

/-- What an operation that succeeds does to the content. -/
def NvmOp.effect : NvmOp → NvmContent → NvmContent
  | .read .., content => content
  | .write key data, content => Function.update content key (some data)
  | .remove key, content => Function.update content key none

/-- Storage with a content, on which operations that succeed have their effect and writes that fail
have none. -/
class ContentStorage (N : Type) extends NvmStorage N where
  content : N → NvmContent
  content_of_success : ∀ (op : NvmOp) (nvm : N),
    NvmExchange.isSuccess ⟨op, (serve op nvm).1⟩ = true →
      content (serve op nvm).2 = op.effect (content nvm)
  content_of_failedWrite : ∀ (key : UInt32) (data : Bytes) (nvm : N),
    NvmExchange.isSuccess ⟨.write key data, (serve (.write key data) nvm).1⟩ = false →
      content (serve (.write key data) nvm).2 = content nvm

/-- Storage on which no operation that fails has an effect, and which reads what is there. -/
class SteadyStorage (N : Type) extends ContentStorage N where
  content_of_failure : ∀ (op : NvmOp) (nvm : N),
    NvmExchange.isSuccess ⟨op, (serve op nvm).1⟩ = false → content (serve op nvm).2 = content nvm
  content_of_read : ∀ (key : UInt32) (room : Nat) (nvm : N) (found : Option Bytes),
    (serve (.read key room) nvm).1 = .ok found →
      content nvm key = found ∧ ∀ data, found = some data → data.length ≤ room

/-- Storage that is nothing but a content. -/
structure PlainStorage where
  content : NvmContent

/-- What is read into a buffer of `room` bytes; a longer record can not be read. -/
def NvmContent.read (content : NvmContent) (key : UInt32) (room : Nat) :
    Except NvmError (Option Bytes) :=
  match content key with
  | none => .ok none
  | some data => if room < data.length then .error .failed else .ok (some data)

theorem NvmContent.read_eq_ok {content : NvmContent} {key : UInt32} {room : Nat}
    {found : Option Bytes} : content.read key room = .ok found ↔
      content key = found ∧ ∀ data, found = some data → data.length ≤ room := by
  unfold read
  cases content key with
  | none =>
    constructor
    · intro h
      obtain rfl : none = found := Except.ok.inj h
      exact ⟨rfl, fun _ h => by cases h⟩
    · rintro ⟨rfl, -⟩
      rfl
  | some data =>
    by_cases hlong : room < data.length
    · simp only [if_pos hlong]
      constructor
      · intro h
        cases h
      · rintro ⟨rfl, hroom⟩
        exact absurd (hroom data rfl) (Nat.not_le.mpr hlong)
    · simp only [if_neg hlong]
      constructor
      · intro h
        obtain rfl : some data = found := Except.ok.inj h
        exact ⟨rfl, fun _ h => by cases h; exact Nat.not_lt.mp hlong⟩
      · rintro ⟨rfl, -⟩
        rfl

instance : SteadyStorage PlainStorage where
  serve
    | .read key room, nvm => (nvm.content.read key room, nvm)
    | .write key data, nvm => (.ok (), ⟨NvmOp.effect (.write key data) nvm.content⟩)
    | .remove key, nvm => (.ok (), ⟨NvmOp.effect (.remove key) nvm.content⟩)
  content := PlainStorage.content
  content_of_success op nvm h := by cases op <;> rfl
  content_of_failedWrite key data nvm h := by cases h
  content_of_failure op nvm h := by
    cases op with
    | read => rfl
    | write | remove => cases h
  content_of_read key room nvm found h := NvmContent.read_eq_ok.mp h

namespace ObjectStore

/-- What loading from a content gives. -/
def reload (layout : ObjectLayout) (content : NvmContent) :
    Except StoreError (List StoredObject) :=
  let loaded := load.run (ObjectStore.new layout [] (PlainStorage.mk content))
  loaded.answer.map fun _ => loaded.state.cached

/-- What storage keeps. -/
abbrev content {N : Type} [ContentStorage N] (store : ObjectStore N) : NvmContent :=
  ContentStorage.content store.nvm

/-- What loading gives under one handle. -/
def recallOne (content : NvmContent) (handle : ObjectHandle) :
    Except StoreError (Option StoredObject) :=
  objectOfReply handle (content.read handle recordRoom)

/-- What loading gives under one handle, if nothing keeps it from being loaded. -/
def recalled (content : NvmContent) (handle : ObjectHandle) : Option StoredObject :=
  match recallOne content handle with
  | .ok found => found
  | .error _ => none

/-- Nothing in a content keeps it from being loaded. -/
def Loadable (layout : ObjectLayout) (content : NvmContent) : Prop :=
  ∀ handle, layout.IsPersistent handle → ∃ found, recallOne content handle = .ok found

/-- What loading gives, handle by handle. -/
def recallAt (layout : ObjectLayout) (content : NvmContent) (handle : ObjectHandle) :
    Option StoredObject :=
  if layout.IsPersistent handle then recalled content handle else none

/-- A cache holds what loading from a content would give. -/
def Mirrors (layout : ObjectLayout) (content : NvmContent) (cached : List StoredObject) : Prop :=
  ∃ objects, reload layout content = .ok objects ∧
    ∀ handle, StoredObject.find? cached handle = StoredObject.find? objects handle

/-- Under the handles that satisfy `p`, a cache holds what loading from a content would give. -/
def Recalls (p : ObjectHandle → Prop) (content : NvmContent) (cached : List StoredObject) : Prop :=
  ∀ handle, p handle → recallOne content handle = .ok (StoredObject.find? cached handle)

-- ═══════════════════════════════════════════════════════════════════════════
-- Loading
-- ═══════════════════════════════════════════════════════════════════════════

section Load

variable {N : Type} [SteadyStorage N] {store : ObjectStore N} {layout : ObjectLayout}

theorem content_afterRead (handle : ObjectHandle) (room : Nat) :
    (store.afterNvm (.read handle room)).content = store.content := by
  cases hsuccess : (store.nvmEvent (.read handle room)).isSuccess with
  | true => exact ContentStorage.content_of_success _ _ hsuccess
  | false => exact SteadyStorage.content_of_failure _ _ hsuccess

/-- A read that succeeds yields what the content says. -/
theorem objectOfReply_eq {handle : ObjectHandle} {found : Option Bytes}
    (h : store.nvmReply (.read handle recordRoom) = .ok found) :
    objectOfReply handle (store.nvmReply (.read handle recordRoom)) =
      recallOne store.content handle := by
  rw [h, recallOne, NvmContent.read_eq_ok.mpr (SteadyStorage.content_of_read _ _ _ _ h)]

theorem recallOne_of_objectOfReply {handle : ObjectHandle} {found : Option StoredObject}
    (h : objectOfReply handle (store.nvmReply (.read handle recordRoom)) = .ok found) :
    recallOne store.content handle = .ok found := by
  cases hreply : store.nvmReply (.read handle recordRoom) with
  | error error =>
    rw [hreply] at h
    cases h
  | ok data => rwa [← objectOfReply_eq hreply]

/-- Loading distinct handles that are not cached yet. -/
theorem loadAll_recalls {handles : List ObjectHandle} (hnodup : handles.Nodup)
    (hnew : ∀ handle ∈ handles, StoredObject.find? store.cached handle = none) :
    Ends (handles.forM loadHandle) store fun outcome =>
      outcome.state.content = store.content ∧
        (outcome.answer = .ok () →
          (∀ handle ∈ handles, ∃ found, recallOne store.content handle = .ok found) ∧
          ∀ handle, StoredObject.find? outcome.state.cached handle =
            if handle ∈ handles then recalled store.content handle
            else StoredObject.find? store.cached handle) := by
  induction handles generalizing store with
  | nil => exact ⟨rfl, fun _ => ⟨fun _ h => (List.not_mem_nil h).elim, fun _ => rfl⟩⟩
  | cons first handles ih =>
    rw [List.nodup_cons] at hnodup
    rw [List.forall_mem_cons] at hnew
    -- what loading the others gives, when the cache then holds what `first` was found to have
    have hrest (next : ObjectStore N) (hcontent : next.content = store.content)
        {found : Option StoredObject} (hfound : recallOne store.content first = .ok found)
        (hcached : ∀ handle, StoredObject.find? next.cached handle =
          if handle = first then found else StoredObject.find? store.cached handle) :
        Ends (handles.forM loadHandle) next fun outcome =>
          outcome.state.content = store.content ∧
            (outcome.answer = .ok () →
              (∀ handle ∈ first :: handles, ∃ found, recallOne store.content handle = .ok found) ∧
              ∀ handle, StoredObject.find? outcome.state.cached handle =
                if handle ∈ first :: handles then recalled store.content handle
                else StoredObject.find? store.cached handle) := by
      have hnext : ∀ handle ∈ handles, StoredObject.find? next.cached handle = none := by
        intro handle hmem
        have hne : handle ≠ first := fun heq => hnodup.1 (heq ▸ hmem)
        rw [hcached, if_neg hne]
        exact hnew.2 handle hmem
      refine Ends.mono (ih hnodup.2 hnext) fun outcome houtcome => ?_
      rw [hcontent] at houtcome
      refine ⟨houtcome.1, fun hok => ?_⟩
      obtain ⟨hall, hfind⟩ := houtcome.2 hok
      refine ⟨List.forall_mem_cons.mpr ⟨⟨found, hfound⟩, hall⟩, fun handle => ?_⟩
      rw [hfind, hcached]
      by_cases hfirst : handle = first
      · subst hfirst
        simp [hnodup.1, recalled, hfound]
      · simp [hfirst]
    refine Ends.bind (loadHandle_ends (fun hreply => ?_) (fun object hobject _ => ?_) fun _ _ => ?_)
    · refine hrest _ (content_afterRead _ _) (recallOne_of_objectOfReply hreply) fun handle => ?_
      split
      · next heq => rw [heq]; exact hnew.1
      · rfl
    · obtain ⟨rfl, -⟩ := isSound_of_objectOfReply hobject
      exact hrest _ (content_afterRead _ _) (recallOne_of_objectOfReply hobject) fun handle =>
        StoredObject.find?_append_new hnew.1
    · exact ⟨content_afterRead _ _, fun h => by cases h⟩

/-- With a content that can be loaded and room in the cache, only a read that fails can keep the
objects from being loaded. -/
theorem loadAll_succeeds {handles : List ObjectHandle}
    (hloadable : ∀ handle ∈ handles, ∃ found, recallOne store.content handle = .ok found)
    (hroom : store.cached.length + handles.length ≤ Limits.cachedObjects) :
    Ends (handles.forM loadHandle) store fun outcome =>
      outcome.answer = .ok () ∨ ∃ handle ∈ handles, ∃ reader : ObjectStore N,
        reader.content = store.content ∧
        reader.nvmEvent (.read handle recordRoom) ∈ outcome.journal ∧
        (reader.nvmEvent (.read handle recordRoom)).isSuccess = false := by
  induction handles generalizing store with
  | nil => exact .inl rfl
  | cons first handles ih =>
    rw [List.forall_mem_cons] at hloadable
    rw [List.length_cons] at hroom
    have hrest (next : ObjectStore N) (hcontent : next.content = store.content)
        (hnext : next.cached.length + handles.length ≤ Limits.cachedObjects) :
        Ends (handles.forM loadHandle) next fun rest =>
          rest.answer = .ok () ∨ ∃ handle ∈ first :: handles, ∃ reader : ObjectStore N,
            reader.content = store.content ∧
            reader.nvmEvent (.read handle recordRoom) ∈
              store.nvmEvent (.read first recordRoom) :: rest.journal ∧
            (reader.nvmEvent (.read handle recordRoom)).isSuccess = false := by
      rw [← hcontent] at hloadable
      refine Ends.mono (ih hloadable.2 hnext) fun rest => ?_
      rintro (hok | ⟨handle, hmem, reader, hreader, hevent, hfailed⟩)
      · exact .inl hok
      · exact .inr ⟨handle, List.mem_cons_of_mem _ hmem, reader, hreader.trans hcontent,
          List.mem_cons_of_mem _ hevent, hfailed⟩
    refine Ends.bind (loadHandle_ends (fun _ => ?_) (fun object _ _ => ?_) fun error herror => ?_)
    · exact hrest _ (content_afterRead _ _)
        (Nat.le_trans (Nat.add_le_add_left (Nat.le_succ _) _) hroom)
    · refine hrest _ (content_afterRead _ _) ?_
      rw [List.length_append, List.length_singleton]
      omega
    · refine .inr ⟨first, List.mem_cons_self, store, rfl, List.mem_cons_self, ?_⟩
      obtain ⟨found, hfound⟩ := hloadable.1
      obtain ⟨e, he⟩ := herror (by omega)
      unfold nvmEvent
      cases hreply : store.nvmReply (.read first recordRoom) with
      | error failure => rfl
      | ok data =>
        rw [objectOfReply_eq hreply, hfound] at he
        cases he

/-- Loading leaves the content as it is, and when it succeeds it gives what the content says. -/
theorem load_recalls (hlayout : store.layout = layout) (hvalid : layout.validate = .ok ()) :
    Ends load store fun outcome =>
      outcome.state.content = store.content ∧
        (outcome.answer = .ok () →
          Loadable layout store.content ∧
          ∀ handle, StoredObject.find? outcome.state.cached handle =
            recallAt layout store.content handle) := by
  subst hlayout
  refine Ends.bind_modify (Ends.bind_get (Ends.mono (loadAll_recalls
    (ObjectLayout.nodup_nvmHandles hvalid) fun _ _ => rfl) fun outcome houtcome => ?_))
  refine ⟨houtcome.1, fun hok => ?_⟩
  obtain ⟨hall, hfind⟩ := houtcome.2 hok
  refine ⟨fun handle hplace => hall handle ((ObjectLayout.mem_nvmHandles hvalid).mpr hplace), ?_⟩
  intro handle
  rw [recallAt]
  simp only [← ObjectLayout.mem_nvmHandles hvalid]
  exact hfind handle

/-- A content that can be loaded is loaded, unless a read fails. -/
theorem load_succeeds (hlayout : store.layout = layout) (hvalid : layout.validate = .ok ())
    (hloadable : Loadable layout store.content) :
    Ends load store fun outcome =>
      outcome.answer = .ok () ∨ ∃ handle, layout.IsPersistent handle ∧
        ∃ reader : ObjectStore N, reader.content = store.content ∧
          reader.nvmEvent (.read handle recordRoom) ∈ outcome.journal ∧
          (reader.nvmEvent (.read handle recordRoom)).isSuccess = false := by
  subst hlayout
  have hmem {handle : ObjectHandle} :
      handle ∈ store.layout.nvmHandles ↔ store.layout.IsPersistent handle :=
    ObjectLayout.mem_nvmHandles hvalid
  refine Ends.bind_modify (Ends.bind_get (Ends.mono (loadAll_succeeds
    (fun handle h => hloadable handle (hmem.mp h)) ?_) fun outcome houtcome => ?_))
  · exact Nat.le_trans (Nat.le_of_eq (Nat.zero_add _)) (ObjectLayout.length_nvmHandles hvalid)
  · rcases houtcome with hok | ⟨handle, h, reader, hreader, hevent, hfailed⟩
    · exact .inl hok
    · exact .inr ⟨handle, hmem.mp h, reader, hreader, by simpa [Outcome.after] using hevent,
        hfailed⟩

end Load

-- ═══════════════════════════════════════════════════════════════════════════
-- Reloading
-- ═══════════════════════════════════════════════════════════════════════════

section Reload

variable {layout : ObjectLayout} {content : NvmContent} {objects : List StoredObject}

theorem reload_eq_ok (h : reload layout content = .ok objects) :
    (load.run (ObjectStore.new layout [] (PlainStorage.mk content))).answer = .ok () ∧
      (load.run (ObjectStore.new layout [] (PlainStorage.mk content))).state.cached = objects := by
  unfold reload at h
  cases hanswer : (load.run (ObjectStore.new layout [] (PlainStorage.mk content))).answer with
  | error error =>
    simp only [hanswer] at h
    cases h
  | ok u =>
    simp only [hanswer] at h
    exact ⟨rfl, Except.ok.inj h⟩

theorem recalls_of_reload (hvalid : layout.validate = .ok ())
    (h : reload layout content = .ok objects) :
    Loadable layout content ∧
      ∀ handle, StoredObject.find? objects handle = recallAt layout content handle := by
  obtain ⟨hanswer, hcached⟩ := reload_eq_ok h
  have hplain : (ObjectStore.new layout [] (PlainStorage.mk content)).layout = layout := rfl
  have hrecalls := (load_recalls hplain hvalid).2 hanswer
  rw [hcached] at hrecalls
  exact hrecalls

theorem reload_of_loadable (hvalid : layout.validate = .ok ()) (h : Loadable layout content) :
    ∃ objects, reload layout content = .ok objects := by
  have hplain : (ObjectStore.new layout [] (PlainStorage.mk content)).layout = layout := rfl
  rcases load_succeeds hplain hvalid h with hok | ⟨handle, hplace, reader, hreader, -, hfailed⟩
  · exact ⟨_, congrArg (Except.map _) hok⟩
  · -- storage that is nothing but its content reads whatever can be loaded
    obtain ⟨found, hfound⟩ := h handle hplace
    have hreply : reader.nvmReply (.read handle recordRoom) = content.read handle recordRoom :=
      congrArg (NvmContent.read · handle recordRoom) hreader
    unfold recallOne at hfound
    unfold nvmEvent at hfailed
    rw [hreply] at hfailed
    cases hread : content.read handle recordRoom with
    | error error =>
      rw [hread] at hfound
      cases hfound
    | ok data =>
      rw [hread] at hfailed
      cases hfailed

/-- Two storages from which the same is recalled under a handle load the same. -/
theorem loadHandle_alike {handle : ObjectHandle} {store store' : ObjectStore PlainStorage}
    (hcached : store'.cached = store.cached)
    (hrecall : recallOne store'.content handle = recallOne store.content handle) :
    EndsAlike (loadHandle handle) (loadHandle handle) store store' fun after after' =>
      after'.cached = after.cached ∧ after.content = store.content ∧
        after'.content = store'.content := by
  have hread (store : ObjectStore PlainStorage) :
      (askNvm (.read handle recordRoom) : Step PlainStorage _).run store =
        ⟨.ok (store.content.read handle recordRoom), store,
          [store.nvmEvent (.read handle recordRoom)]⟩ := rfl
  unfold recallOne at hrecall
  rw [loadHandle_eq]
  refine .bind_run (hread store) (hread store') ?_
  rw [hrecall]
  refine .bind_ofExcept ⟨hcached, rfl, rfl⟩ fun found _ => ?_
  cases found with
  | none => exact .pure ⟨hcached, rfl, rfl⟩
  | some object =>
    refine .bind_get ?_
    rw [hcached]
    exact .failing ⟨hcached, rfl, rfl⟩ fun _ => ⟨rfl, rfl, rfl, rfl⟩

/-- What is reloaded depends on what is recalled under each handle. -/
theorem reload_congr {other : NvmContent}
    (h : ∀ handle ∈ layout.nvmHandles, recallOne other handle = recallOne content handle) :
    reload layout other = reload layout content := by
  have hload : EndsAlike load load (ObjectStore.new layout [] (PlainStorage.mk content))
      (ObjectStore.new layout [] (PlainStorage.mk other)) fun store store' =>
        store'.cached = store.cached ∧ store.content = content ∧ store'.content = other := by
    refine .bind_modify (.bind_get (.forM _ (fun handle hmem store store' => ?_) ⟨rfl, rfl, rfl⟩))
    rintro ⟨hcached, rfl, rfl⟩
    exact loadHandle_alike hcached (h handle hmem)
  obtain ⟨hanswer, hcached, -⟩ := hload
  simp only [reload, hanswer, hcached]

/-- To mirror a content is to hold what it says under every handle. -/
theorem mirrors_iff (hvalid : layout.validate = .ok ()) {cached : List StoredObject} :
    Mirrors layout content cached ↔ Loadable layout content ∧
      ∀ handle, StoredObject.find? cached handle = recallAt layout content handle := by
  constructor
  · rintro ⟨objects, hreload, hfind⟩
    obtain ⟨hloadable, hrecall⟩ := recalls_of_reload hvalid hreload
    exact ⟨hloadable, fun handle => (hfind handle).trans (hrecall handle)⟩
  · rintro ⟨hloadable, hfind⟩
    obtain ⟨objects, hreload⟩ := reload_of_loadable hvalid hloadable
    exact ⟨objects, hreload, fun handle =>
      (hfind handle).trans ((recalls_of_reload hvalid hreload).2 handle).symm⟩

end Reload

-- ═══════════════════════════════════════════════════════════════════════════
-- Operations on storage
-- ═══════════════════════════════════════════════════════════════════════════

section Effects

variable {content : NvmContent} {object : StoredObject} {handle key : ObjectHandle}

/-- A content is recalled as far as it is kept. -/
theorem recallOne_congr {other : NvmContent} (h : content handle = other handle) :
    recallOne content handle = recallOne other handle := by
  unfold recallOne NvmContent.read
  rw [h]

/-- A record that was written is recalled. -/
theorem recallOne_of_record (hsound : object.IsSound)
    (h : content object.handle = some (recordOf object)) :
    recallOne content object.handle = .ok (some object) := by
  have hread : content.read object.handle recordRoom = .ok (some (recordOf object)) :=
    NvmContent.read_eq_ok.mpr
      ⟨h, fun data hdata => Option.some.inj hdata ▸ length_recordOf_le hsound.1⟩
  rw [recallOne, hread]
  exact objectOfRecord_recordOf hsound.1 hsound.2

theorem recallOne_of_none (h : content handle = none) : recallOne content handle = .ok none := by
  have hread : content.read handle recordRoom = .ok none :=
    NvmContent.read_eq_ok.mpr ⟨h, fun data hdata => by cases hdata⟩
  rw [recallOne, hread]
  rfl

/-- What is kept for an object of a list is recalled as that object. -/
theorem recallOne_of_kept {objects : List StoredObject} (hsound : ∀ o ∈ objects, o.IsSound)
    (h : content handle = (StoredObject.find? objects handle).map recordOf) :
    recallOne content handle = .ok (StoredObject.find? objects handle) := by
  cases hfind : StoredObject.find? objects handle with
  | none =>
    rw [hfind] at h
    exact recallOne_of_none h
  | some found =>
    rw [hfind] at h
    obtain ⟨hmem, rfl⟩ := StoredObject.mem_of_find? hfind
    exact recallOne_of_record (hsound found hmem) h

theorem recallOne_write (hsound : object.IsSound) :
    recallOne ((writeOf object).effect content) handle =
      if handle = object.handle then .ok (some object) else recallOne content handle := by
  split
  · next heq =>
    subst heq
    exact recallOne_of_record hsound (Function.update_self ..)
  · next hne => exact recallOne_congr (Function.update_of_ne hne ..)

theorem recallOne_remove :
    recallOne (NvmOp.effect (.remove key) content) handle =
      if handle = key then .ok none else recallOne content handle := by
  split
  · next heq =>
    subst heq
    exact recallOne_of_none (Function.update_self ..)
  · next hne => exact recallOne_congr (Function.update_of_ne hne ..)

/-- A cache that agrees with what is recalled under every persistent handle, and holds nothing else,
mirrors the content. -/
theorem mirrors_of_recallOne {layout : ObjectLayout} {cached : List StoredObject}
    (hvalid : layout.validate = .ok ())
    (hpersistent : ∀ handle, layout.IsPersistent handle →
      recallOne content handle = .ok (StoredObject.find? cached handle))
    (hother : ∀ handle, ¬layout.IsPersistent handle → StoredObject.find? cached handle = none) :
    Mirrors layout content cached := by
  refine (mirrors_iff hvalid).mpr ⟨fun handle h => ⟨_, hpersistent handle h⟩, fun handle => ?_⟩
  unfold recallAt
  split
  · next h => rw [recalled, hpersistent handle h]
  · next h => exact hother handle h

/-- An empty cache holds what loading from empty storage would give. -/
theorem mirrors_empty {layout : ObjectLayout} (hvalid : layout.validate = .ok ())
    (hempty : ∀ key, content key = none) : Mirrors layout content [] := by
  refine mirrors_of_recallOne hvalid (fun handle _ => ?_) fun _ _ => rfl
  unfold recallOne NvmContent.read
  rw [hempty]
  rfl

theorem recallOne_of_mirrors {layout : ObjectLayout} {cached : List StoredObject}
    (hvalid : layout.validate = .ok ()) (h : Mirrors layout content cached)
    (hplace : layout.IsPersistent handle) :
    recallOne content handle = .ok (StoredObject.find? cached handle) := by
  obtain ⟨hloadable, hfind⟩ := (mirrors_iff hvalid).mp h
  obtain ⟨found, hfound⟩ := hloadable handle hplace
  rw [hfind, recallAt, if_pos hplace, recalled, hfound]

theorem find?_eq_none_of_mirrors {layout : ObjectLayout} {cached : List StoredObject}
    (hvalid : layout.validate = .ok ()) (h : Mirrors layout content cached)
    (hplace : ¬layout.IsPersistent handle) : StoredObject.find? cached handle = none := by
  rw [((mirrors_iff hvalid).mp h).2, recallAt, if_neg hplace]

/-- What mirrors a content holds sound objects of the persistent ranges. -/
theorem isSound_of_mirrors {layout : ObjectLayout} {cached : List StoredObject}
    (hvalid : layout.validate = .ok ()) (h : Mirrors layout content cached)
    (hnodup : (StoredObject.handles cached).Nodup) (hmem : object ∈ cached) : object.IsSound := by
  have hfind := StoredObject.find?_of_mem hnodup hmem
  by_cases hplace : layout.IsPersistent object.handle
  · have hrecall := recallOne_of_mirrors hvalid h hplace
    rw [hfind] at hrecall
    exact (isSound_of_objectOfReply hrecall).2
  · rw [find?_eq_none_of_mirrors hvalid h hplace] at hfind
    cases hfind

end Effects

-- ═══════════════════════════════════════════════════════════════════════════
-- Storing and removing
-- ═══════════════════════════════════════════════════════════════════════════

section Steps

variable {N : Type} [SteadyStorage N] {store : ObjectStore N} {layout : ObjectLayout}
  {embedded : List Bytes}

/-- A table of persistent objects mirrors a content if it holds what would be loaded under every
persistent handle. -/
theorem mirrors_iff_recalls (hvalid : layout.validate = .ok ()) {content : NvmContent}
    {capacity : Nat} {cached : List StoredObject}
    (htable : StoredObject.IsTable layout.IsPersistent capacity cached) :
    Mirrors layout content cached ↔ Recalls layout.IsPersistent content cached := by
  refine ⟨fun h handle hplace => recallOne_of_mirrors hvalid h hplace, fun h =>
    mirrors_of_recallOne hvalid h fun handle hplace =>
      StoredObject.find?_eq_none.mpr fun hmem => ?_⟩
  obtain ⟨object, hobject, rfl⟩ := List.mem_map.mp hmem
  exact hplace (htable.placed object hobject)

theorem Recalls.insert_keeps {p : ObjectHandle → Prop} (hsound : store.IsSound layout embedded)
    (h : Recalls p store.content store.cached) (blob : Bytes) :
    Ends (insert blob) store fun outcome =>
      Recalls p outcome.state.content outcome.state.cached := by
  refine insert_ends (fun _ => h) (fun _ _ _ _ _ => h) ?_ ?_
  · intro object hobject hplace hget hroom hwritten handle hhandle
    have hcontent : (store.afterNvm (writeOf object)).content =
        (writeOf object).effect store.content :=
      ContentStorage.content_of_success _ _ hwritten
    rw [hsound.layout_eq] at hplace
    have hnew := StoredObject.find?_eq_none.mpr (hsound.not_mem_cached hplace hget)
    show recallOne (store.afterNvm (writeOf object)).content handle =
      .ok (StoredObject.find? (store.cached ++ [object]) handle)
    rw [hcontent, recallOne_write hobject, StoredObject.find?_append_new hnew, h handle hhandle]
    split <;> rfl
  · intro object _ _ hfailed
    have hcontent : (store.afterNvm (writeOf object)).content = store.content :=
      ContentStorage.content_of_failedWrite _ _ _ hfailed
    show Recalls p (store.afterNvm (writeOf object)).content store.cached
    rwa [hcontent]

theorem Recalls.remove_keeps {p : ObjectHandle → Prop} (hsound : store.IsSound layout embedded)
    (h : Recalls p store.content store.cached) (handle : ObjectHandle) :
    Ends (remove handle) store fun outcome =>
      Recalls p outcome.state.content outcome.state.cached := by
  refine remove_ends (fun _ => h) (fun _ => h) ?_ ?_
  · intro hclass hremoved other hother
    have hcontent : (store.afterNvm (.remove handle)).content =
        NvmOp.effect (.remove handle) store.content :=
      ContentStorage.content_of_success _ _ hremoved
    show recallOne (store.afterNvm (.remove handle)).content other =
      .ok (StoredObject.find? (StoredObject.removeSwapping store.cached handle) other)
    rw [hcontent, recallOne_remove, StoredObject.find?_removeSwapping hsound.cached.nodup,
      h other hother]
    split <;> rfl
  · intro hfailed
    have hcontent : (store.afterNvm (.remove handle)).content = store.content :=
      SteadyStorage.content_of_failure _ _ hfailed
    show Recalls p (store.afterNvm (.remove handle)).content store.cached
    rwa [hcontent]

theorem Mirrors.insert_keeps (hvalid : layout.validate = .ok ())
    (hsound : store.IsSound layout embedded) (h : Mirrors layout store.content store.cached)
    (blob : Bytes) :
    Ends (insert blob) store fun outcome =>
      Mirrors layout outcome.state.content outcome.state.cached :=
  (mirrors_iff_recalls hvalid (ObjectStore.insert_keeps blob store hsound).cached).mpr
    (((mirrors_iff_recalls hvalid hsound.cached).mp h).insert_keeps hsound blob)

theorem Mirrors.remove_keeps (hvalid : layout.validate = .ok ())
    (hsound : store.IsSound layout embedded) (h : Mirrors layout store.content store.cached)
    (handle : ObjectHandle) :
    Ends (remove handle) store fun outcome =>
      Mirrors layout outcome.state.content outcome.state.cached :=
  (mirrors_iff_recalls hvalid (ObjectStore.remove_keeps handle store hsound).cached).mpr
    (((mirrors_iff_recalls hvalid hsound.cached).mp h).remove_keeps hsound handle)

end Steps

end ObjectStore

end KeyEnclave
