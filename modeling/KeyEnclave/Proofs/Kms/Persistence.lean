import KeyEnclave.Proofs.Kms.Storage

/-!
# Persistent objects survive

While the library is up, the cache holds what storage would reload to, so bringing the library down
and up again gives the persistent objects back as they were, and none of the volatile ones.

## Main definitions

* `ObjectStore.IsCoherent` — the cache of a library that is up mirrors storage.
* `Served.UndoesWrites` — an installation that failed could take its writes back.

## Main results

* `Kms.coherent_after` — the cache is coherent after every run.
* `Kms.cache_refines_storage` — what follows for a library that goes down and comes up again.

## Design notes

Storage is steady: an operation that fails has no effect. Taking back the writes of a failed
installation is the one place where this is not enough, because a failure there leaves the new
records behind.
-/

namespace KeyEnclave

open KeyEnclave.Action

/-- After an exchange with storage that failed, all others succeeded. -/
def NvmExchange.UndoneAfter (journal : List NvmExchange) : Prop :=
  ∀ done failed undone, journal = done ++ failed :: undone → NvmExchange.isSuccess failed = false →
    ∀ event ∈ undone, NvmExchange.isSuccess event = true

/-- If a call was to install a blob and a write failed, the writes before it were taken back. -/
def Served.UndoesWrites (served : Served) : Prop :=
  ∀ header blob, served.call.request = .importBlob header blob →
    NvmExchange.UndoneAfter (served.events.filterMap KmsEvent.nvm?)

namespace ObjectStore

variable {N : Type} [SteadyStorage N] {layout : ObjectLayout} {embedded : List Bytes}
  {store : ObjectStore N}

/-- What is in storage can be loaded; when the library is up the cache mirrors it, and when it is
down there are no volatile objects. -/
structure IsCoherent (layout : ObjectLayout) (isUp : Bool) (store : ObjectStore N) : Prop where
  loadable : Loadable layout store.content
  mirrors : isUp = true → Mirrors layout store.content store.cached
  volatile : isUp = false → store.volatile = []

theorem IsCoherent.of_mirrors (hvalid : layout.validate = .ok ())
    (h : Mirrors layout store.content store.cached) : store.IsCoherent layout true :=
  ⟨((mirrors_iff hvalid).mp h).1, fun _ => h, fun h => by cases h⟩

theorem mirrors_of_changes (hvalid : layout.validate = .ok ()) {changed : ObjectStore N}
    {journal : List NvmExchange} (hchanges : store.Changes changed journal)
    (hsound : store.IsSound layout embedded) (h : Mirrors layout store.content store.cached) :
    Mirrors layout changed.content changed.cached := by
  induction hchanges with
  | none => exact h
  | insert blob hchanges ih =>
    exact ih.insert_keeps hvalid (Kms.isSound_of_changes hchanges hsound) blob
  | remove handle hchanges ih =>
    exact ih.remove_keeps hvalid (Kms.isSound_of_changes hchanges hsound) handle

/-- An installation that could take its writes back leaves a cache that mirrors storage. -/
theorem mirrors_installAll (hvalid : layout.validate = .ok ())
    (hsound : store.IsSound layout embedded) (h : Mirrors layout store.content store.cached)
    (blobs : List Bytes)
    (hundone : NvmExchange.UndoneAfter ((installAll blobs).run store).journal) :
    Mirrors layout ((installAll blobs).run store).state.content
      ((installAll blobs).run store).state.cached := by
  obtain rfl := hsound.layout_eq
  revert hundone
  show Ends (installAll blobs) store fun outcome => NvmExchange.UndoneAfter outcome.journal →
    Mirrors store.layout outcome.state.content outcome.state.cached
  refine installAll_ends hsound.cached.sound (fun _ _ _ => h) ?_ ?_
  · intro done object rest _ _ _ hdone hfailed hundone
    rw [cached_afterAll]
    exact mirrors_failedOps hvalid hsound.cached.nodup h hdone hfailed
      (hundone _ _ _ (eventsOf_failedOps store done object) hfailed)
  · intro hblobs _ hall _
    exact mirrors_writes hvalid hsound.cached.nodup h (isSound_of_installable hblobs) hall

end ObjectStore

namespace Kms

variable {C T N : Type} [CryptoProvider C] [ExternalToken T] [SteadyStorage N]
  {layout : ObjectLayout} {embedded : List Bytes} {store changed : ObjectStore N}

theorem StoreEffect.isCoherent (hvalid : layout.validate = .ok ()) {request : Request}
    {wasUp isUp : Bool} {journal : List NvmExchange}
    (heffect : StoreEffect store request wasUp isUp changed journal)
    (hundone : isUp = true → ∀ header blob, request = .importBlob header blob →
      NvmExchange.UndoneAfter journal)
    (hsound : store.IsSound layout embedded) (h : store.IsCoherent layout wasUp) :
    changed.IsCoherent layout isUp := by
  cases heffect with
  | untouched _ hup =>
    rw [hup]
    exact h
  | loaded hup =>
    obtain ⟨hcontent, hrecalls⟩ := ObjectStore.load_recalls hsound.layout_eq hvalid
    refine ⟨?_, fun h => ?_, fun _ => ?_⟩
    · rw [hcontent]
      exact h.loadable
    · rw [hcontent]
      exact (ObjectStore.mirrors_iff hvalid).mpr (hrecalls (hup h))
    · rw [ObjectStore.load_volatile]
      exact h.volatile rfl
  | released => exact ⟨h.loadable, fun hup => (nomatch hup), fun _ => rfl⟩
  | changed _ hchanges =>
    exact .of_mirrors hvalid (ObjectStore.mirrors_of_changes hvalid hchanges hsound (h.mirrors rfl))
  | installed header blob blobs =>
    exact .of_mirrors hvalid (ObjectStore.mirrors_installAll hvalid hsound (h.mirrors rfl) blobs
      (hundone rfl header blob rfl))

/-- The store is well-formed and its cache coherent after every run. -/
theorem coherent_after {config : KmsConfig} {crypto : C} {token : T} {nvm : N} {start : Kms C T N}
    (hnew : Kms.new config crypto token nvm = .ok start)
    (hload : ObjectStore.Loadable config.layout (ContentStorage.content nvm)) (calls : List Call)
    (hundone : ∀ served ∈ start.history calls, served.UndoesWrites) :
    (start.after calls).store.IsSound config.layout config.embedded ∧
      (start.after calls).store.IsCoherent config.layout (start.after calls).sessions.isUp := by
  obtain ⟨hvalid, hstart⟩ := new_eq_ok hnew
  have hfirst : start.store.IsSound config.layout config.embedded ∧
      start.store.IsCoherent config.layout start.sessions.isUp := by
    rw [hstart]
    exact ⟨ObjectStore.isSound_new _ _ _, hload, fun h => (nomatch h), fun _ => rfl⟩
  clear hnew hload hstart
  induction calls generalizing start with
  | nil => exact hfirst
  | cons call calls ih =>
    rw [history, List.forall_mem_cons] at hundone
    have heffect := (start.next_effect call).onStore
    exact ih hundone.2 ⟨heffect.isSound hvalid hfirst.1,
      heffect.isCoherent hvalid (fun _ => hundone.1) hfirst.1 hfirst.2⟩

/-- As long as the library goes down or stays down, storage keeps its content. -/
theorem StoreEffect.content_of_down {request : Request} {wasUp : Bool}
    {journal : List NvmExchange} (hlayout : store.layout = layout)
    (hvalid : layout.validate = .ok ())
    (heffect : StoreEffect store request wasUp false changed journal) :
    changed.content = store.content := by
  cases heffect with
  | untouched => rfl
  | loaded => exact (ObjectStore.load_recalls hlayout hvalid).1
  | released => rfl

/-- While the library goes down and stays down, nothing that can be loaded changes. -/
theorem content_after_down (hvalid : layout.validate = .ok ()) {kms : Kms C T N}
    (hsound : kms.store.IsSound layout embedded)
    (hcoherent : kms.store.IsCoherent layout kms.sessions.isUp) {calls : List Call}
    (hdown : ∀ before, before <+: calls → before ≠ [] →
      (kms.after before).sessions.isUp = false) :
    (kms.after calls).store.IsSound layout embedded ∧
      (kms.after calls).store.IsCoherent layout (kms.after calls).sessions.isUp ∧
      (kms.after calls).store.content = kms.store.content := by
  induction calls generalizing kms with
  | nil => exact ⟨hsound, hcoherent, rfl⟩
  | cons call calls ih =>
    have hfirst : (kms.next call).sessions.isUp = false :=
      hdown [call] (List.prefix_append [call] calls) (List.cons_ne_nil _ _)
    have heffect := (kms.next_effect call).onStore
    rw [hfirst] at heffect
    have hcontent := heffect.content_of_down hsound.layout_eq hvalid
    have hnext := heffect.isCoherent hvalid (fun h => nomatch h) hsound hcoherent
    rw [← hfirst] at hnext
    obtain ⟨hrest, hcoherent', hsame⟩ := ih (heffect.isSound hvalid hsound) hnext
      fun before hearlier _ =>
        hdown (call :: before) (List.prefix_cons_inj call |>.mpr hearlier) (List.cons_ne_nil _ _)
    exact ⟨hrest, hcoherent', hsame.trans hcontent⟩

/-- While the library is up, the cache holds what storage would reload to. When the library then
goes down, stays down for a while and comes up again without a read that fails, the persistent
objects are what they were, and there are no volatile ones. -/
theorem cache_refines_storage {config : KmsConfig} {crypto : C} {token : T} {nvm : N}
    {start : Kms C T N} (hnew : Kms.new config crypto token nvm = .ok start)
    (hload : ∃ objects, ObjectStore.reload config.layout (ContentStorage.content nvm) = .ok objects)
    (calls : List Call) (hundone : ∀ served ∈ start.history calls, served.UndoesWrites) :
    ((start.after calls).sessions.isUp = true →
      ObjectStore.Mirrors config.layout (start.after calls).store.content
        (start.after calls).store.cached) ∧
    ∀ (down up : Call) (idle : List Call), (start.after calls).sessions.isUp = true →
      down.request = .finalise → up.request = .initialise →
      (∀ before, before <+: idle →
        (start.after (calls ++ down :: before)).sessions.isUp = false) →
      (start.after (calls ++ down :: idle)).admitted up.word up.request = .ok () →
      (∀ exchange, .nvm exchange ∈ (start.after (calls ++ down :: idle)).eventsOf up →
        NvmExchange.isSuccess exchange = true) →
      let again := start.after (calls ++ down :: idle ++ [up])
      again.sessions.isUp = true ∧
        (∀ handle, StoredObject.find? again.store.cached handle =
          StoredObject.find? (start.after calls).store.cached handle) ∧
        again.store.volatile = [] := by
  obtain ⟨hvalid, -⟩ := new_eq_ok hnew
  obtain ⟨objects, hreload⟩ := hload
  obtain ⟨hsound, hcoherent⟩ :=
    coherent_after hnew (ObjectStore.recalls_of_reload hvalid hreload).1 calls hundone
  refine ⟨hcoherent.mirrors, fun down up idle hup _ hinitialise hdown hadmitted hreads => ?_⟩
  -- the library goes down and stays down
  have hstopped (before : List Call) (hearlier : before <+: down :: idle) (hne : before ≠ []) :
      ((start.after calls).after before).sessions.isUp = false := by
    obtain rfl | ⟨rest, rfl, hrest⟩ := List.prefix_cons_iff.mp hearlier
    · exact absurd rfl hne
    · rw [← after_append]
      exact hdown rest hrest
  obtain ⟨hsoundDown, hcoherentDown, hcontent⟩ :=
    content_after_down hvalid hsound hcoherent hstopped
  have hisDown := hstopped (down :: idle) List.prefix_rfl (List.cons_ne_nil _ _)
  -- it comes up with what is in storage
  rw [after_append] at hadmitted hreads
  obtain ⟨hstore, hjournal, hcomesUp⟩ := next_initialise hinitialise hadmitted hisDown
  have hmirrors := (ObjectStore.mirrors_iff hvalid).mp (hcoherent.mirrors hup)
  generalize hstop : (start.after calls).after (down :: idle) = stopped at *
  have hloaded : (ObjectStore.load.run stopped.store).answer = .ok () := by
    rcases ObjectStore.load_succeeds hsoundDown.layout_eq hvalid hcoherentDown.loadable with
      hok | ⟨handle, -, reader, -, hevent, hfailed⟩
    · exact hok
    · rw [← hjournal] at hevent
      have hsuccess := hreads _ (mem_of_nvm? hevent)
      rw [hfailed] at hsuccess
      cases hsuccess
  have hagain : start.after (calls ++ down :: idle ++ [up]) = stopped.next up := by
    rw [after_append, after_append, hstop]
    rfl
  simp only [hagain, hstore]
  refine ⟨hcomesUp hloaded, fun handle => ?_, ?_⟩
  · rw [((ObjectStore.load_recalls hsoundDown.layout_eq hvalid).2 hloaded).2, hcontent, hmirrors.2]
  · rw [ObjectStore.load_volatile]
    rw [hisDown] at hcoherentDown
    exact hcoherentDown.volatile rfl

/-- The standard layout with a range for objects that are created at run time and kept. -/
def keepingLayout : ObjectLayout := { ObjectLayout.standard with nvmDynamic := some ⟨111, 120⟩ }

/-- A run in which a session is opened and an object is created that is kept. -/
def keepingRun : List Call :=
  [⟨FunctionId.initialise.word, .initialise⟩,
    ⟨FunctionId.openSession.word, .openSession 1 SessionFlags.serialSession none default⟩,
    ⟨FunctionId.createObject.word, .createObject 1 (templateOf
      [(AttributeKind.objectClass, Bytes.ofWord ObjectClass.secretKey),
        (AttributeKind.keyType, Bytes.ofWord KeyKind.genericSecret),
        (AttributeKind.token, [1])]) default⟩]

/-- The service of that layout, with nothing in storage. -/
def keepingStart : Kms NoCrypto NoExternalToken PlainStorage :=
  plain keepingLayout .mk .mk ⟨fun _ => none⟩

/-- An object that is kept is there again when the library went down and came up again. -/
theorem kept_object_comes_back :
    (StoredObject.find? (keepingStart.after keepingRun).store.cached 111).isSome = true ∧
      StoredObject.find? (keepingStart.after (keepingRun ++ [⟨FunctionId.finalise.word, .finalise⟩] ++
          [⟨FunctionId.initialise.word, .initialise⟩])).store.cached 111 =
        StoredObject.find? (keepingStart.after keepingRun).store.cached 111 := by
  have hvalid : keepingLayout.validate = .ok () := by decide
  have hnew : Kms.new ⟨keepingLayout, [], none⟩ NoCrypto.mk NoExternalToken.mk
      (PlainStorage.mk fun _ => none) = .ok keepingStart := new_plain hvalid _ _ _
  have hempty : ObjectStore.Mirrors keepingLayout (fun _ => none) [] :=
    ObjectStore.mirrors_empty hvalid fun _ => rfl
  have hload : ∃ objects, ObjectStore.reload keepingLayout (fun _ => none) = .ok objects :=
    ⟨hempty.choose, hempty.choose_spec.1⟩
  have hundone : ∀ served ∈ keepingStart.history keepingRun, served.UndoesWrites := by
    intro served hmem header blob hrequest
    have hcall := call_mem_of_mem_history hmem
    simp only [keepingRun, List.mem_cons, List.not_mem_nil, or_false] at hcall
    rcases hcall with h | h | h <;> rw [h] at hrequest <;> cases hrequest
  have hreads : ∀ exchange ∈ ((keepingStart.after (keepingRun ++
      [⟨FunctionId.finalise.word, .finalise⟩])).eventsOf
        ⟨FunctionId.initialise.word, .initialise⟩).filterMap KmsEvent.nvm?,
      NvmExchange.isSuccess exchange = true := by decide +kernel
  have hearlier : ∀ before, before <+: [] → (keepingStart.after (keepingRun ++
      ⟨FunctionId.finalise.word, .finalise⟩ :: before)).sessions.isUp = false := by
    intro before hearlier
    obtain rfl := List.prefix_nil.mp hearlier
    decide +kernel
  refine ⟨by decide +kernel, ?_⟩
  have hcycle := (cache_refines_storage hnew hload keepingRun hundone).2
    ⟨FunctionId.finalise.word, .finalise⟩ ⟨FunctionId.initialise.word, .initialise⟩ []
    (by decide +kernel) rfl rfl hearlier (by decide +kernel)
    (fun exchange hmem => hreads exchange (List.mem_filterMap.mpr ⟨_, hmem, rfl⟩))
  exact hcycle.2.1 111

end Kms

end KeyEnclave
