import KeyEnclave.Proofs.Kms.Lifecycle

/-!
# What is held while the library is down

A library that goes down takes everything with it. Only an attempt to bring it up can leave
something behind: when loading fails part way, the objects that were read before stay cached, under
handles that nobody is served, until the library is brought up or fails to come up again.

## Main definitions

* `NvmExchange.object?`, `KmsEvent.object?` — the object that an exchange read from storage.
* `Kms.LeftByLoad` — what the last attempt to come up left when its load failed.
* `Kms.AtRest` — what is held after a run.

## Main results

* `ObjectStore.load_cached` — loading caches what was read, also when it fails.
* `Kms.library_at_rest` — every library that is down is at rest.
* `Kms.failed_load_leaves_object` — the cache of a library that is down may hold an object.
-/

namespace KeyEnclave

open KeyEnclave.Action

/-- The object that an exchange read from storage. -/
def NvmExchange.object? : NvmExchange → Option StoredObject
  | ⟨.read handle _, reply⟩ =>
    match ObjectStore.objectOfReply handle reply with
    | .ok found => found
    | .error _ => none
  | ⟨.write _ _, _⟩ | ⟨.remove _, _⟩ => none

namespace ObjectStore

variable {N : Type} [NvmStorage N] {store : ObjectStore N}

/-- With room for all of them, every object that is read is cached, also before a failure. -/
theorem loadAll_cached {handles : List ObjectHandle}
    (hroom : store.cached.length + handles.length ≤ Limits.cachedObjects) :
    Ends (handles.forM loadHandle) store fun outcome =>
      outcome.state.cached = store.cached ++ outcome.journal.filterMap NvmExchange.object? := by
  induction handles generalizing store with
  | nil => exact (List.append_nil _).symm
  | cons first handles ih =>
    rw [List.length_cons] at hroom
    refine Ends.bind (loadHandle_ends (fun hnone => ?_) (fun object hsome _ => ?_)
      fun error herror => ?_)
    · have hread : NvmExchange.object? (store.nvmEvent (.read first recordRoom)) = none := by
        simp only [nvmEvent, NvmExchange.object?, hnone]
      refine Ends.mono (ih ?_) fun rest hrest => ?_
      · exact Nat.le_trans (Nat.add_le_add_left (Nat.le_succ _) _) hroom
      · simp only [Outcome.after, List.singleton_append, List.filterMap_cons, hread]
        exact hrest
    · have hread : NvmExchange.object? (store.nvmEvent (.read first recordRoom)) = some object := by
        simp only [nvmEvent, NvmExchange.object?, hsome]
      refine Ends.mono (ih ?_) fun rest hrest => ?_
      · rw [List.length_append, List.length_singleton]
        omega
      · simp only [Outcome.after, List.singleton_append, List.filterMap_cons, hread]
        rw [hrest, List.append_assoc]
        rfl
    · obtain ⟨e, he⟩ := herror (by omega)
      have hread : NvmExchange.object? (store.nvmEvent (.read first recordRoom)) = none := by
        simp only [nvmEvent, NvmExchange.object?, he]
      simp only [List.filterMap_cons, hread]
      exact (List.append_nil _).symm

/-- Loading caches what was read, also when it fails. -/
theorem load_cached (hvalid : store.layout.validate = .ok ()) :
    (load.run store).state.cached =
      (load.run store).journal.filterMap NvmExchange.object? := by
  show Ends load store fun outcome =>
    outcome.state.cached = outcome.journal.filterMap NvmExchange.object?
  refine Ends.bind_modify (Ends.bind_get (Ends.mono (loadAll_cached ?_) fun _ h => h))
  exact Nat.le_trans (Nat.le_of_eq (Nat.zero_add _)) (ObjectLayout.length_nvmHandles hvalid)

end ObjectStore

/-- The object that an exchange of the service read from storage. -/
def KmsEvent.object? (event : KmsEvent) : Option StoredObject :=
  event.nvm?.bind NvmExchange.object?

namespace Kms

variable {C T N : Type} [CryptoProvider C] [ExternalToken T] [NvmStorage N]

/-- The last attempt of a run to bring the library up failed to load, after it had read the objects
`left`. -/
def LeftByLoad (start : Kms C T N) (calls : List Call) (left : List StoredObject) : Prop :=
  ∃ before call idle, calls = before ++ call :: idle ∧
    (start.after before).sessions.isUp = false ∧ (start.after before).Serves call .initialise ∧
    (∃ error, (ObjectStore.load.run (start.after before).store).answer = .error error) ∧
    (∀ front, front <+: idle → (start.after (before ++ call :: front)).sessions.isUp = false) ∧
    ((start.after before).eventsOf call).filterMap KmsEvent.object? = left

/-- What a library that is down holds after a run. -/
structure AtRest (start : Kms C T N) (calls : List Call) : Prop where
  closed : ∀ session, (start.after calls).sessions.sessions.get? session = none
  /-- A provider that starts without contexts has none. -/
  released : ∀ contexts : ContextView C, (∀ session, ¬contexts.Holds start.crypto session) →
    ∀ session, ¬contexts.Holds (start.after calls).crypto session
  volatile : (start.after calls).store.volatile = []
  /-- Nothing is cached but what a load read before it failed. -/
  cached : (start.after calls).store.cached = [] ∨
    start.LeftByLoad calls (start.after calls).store.cached

variable {config : KmsConfig} {crypto : C} {token : T} {nvm : N} {start : Kms C T N}
  {calls : List Call} {call : Call}

/-- What was left stays the last of it while the library stays down. -/
theorem LeftByLoad.concat {left : List StoredObject} (h : start.LeftByLoad calls left)
    (hdown : (start.after (calls ++ [call])).sessions.isUp = false) :
    start.LeftByLoad (calls ++ [call]) left := by
  obtain ⟨before, attempt, idle, rfl, hwasDown, hserves, hfailed, hidle, hleft⟩ := h
  rw [List.append_assoc, List.cons_append] at hdown ⊢
  refine ⟨before, attempt, idle ++ [call], rfl, hwasDown, hserves, hfailed, fun front hfront => ?_,
    hleft⟩
  rcases List.prefix_concat_iff.mp hfront with rfl | hfront
  · exact hdown
  · exact hidle front hfront

/-- A load that fails leaves what it read. -/
theorem LeftByLoad.of_failed (hsound : (start.after calls).IsSound config.layout config.embedded)
    (hvalid : config.layout.validate = .ok ())
    (hwasDown : (start.after calls).sessions.isUp = false)
    (hserves : (start.after calls).Serves call .initialise)
    (hfailed : ∃ error, (ObjectStore.load.run (start.after calls).store).answer = .error error)
    (hdown : (start.after (calls ++ [call])).sessions.isUp = false) :
    start.LeftByLoad (calls ++ [call]) (start.after (calls ++ [call])).store.cached := by
  refine ⟨calls, call, [], rfl, hwasDown, hserves, hfailed, fun front hfront => ?_, ?_⟩
  · rw [List.prefix_nil.mp hfront]
    exact hdown
  · obtain ⟨hrequest, hadmitted⟩ := hserves
    rw [← hrequest] at hadmitted
    obtain ⟨hstore, hevents, -⟩ := next_initialise hrequest hadmitted hwasDown
    have hlayout : (start.after calls).store.layout.validate = .ok () := by
      rw [hsound.store.layout_eq]
      exact hvalid
    rw [after_concat, hstore, ObjectStore.load_cached hlayout, ← hevents, List.filterMap_filterMap]
    rfl

/-- One more call leaves a library that is down at rest. -/
theorem AtRest.next (hnew : Kms.new config crypto token nvm = .ok start)
    (hrest : (start.after calls).sessions.isUp = false → start.AtRest calls)
    (hdown : (start.after (calls ++ [call])).sessions.isUp = false) :
    start.AtRest (calls ++ [call]) := by
  have hclosed := (isSound_after hnew (calls ++ [call])).closed hdown
  have heffect := next_effect (start.after calls) call
  rw [← after_concat] at heffect
  rcases heffect.cases_of_down hdown with ⟨hwasDown, -, hstore, hcrypto⟩ |
      ⟨hwasDown, -, hrequest, hfailed, hstore, hcrypto⟩ | ⟨-, hstore, hcrypto⟩
  · obtain ⟨-, hreleased, hvolatile, hcached⟩ := hrest hwasDown
    refine ⟨hclosed, ?_, ?_, ?_⟩
    · rw [hcrypto]
      exact hreleased
    · rw [hstore, hvolatile]
    · rw [hstore]
      exact hcached.imp_right fun hleft => hleft.concat hdown
  · obtain ⟨-, hreleased, hvolatile, hcached⟩ := hrest hwasDown
    refine ⟨hclosed, ?_, ?_, ?_⟩
    · rw [hcrypto]
      exact hreleased
    · rw [hstore, ObjectStore.load_volatile, hvolatile]
    · cases hadmitted : (start.after calls).admitted call.word .initialise with
      | error code =>
        rw [← hrequest] at hadmitted
        have hsame : start.after (calls ++ [call]) = start.after calls := by
          rw [after_concat, next_of_refused hadmitted]
        rw [hsame]
        exact hcached.imp_right fun hleft => hleft.concat hdown
      | ok u =>
        exact .inr (.of_failed (isSound_after hnew calls) (new_eq_ok hnew).1 hwasDown
          ⟨hrequest, hadmitted⟩ hfailed hdown)
  · refine ⟨hclosed, fun contexts _ session => ?_, ?_, .inl ?_⟩
    · rw [hcrypto]
      exact contexts.not_releasedContexts_all _ session
    · rw [hstore]
      rfl
    · rw [hstore]
      rfl

/-- A library that is down holds no session, no context and no volatile object, and no persistent
one but those that were read in the last attempt to bring it up, if loading failed in it. -/
theorem library_at_rest (hnew : Kms.new config crypto token nvm = .ok start) (calls : List Call)
    (hdown : (start.after calls).sessions.isUp = false) : start.AtRest calls := by
  induction calls using List.reverseRecOn with
  | nil =>
    have hclosed := (isSound_after hnew []).closed hdown
    obtain ⟨-, rfl⟩ := new_eq_ok hnew
    exact ⟨hclosed, fun _ h => h, rfl, .inl rfl⟩
  | append_singleton calls call ih => exact .next hnew ih hdown

/-- Storage with an object that can be read, and one that can not. -/
def halfReadable : SimulatedNvm :=
  let blob := [ObjectFormat.version, ObjectFormat.configuration, 0, 0, 30].flatMap Bytes.ofWord
  { records := [(30, ObjectStore.recordOf ⟨30, blob⟩)], faults := { read := [31] } }

/-- A service with that storage. -/
def halfReadableStart : Kms (SoftwareCrypto XorShift) NoExternalToken SimulatedNvm :=
  plain .standard (SoftwareCrypto.new default) .mk halfReadable

/-- An attempt to bring the library up that fails leaves it down with an object in its cache, where
there was none before. -/
theorem failed_load_leaves_object :
    let initialise : Call := ⟨FunctionId.initialise.word, .initialise⟩
    halfReadableStart.store.cached = [] ∧
      (halfReadableStart.answerTo initialise).code = .deviceMemory ∧
      (halfReadableStart.next initialise).sessions.isUp = false ∧
      (halfReadableStart.next initialise).store.cached.map StoredObject.handle = [30] := by
  decide +kernel

/-- A library that failed to come up and was asked for information since is at rest, with what its
load read. -/
theorem half_loaded_library_at_rest :
    let calls : List Call :=
      [⟨FunctionId.initialise.word, .initialise⟩, ⟨FunctionId.getInfo.word, .getInfo default⟩]
    (halfReadableStart.after calls).sessions.isUp = false ∧ halfReadableStart.AtRest calls ∧
      halfReadableStart.LeftByLoad calls (halfReadableStart.after calls).store.cached := by
  intro calls
  have hdown : (halfReadableStart.after calls).sessions.isUp = false := by decide +kernel
  have hrest : halfReadableStart.AtRest calls :=
    library_at_rest (new_plain (by decide) _ _ _) calls hdown
  refine ⟨hdown, hrest, hrest.cached.resolve_left fun hempty => ?_⟩
  have hcached : (halfReadableStart.after calls).store.cached.length = 1 := by decide +kernel
  rw [hempty] at hcached
  cases hcached

end Kms

end KeyEnclave
