import KeyEnclave.Proofs.Kms.Persistence
import KeyEnclave.Proofs.Kms.Storing
import KeyEnclave.Proofs.Provider.Results
import KeyEnclave.Proofs.Simulation.Storage
import KeyEnclave.Simulation.Machine

/-!
# Requests that change objects are atomic

Objects are created, destroyed, derived and generated in pairs. Each of these requests succeeds, or
it leaves the objects in RAM and what storage reloads to as they were.

## Main definitions

* `Kms.IsAtomic` — a step succeeds, or leaves the objects as they were.
* `Kms.RecallsWhileUp` — the cache tells what storage keeps of the objects created at run time.
* `Kms.LeavesObjects` — a call changed no object and handed out no handle.
* `Kms.GivesPair` — a call handed out the pair that the provider made, which is stored.

## Main results

* `Kms.serve_isAtomic` — serving a request that changes objects is atomic.
* `Kms.recalls_after` — the cache tells what storage keeps of the objects created at run time.
* `Kms.object_changes_are_atomic` — all or nothing, after every run.
-/

namespace KeyEnclave

open KeyEnclave.Action

/-- If a call was to generate a key pair, storage did not fail to remove a record. -/
def Served.CleansUp (served : Served) : Prop :=
  served.call.request.function = .generateKeyPair →
    ∀ key, .nvm ⟨.remove key, .error .failed⟩ ∉ served.events

namespace Kms

variable {C T N : Type} {kms : Kms C T N} {layout : ObjectLayout} {embedded : List Bytes}

-- ═══════════════════════════════════════════════════════════════════════════
-- Steps
-- ═══════════════════════════════════════════════════════════════════════════

section Steps

variable [SteadyStorage N]

/-- A step succeeds, or it fails and leaves the objects as they were. -/
def IsAtomic (kms : Kms C T N) (outcome : Outcome (Kms C T N) KmsEvent ReturnCode Answer) : Prop :=
  (∃ outputs, outcome.answer = .ok ⟨.ok, outputs⟩) ∨
    (∃ code, outcome.answer = .error code) ∧ kms.store.SameObjects outcome.state.store

theorem IsAtomic.refused {code : ReturnCode} {journal : List KmsEvent} :
    kms.IsAtomic ⟨.error code, kms, journal⟩ :=
  .inr ⟨⟨code, rfl⟩, .refl kms.store⟩

/-- A request that ends with storing one object. -/
theorem storing_isAtomic (hsound : kms.store.IsSound layout embedded)
    (hvalid : layout.validate = .ok ()) {range : Provenance}
    (hdynamic : range = .nvmDynamic ∨ range = .vmDynamic) (parts : List Template)
    (outputs : ObjectHandle → Outputs) :
    (storeObject range parts >>= fun handle => pure ⟨.ok, outputs handle⟩).Ends kms
      kms.IsAtomic := by
  refine Ends.bind (Ends.mono (storeObject_storesNew hsound hvalid hdynamic parts)
    fun outcome hstores => ?_)
  cases hstores with
  | refused hcode hspared => exact .inr ⟨⟨_, rfl⟩, hspared.sameObjects⟩
  | stored => exact Ends.pure (.inl ⟨_, rfl⟩)

theorem createObject_isAtomic [ExternalToken T] (hsound : kms.store.IsSound layout embedded)
    (hvalid : layout.validate = .ok ()) (hown : kms.tokenImplements .createObject = false)
    (session : SessionHandle) (template : Template) :
    (createObject session template).Ends kms kms.IsAtomic := by
  refine createObject_ends_storing hown (fun _ _ => .refused) ?_
  exact storing_isAtomic hsound hvalid (targetRange_dynamic _ _) _ _

theorem destroyObject_isAtomic [ExternalToken T] {session : SessionHandle} {object : ObjectHandle}
    (hplace : (kms.layout.classify object).isExternal = false) :
    (codeOnly (destroyObject session object)).Ends kms kms.IsAtomic := by
  refine codeOnly_ends (Ends.bind_get (Ends.bind_ofExcept (fun _ _ => .refused) fun _ _ =>
    Ends.failing (fun _ => .refused) fun _ => ?_))
  cases hclass : kms.layout.classify object with
  | nvmDynamic | vmDynamic =>
    -- objects of both ranges are removed in the same way
    dsimp only
    split
    · exact Ends.throw .refused
    · refine Ends.failing (fun _ => .refused) fun _ => bind_onStore (fun error herror => ?_)
        fun _ _ => Ends.pure (.inl ⟨_, rfl⟩)
      exact .inr ⟨⟨_, rfl⟩, ObjectStore.remove_sameObjects object error herror⟩
  | embedded | nvmStatic | unknown => exact Ends.throw .refused
  | extTokenStatic | extTokenDynamic =>
    rw [hclass] at hplace
    cases hplace

theorem deriveKey_isAtomic [CryptoProvider C] [ExternalToken T]
    (hsound : kms.store.IsSound layout embedded) (hvalid : layout.validate = .ok ())
    {baseKey : ObjectHandle} (hplace : (kms.layout.classify baseKey).isExternal = false)
    (session : SessionHandle) (mechanism : Option PlacedMechanism) (template : Template) :
    (deriveKey session mechanism baseKey template).Ends kms kms.IsAtomic := by
  refine deriveKey_ends_storing hplace (fun _ _ => .refused) (fun _ _ _ _ _ => ?_)
    fun given base length value _ _ _ _ => ?_
  · exact .inr ⟨⟨_, rfl⟩, .refl kms.store⟩
  · exact storing_isAtomic (isSound_afterProvider _ hsound) hvalid (targetRange_dynamic _ _) _ _

end Steps

-- ═══════════════════════════════════════════════════════════════════════════
-- Requests
-- ═══════════════════════════════════════════════════════════════════════════

/-- The halves of a pair are stored under two handles, with the point and the scalar. -/
structure HasPair (kms : Kms C T N) (point scalar : Bytes) (publicKey privateKey : ObjectHandle) :
    Prop where
  distinct : publicKey ≠ privateKey
  point_eq : (kms.store.get? publicKey).bind (·.attribute? AttributeKind.ecPoint) = some point
  scalar_eq : (kms.store.get? privateKey).bind (·.attribute? AttributeKind.value) = some scalar

/-- The answer to a request for a pair hands out the pair that the provider made with the mechanism,
which is stored. -/
def GivesPair [CryptoProvider C] (kms : Kms C T N) (mechanism : Option PlacedMechanism)
    (answer : Answer) (after : Kms C T N) : Prop :=
  ∃ given point scalar publicKey privateKey, mechanism = some given ∧
    kms.providerReply (.generateKeyPair given.mechanism publicMaxLength privateMaxLength) =
      .ok (point, scalar) ∧
    answer = ⟨.ok, .keyPair (some (publicKey, privateKey))⟩ ∧
    after.HasPair point scalar publicKey privateKey

/-- While the library is up, the objects created at run time are cached as storage would load
them. -/
def RecallsWhileUp [SteadyStorage N] (kms : Kms C T N) (layout : ObjectLayout) : Prop :=
  kms.sessions.isUp = true →
    ObjectStore.Recalls (layout.classify · = .nvmDynamic) kms.store.content kms.store.cached

variable [CryptoProvider C] [ExternalToken T] [SteadyStorage N]

/-- The outcomes of generating a pair in the enclave. -/
theorem generateKeyPair_ends {session : SessionHandle} {mechanism : Option PlacedMechanism}
    {publicTemplate privateTemplate : Template}
    {post : Outcome (Kms C T N) KmsEvent ReturnCode Answer → Prop}
    (hsound : kms.store.IsSound layout embedded) (hvalid : layout.validate = .ok ())
    (hrecalls : kms.RecallsWhileUp layout)
    (hown : kms.tokenImplements .generateKeyPair = false)
    (hrefused : ∀ code after journal, (CryptoProvider.FailsPlainly C → code ≠ .ok) →
      ((∀ key, .nvm ⟨.remove key, .error .failed⟩ ∉ journal) →
        kms.store.SameObjects after.store) → post ⟨.error code, after, journal⟩)
    (hstored : ∀ given point scalar publicKey privateKey after journal,
      mechanism = some given →
      kms.providerReply (.generateKeyPair given.mechanism publicMaxLength privateMaxLength) =
        .ok (point, scalar) → after.HasPair point scalar publicKey privateKey →
      post ⟨.ok ⟨.ok, .keyPair (some (publicKey, privateKey))⟩, after, journal⟩) :
    (generateKeyPair session mechanism publicTemplate privateTemplate).Ends kms post := by
  refine generateKeyPair_ends_storing hown
    (fun code hcode => hrefused code _ _ (fun _ => hcode) fun _ => .refl kms.store)
    (fun given code herror => hrefused code _ _ (fun hplain hcode => ?_) fun _ => .refl kms.store)
    fun given point scalar hgiven hup hpair => ?_
  · exact hplain _ _ _ _ (hcode ▸ herror)
  obtain ⟨placed, hplaced, rfl⟩ := requireMechanism_eq_ok hgiven
  refine Ends.mono (storePair_storesPair (isSound_afterProvider _ hsound) hvalid
    (targetRange_dynamic kms.layout publicTemplate)
    (targetRange_dynamic kms.layout privateTemplate) _ _) fun outcome hstores => ?_
  cases hstores with
  | refused hcode hspared => exact hrefused _ _ _ (fun _ => hcode) fun _ => hspared.sameObjects
  | @removed _ object _ spared _ hcode hadds hspared hjournal =>
    have htaken : (ObjectStore.remove object.handle).Ends spared fun outcome =>
        ⟨.remove object.handle, .error .failed⟩ ∉ outcome.journal →
          kms.store.SameObjects outcome.state :=
      hadds.takenBack hspared.sameObjects hsound (hrecalls hup)
    refine hrefused _ _ _ (fun _ => hcode) fun hremoved => htaken fun hmem => ?_
    exact hremoved object.handle (List.mem_cons_of_mem _ (hjournal _ hmem))
  | stored hne hpublic hprivate hpublicAttributes hprivateAttributes =>
    refine hstored placed point scalar _ _ _ _ hplaced hpair ⟨hne, ?_, ?_⟩
    · exact (congrArg (·.bind (·.attribute? AttributeKind.ecPoint)) hpublic).trans
        (attribute?_keyParts hpublicAttributes)
    · exact (congrArg (·.bind (·.attribute? AttributeKind.value)) hprivate).trans
        (attribute?_keyParts hprivateAttributes)

/-- Serving a request that changes objects succeeds, or leaves the objects as they were. -/
theorem serve_isAtomic {request : Request} (hsound : kms.store.IsSound layout embedded)
    (hvalid : layout.validate = .ok ())
    (hrecalls : kms.RecallsWhileUp layout)
    (hrequest : kms.ChangesOwn request) :
    (serve request).Ends kms fun outcome => (request.function = .generateKeyPair →
      ∀ key, .nvm ⟨.remove key, .error .failed⟩ ∉ outcome.journal) → kms.IsAtomic outcome := by
  cases hrequest with
  | created hown => exact fun _ => createObject_isAtomic hsound hvalid hown _ _
  | destroyed hplace => exact fun _ => destroyObject_isAtomic hplace
  | derived hplace => exact fun _ => deriveKey_isAtomic hsound hvalid hplace _ _ _
  | paired hown =>
    exact generateKeyPair_ends hsound hvalid hrecalls hown
      (fun _ _ _ _ hsame hremoved => .inr ⟨⟨_, rfl⟩, hsame (hremoved rfl)⟩)
      fun _ _ _ _ _ _ _ _ _ _ _ => .inl ⟨_, rfl⟩

/-- A call left every object as it was, in RAM and after a reload, and handed out no handle. -/
structure LeavesObjects (kms : Kms C T N) (call : Call) : Prop where
  cached_eq : (kms.next call).store.cached = kms.store.cached
  volatile_eq : (kms.next call).store.volatile = kms.store.volatile
  reload_eq : ObjectStore.reload kms.layout (kms.next call).store.content =
    ObjectStore.reload kms.layout kms.store.content
  outputs_eq : (kms.answerTo call).outputs = call.request.untouched

/-- A call that changes objects, and is not answered with `ok`, changed none. -/
theorem leavesObjects_of_failed {call : Call} (hsound : kms.store.IsSound layout embedded)
    (hvalid : layout.validate = .ok ())
    (hrecalls : kms.RecallsWhileUp layout)
    (hchanges : kms.ChangesOwn call.request) (hfailed : (kms.answerTo call).code ≠ .ok)
    (hcleans : (kms.served call).CleansUp) : kms.LeavesObjects call := by
  suffices h : kms.store.SameObjects (kms.next call).store ∧
      (kms.answerTo call).outputs = call.request.untouched from
    ⟨h.1.cached_eq, h.1.volatile_eq, h.1.reload_eq kms.layout, h.2⟩
  cases hadmitted : kms.admitted call.word call.request with
  | error code =>
    unfold next answerTo
    rw [dispatch_of_refused hadmitted]
    exact ⟨.refl kms.store, rfl⟩
  | ok u =>
    have hserved := dispatch_ends (fun answer after events => answer.code ≠ .ok →
        (call.request.function = .generateKeyPair →
          ∀ key, .nvm ⟨.remove key, .error .failed⟩ ∉ events) →
        kms.store.SameObjects after.store ∧ answer.outputs = call.request.untouched) hadmitted
      (Ends.mono (serve_isAtomic hsound hvalid hrecalls hchanges)
        fun outcome hatomic hfailed hcleans => ?_)
    · exact hserved hfailed hcleans
    · rcases hatomic hcleans with ⟨outputs, hanswer⟩ | ⟨⟨code, hanswer⟩, hsame⟩
      · rw [hanswer] at hfailed
        exact absurd rfl hfailed
      · rw [hanswer]
        exact ⟨hsame, rfl⟩

/-- A request for a pair that is answered with `ok` hands out the one that the provider made. -/
theorem givesPair_of_ok {call : Call} {session : SessionHandle}
    {mechanism : Option PlacedMechanism} {publicTemplate privateTemplate : PlacedTemplate}
    {publicAddress privateAddress : Address} (hsound : kms.store.IsSound layout embedded)
    (hvalid : layout.validate = .ok ())
    (hrecalls : kms.RecallsWhileUp layout)
    (hrequest : call.request = .generateKeyPair session mechanism publicTemplate privateTemplate
      publicAddress privateAddress)
    (hown : kms.tokenImplements .generateKeyPair = false) (hplain : CryptoProvider.FailsPlainly C)
    (hok : (kms.answerTo call).code = .ok) :
    kms.GivesPair mechanism (kms.answerTo call) (kms.next call) := by
  refine ends_of_ok (fun answer after _ => kms.GivesPair mechanism answer after) hok ?_
  rw [hrequest]
  exact generateKeyPair_ends hsound hvalid hrecalls hown
    (fun _ _ _ hcode _ hok => absurd hok (hcode hplain))
    fun given point scalar publicKey privateKey _ _ hgiven hreply hpair _ =>
      ⟨given, point, scalar, publicKey, privateKey, hgiven, hreply, rfl, hpair⟩

-- ═══════════════════════════════════════════════════════════════════════════
-- Runs
-- ═══════════════════════════════════════════════════════════════════════════

omit [CryptoProvider C] [ExternalToken T] in
/-- Objects created at run time are cached as storage would load them, whatever installations do. -/
theorem StoreEffect.recalls {store changed : ObjectStore N} {request : Request}
    {wasUp isUp : Bool} {journal : List NvmExchange} (hvalid : layout.validate = .ok ())
    (heffect : StoreEffect store request wasUp isUp changed journal)
    (hsound : store.IsSound layout embedded)
    (h : wasUp = true →
      ObjectStore.Recalls (layout.classify · = .nvmDynamic) store.content store.cached) :
    isUp = true →
      ObjectStore.Recalls (layout.classify · = .nvmDynamic) changed.content changed.cached := by
  cases heffect with
  | untouched _ hup => exact hup ▸ h
  | loaded hloaded =>
    intro hup handle hclass
    obtain ⟨hcontent, hloads⟩ := ObjectStore.load_recalls hsound.layout_eq hvalid
    rw [hcontent]
    exact ObjectStore.recallOne_of_mirrors hvalid
      ((ObjectStore.mirrors_iff hvalid).mpr (hloads (hloaded hup))) (.inr hclass)
  | released => exact fun hup => nomatch hup
  | changed _ hchanges =>
    intro _
    induction hchanges with
    | none => exact h rfl
    | insert blob hchanges ih => exact ih.insert_keeps (isSound_of_changes hchanges hsound) blob
    | remove handle hchanges ih =>
      exact ih.remove_keeps (isSound_of_changes hchanges hsound) handle
  | installed _ _ blobs =>
    exact fun _ => (h rfl).installAll_keeps hsound
      (fun _ hclass hstatic => nomatch hclass.symm.trans hstatic) blobs

/-- In every run the cache tells what storage keeps of the objects created at run time. -/
theorem recalls_after {config : KmsConfig} {crypto : C} {token : T} {nvm : N} {start : Kms C T N}
    (hnew : Kms.new config crypto token nvm = .ok start) (calls : List Call) :
    (start.after calls).RecallsWhileUp config.layout := by
  obtain ⟨hvalid, hstart⟩ := new_eq_ok hnew
  induction calls using List.reverseRecOn with
  | nil =>
    rw [hstart]
    exact fun hup => nomatch hup
  | append_singleton calls call ih =>
    rw [after_concat]
    exact ((start.after calls).next_effect call).onStore.recalls hvalid
      (isSound_after hnew calls).store ih

/-- In every run, a request that changes objects and that the enclave serves itself changes none
unless it is answered with `ok`. A pair that was generated is stored, each half with the material
that the provider made, whatever its template says. -/
theorem object_changes_are_atomic {config : KmsConfig} {crypto : C} {token : T} {nvm : N}
    {start : Kms C T N} (hnew : Kms.new config crypto token nvm = .ok start) (calls : List Call)
    {call : Call} (hchanges : (start.after calls).ChangesOwn call.request) :
    let kms := start.after calls
    ((kms.answerTo call).code ≠ .ok → (kms.served call).CleansUp → kms.LeavesObjects call) ∧
      ∀ session mechanism publicTemplate privateTemplate publicAddress privateAddress,
        call.request = .generateKeyPair session mechanism publicTemplate privateTemplate
          publicAddress privateAddress →
        CryptoProvider.FailsPlainly C → (kms.answerTo call).code = .ok →
        kms.GivesPair mechanism (kms.answerTo call) (kms.next call) := by
  intro kms
  have hvalid := (new_eq_ok hnew).1
  have hsound := (isSound_after hnew calls).store
  have hrecalls := recalls_after hnew calls
  refine ⟨leavesObjects_of_failed hsound hvalid hrecalls hchanges, ?_⟩
  intro session mechanism publicTemplate privateTemplate publicAddress privateAddress hrequest
  rw [hrequest] at hchanges
  cases hchanges with
  | paired hown => exact givesPair_of_ok hsound hvalid hrecalls hrequest hown

/-- The layout with a range for kept objects, in which one object may be volatile. -/
def narrowLayout : ObjectLayout := { keepingLayout with vmDynamic := some ⟨50, 50⟩ }

/-- The service of that layout, with nothing in storage. -/
def narrowStart : Kms (SoftwareCrypto XorShift) NoExternalToken PlainStorage :=
  plain narrowLayout (SoftwareCrypto.new ⟨1⟩) .mk ⟨fun _ => none⟩

/-- A run in which a session is opened and the only volatile object is created. -/
def narrowRun : List Call :=
  [⟨FunctionId.initialise.word, .initialise⟩,
    ⟨FunctionId.openSession.word, .openSession 1 SessionFlags.serialSession none default⟩,
    ⟨FunctionId.createObject.word, .createObject 1 (templateOf
      [(AttributeKind.objectClass, Bytes.ofWord ObjectClass.secretKey),
        (AttributeKind.keyType, Bytes.ofWord KeyKind.genericSecret)]) default⟩]

/-- A call to generate a pair of which the public half is kept. -/
def askPair (privateEntries : List (AttributeKind × Bytes)) : Call :=
  ⟨FunctionId.generateKeyPair.word, .generateKeyPair 1 (some ⟨MechanismKind.ecKeyPairGen, default⟩)
    (templateOf [(AttributeKind.token, [1]), (AttributeKind.ecPoint, [7])])
    (templateOf privateEntries) default default⟩

/-- A pair of which the private half finds no place is removed from storage again. A pair that is
kept has the material of the provider, although its templates say otherwise. -/
theorem pair_is_taken_back_or_given :
    let kms := narrowStart.after narrowRun
    let lost := askPair []
    let kept := askPair [(AttributeKind.token, [1]), (AttributeKind.value, [7])]
    ((kms.answerTo lost).code = .hostMemory ∧
        ((kms.eventsOf lost).filterMap KmsEvent.nvm?).length = 2 ∧ kms.LeavesObjects lost) ∧
      (kms.answerTo kept).outputs = .keyPair (some (111, 112)) ∧
      kms.GivesPair (some ⟨MechanismKind.ecKeyPairGen, default⟩) (kms.answerTo kept)
        (kms.next kept) := by
  intro kms lost kept
  have hvalid : narrowLayout.validate = .ok () := by decide
  have hnew : Kms.new ⟨narrowLayout, [], none⟩ (SoftwareCrypto.new (⟨1⟩ : XorShift))
      NoExternalToken.mk (PlainStorage.mk fun _ => none) = .ok narrowStart :=
    new_plain hvalid _ _ _
  have hcode : (kms.answerTo lost).code = .hostMemory := by decide +kernel
  have hok : (kms.answerTo kept).code = .ok := by decide +kernel
  have hsteady : ∀ exchange ∈ (kms.eventsOf lost).filterMap KmsEvent.nvm?,
      NvmExchange.isSuccess exchange = true := by decide +kernel
  have hcleans : (kms.served lost).CleansUp := fun _ key hmem =>
    Bool.false_ne_true (hsteady _ (List.mem_filterMap.mpr ⟨_, hmem, rfl⟩))
  refine ⟨⟨hcode, by decide +kernel, ?_⟩, by decide +kernel, ?_⟩
  · exact (object_changes_are_atomic hnew narrowRun (.paired rfl)).1 (by rw [hcode]; nofun) hcleans
  · exact (object_changes_are_atomic hnew narrowRun (.paired rfl)).2 _ _ _ _ _ _ rfl
      SoftwareCrypto.failsPlainly hok

end Kms

end KeyEnclave
