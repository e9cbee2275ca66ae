import KeyEnclave.Proofs.Kms.KeyPairs
import KeyEnclave.Proofs.Store.NewObjects

/-!
# Requests that store new objects

Objects are created, derived and generated in pairs. In the enclave, each of these requests ends
before it stores anything, or it goes on to store what it made; an object is then refused or stored,
and of a pair both halves are, or neither.

## Main definitions

* `Kms.StoresNew`, `Kms.StoresPair` — what becomes of one new object, or of two.
* `Kms.ChangesOwn` — a request that changes objects and that the enclave serves itself.

## Main results

* `Kms.storeObject_storesNew` — a new object is refused or stored.
* `Kms.storePair_storesPair` — a pair is refused, or taken back, or stored.
* `Kms.createObject_ends_storing`, `deriveKey_ends_storing`, `generateKeyPair_ends_storing` — the
  outcomes of a request, from those of storing what it made.
* `Kms.attribute?_keyParts` — the material of a new key takes precedence over its template.
-/

namespace KeyEnclave.Kms

open KeyEnclave.Action

variable {C T N : Type} {kms : Kms C T N} {layout : ObjectLayout} {embedded : List Bytes}

theorem targetRange_dynamic (layout : ObjectLayout) (template : Template) :
    targetRange layout template = .nvmDynamic ∨ targetRange layout template = .vmDynamic := by
  unfold targetRange
  dsimp only
  split
  · exact .inl rfl
  · split
    · exact .inr rfl
    · exact .inl rfl

/-- The provider has no part in the store. -/
theorem isSound_afterProvider [CryptoProvider C] (op : ProviderOp)
    (h : kms.store.IsSound layout embedded) :
    (kms.afterProvider op).store.IsSound layout embedded := h

-- ═══════════════════════════════════════════════════════════════════════════
-- One object
-- ═══════════════════════════════════════════════════════════════════════════

section One

/-- What becomes of a new object: it is refused and not stored, or it is added, with the first
attribute of each type. -/
inductive StoresNew [NvmStorage N] (kms : Kms C T N) (parts : List Template) :
    Outcome (Kms C T N) KmsEvent ReturnCode ObjectHandle → Prop
  | refused {code : ReturnCode} {store : ObjectStore N} {journal : List KmsEvent}
      (hcode : code ≠ .ok) (hspared : kms.store.Spares store) :
      StoresNew kms parts ⟨.error code, { kms with store := store }, journal⟩
  | stored {object : StoredObject} {view : ObjectView} {store : ObjectStore N}
      {journal : List KmsEvent} (hadds : kms.store.Adds object store)
      (hparse : ObjectView.parse? object.blob = some view)
      (hattributes : view.attributes = Template.firsts parts.flatten) :
      StoresNew kms parts ⟨.ok object.handle, { kms with store := store }, journal⟩

theorem storeObject_storesNew [NvmStorage N] (hsound : kms.store.IsSound layout embedded)
    (hvalid : layout.validate = .ok ()) {range : Provenance}
    (hdynamic : range = .nvmDynamic ∨ range = .vmDynamic) (parts : List Template) :
    (storeObject range parts).Ends kms (kms.StoresNew parts) := by
  cases hfree : kms.store.freeHandle range with
  | error refusal =>
    exact Ends.of_run (run_storeObject_error hfree)
      (.refused refusal.code_ne_ok .untouched)
  | ok handle =>
    by_cases hfits : Template.objectLength parts.flatten ≤ Limits.objectLength
    · obtain ⟨blob, view, hblob, hparse, hhandle, hattributes, hlength⟩ :=
        @serialise_of_fits Limits.objectLength handle parts (by decide) hfits
      have hobject : (⟨handle, blob⟩ : StoredObject).IsSound :=
        ⟨hlength ▸ hfits, by rw [hparse]; exact congrArg some hhandle⟩
      have hinserted := ObjectStore.insert_adds hsound hvalid hdynamic hfree hobject
      rcases hrun : (ObjectStore.insert blob).run kms.store with ⟨answer, store, journal⟩
      rw [Ends, hrun] at hinserted
      refine Ends.of_run ((run_storeObject hfree hblob).trans (run_onStore hrun)) ?_
      rcases hinserted with ⟨error, hanswer, hspared⟩ | ⟨hanswer, hadds⟩
      · obtain rfl : answer = .error error := hanswer
        exact .refused error.code_ne_ok hspared
      · obtain rfl : answer = .ok handle := hanswer
        exact .stored hadds hparse hattributes
    · exact Ends.of_run (run_storeObject_tooLong hfree (Nat.not_le.mp hfits))
        (.refused (by decide) .untouched)

/-- In the enclave, creating an object is refused or goes on to store the object. -/
theorem createObject_ends_storing [ExternalToken T] [NvmStorage N] {session : SessionHandle}
    {template : Template} {post : Outcome (Kms C T N) KmsEvent ReturnCode Answer → Prop}
    (hown : kms.tokenImplements .createObject = false)
    (hrefused : ∀ code, code ≠ .ok → post ⟨.error code, kms, []⟩)
    (hstored : (storeObject (targetRange kms.layout template) [template] >>= fun object =>
      pure ⟨.ok, .object (some object)⟩).Ends kms post) :
    (createObject session template).Ends kms post := by
  refine Ends.bind_get (Ends.bind_ofExcept (fun code herror => hrefused code ?_) fun record _ => ?_)
  · exact fun hcode => requireSession_ne_error_ok (hcode ▸ herror)
  rw [tokenSession_of_lacks hown]
  refine Ends.bind_ofExcept (fun code herror => hrefused code ?_) fun _ _ =>
    Ends.failing (fun _ => hrefused _ (by decide)) fun _ => hstored
  exact fun hcode => requireIdle_ne_error_ok (hcode ▸ herror)

/-- In the enclave, deriving a key is refused, fails in the provider, or goes on to store what the
provider derived. -/
theorem deriveKey_ends_storing [CryptoProvider C] [ExternalToken T] [NvmStorage N]
    {session : SessionHandle} {mechanism : Option PlacedMechanism} {baseKey : ObjectHandle}
    {template : Template} {post : Outcome (Kms C T N) KmsEvent ReturnCode Answer → Prop}
    (hplace : (kms.layout.classify baseKey).isExternal = false)
    (hrefused : ∀ code, code ≠ .ok → post ⟨.error code, kms, []⟩)
    (hfailed : ∀ given base length code,
      kms.providerReply (.deriveKey given base length) = .error code →
      post ⟨.error code, kms.afterProvider (.deriveKey given base length),
        [kms.providerEvent (.deriveKey given base length)]⟩)
    (hstored : ∀ given base length value, requireMechanism mechanism = .ok given →
      kms.lookup baseKey = some base → derivedLength template = .ok length →
      kms.providerReply (.deriveKey given base length) = .ok value →
      (storeObject (targetRange kms.layout template)
          (keyParts ⟨AttributeKind.value, value⟩ template ObjectClass.secretKey
            KeyKind.genericSecret) >>= fun key => pure ⟨.ok, .key (some key)⟩).Ends
        (kms.afterProvider (.deriveKey given base length))
        fun rest => post (rest.after [kms.providerEvent (.deriveKey given base length)])) :
    (deriveKey session mechanism baseKey template).Ends kms post := by
  refine Ends.bind_ofExcept (fun code herror => hrefused code ?_) fun given hgiven =>
    Ends.bind_get (Ends.bind_ofExcept (fun code herror => hrefused code ?_) fun _ _ =>
      Ends.failing (fun _ => hrefused _ (by decide)) fun _ => ?_)
  · exact fun hcode => requireMechanism_ne_error_ok (hcode ▸ herror)
  · exact fun hcode => requireSession_ne_error_ok (hcode ▸ herror)
  refine Ends.ite (fun hexternal => ?_) fun _ => Ends.ite (fun _ => ?_) fun _ =>
    Ends.throw (hrefused _ (by decide))
  · rw [hplace] at hexternal
    cases hexternal
  refine Ends.bind_ofExcept (fun code herror => hrefused code ?_) fun length hlength => ?_
  · exact fun hcode => derivedLength_ne_error_ok (hcode ▸ herror)
  split
  · exact Ends.throw (hrefused _ (by decide))
  · next base hbase =>
    refine bind_askProvider (Ends.bind_ofExcept (fun code herror => ?_) fun value hvalue => ?_)
    · exact hfailed given base length code herror
    · exact hstored given base length value hgiven hbase hlength hvalue

end One

-- ═══════════════════════════════════════════════════════════════════════════
-- Two objects
-- ═══════════════════════════════════════════════════════════════════════════

section Two

variable [NvmStorage N]

/-- What becomes of a pair: it is refused, or its public half is removed again, or both halves are
stored, each with the first attribute of each type. -/
inductive StoresPair (kms : Kms C T N) (publicParts privateParts : List Template) :
    Outcome (Kms C T N) KmsEvent ReturnCode Answer → Prop
  | refused {code : ReturnCode} {store : ObjectStore N} {journal : List KmsEvent}
      (hcode : code ≠ .ok) (hspared : kms.store.Spares store) :
      StoresPair kms publicParts privateParts ⟨.error code, { kms with store := store }, journal⟩
  | removed {code : ReturnCode} {object : StoredObject} {added spared : ObjectStore N}
      {journal : List KmsEvent} (hcode : code ≠ .ok) (hadds : kms.store.Adds object added)
      (hspared : added.Spares spared)
      (hjournal : ∀ exchange ∈ ((ObjectStore.remove object.handle).run spared).journal,
        .nvm exchange ∈ journal) :
      StoresPair kms publicParts privateParts ⟨.error code,
        { kms with store := ((ObjectStore.remove object.handle).run spared).state }, journal⟩
  | stored {publicKey privateKey : ObjectHandle} {publicView privateView : ObjectView}
      {store : ObjectStore N} {journal : List KmsEvent} (hne : publicKey ≠ privateKey)
      (hpublic : store.get? publicKey = some publicView)
      (hprivate : store.get? privateKey = some privateView)
      (hpublicAttributes : publicView.attributes = Template.firsts publicParts.flatten)
      (hprivateAttributes : privateView.attributes = Template.firsts privateParts.flatten) :
      StoresPair kms publicParts privateParts
        ⟨.ok ⟨.ok, .keyPair (some (publicKey, privateKey))⟩, { kms with store := store }, journal⟩

/-- Beside a public half that was just stored, the private half is stored, or the public one is
removed again. -/
theorem storeBeside_storesPair (hsound : kms.store.IsSound layout embedded)
    (hvalid : layout.validate = .ok ()) {range : Provenance}
    (hdynamic : range = .nvmDynamic ∨ range = .vmDynamic)
    {publicParts privateParts : List Template} {object : StoredObject} {view : ObjectView}
    {store : ObjectStore N} (journal : List KmsEvent) (hadds : kms.store.Adds object store)
    (hparse : ObjectView.parse? object.blob = some view)
    (hattributes : view.attributes = Template.firsts publicParts.flatten)
    (hadded : store.IsSound layout embedded) :
    (storeBeside range privateParts object.handle).Ends { kms with store := store }
      fun rest => kms.StoresPair publicParts privateParts (rest.after journal) := by
  have hsecond : ({ kms with store := store } : Kms C T N).store.IsSound layout embedded := hadded
  refine Ends.bind_attempt (Ends.mono (storeObject_storesNew hsecond hvalid hdynamic privateParts)
    fun outcome hstores => ?_)
  cases hstores with
  | refused hcode hspared =>
    refine bind_attempt_onStore (Ends.throw (.removed hcode hadds hspared fun exchange hmem => ?_))
    refine List.mem_append_right _ (List.mem_append_right _ (List.mem_append_left _ ?_))
    exact List.mem_map_of_mem hmem
  | stored hadds' hparse' hattributes' =>
    obtain ⟨hne, hpublic⟩ := hadds.get?_first hadds' hsound hparse
    exact Ends.pure (.stored hne hpublic ((hadds'.get?_self hsecond).trans hparse') hattributes
      hattributes')

theorem storePair_storesPair (hsound : kms.store.IsSound layout embedded)
    (hvalid : layout.validate = .ok ()) {publicRange privateRange : Provenance}
    (hpublic : publicRange = .nvmDynamic ∨ publicRange = .vmDynamic)
    (hprivate : privateRange = .nvmDynamic ∨ privateRange = .vmDynamic)
    (publicParts privateParts : List Template) :
    (storeObject publicRange publicParts >>= storeBeside privateRange privateParts).Ends kms
      (kms.StoresPair publicParts privateParts) := by
  have hkept := storeObject_keeps publicRange publicParts hsound
  have hstores := storeObject_storesNew hsound hvalid hpublic publicParts
  refine Ends.bind ?_
  unfold Ends at hkept hstores ⊢
  generalize (storeObject publicRange publicParts).run kms = outcome at hkept hstores ⊢
  cases hstores with
  | refused hcode hspared => exact .refused hcode hspared
  | stored hadds hparse hattributes =>
    exact storeBeside_storesPair hsound hvalid hprivate _ hadds hparse hattributes hkept

/-- In the enclave, generating a pair is refused, fails in the provider, or goes on to store the
pair that the provider made. -/
theorem generateKeyPair_ends_storing [CryptoProvider C] [ExternalToken T] {session : SessionHandle}
    {mechanism : Option PlacedMechanism} {publicTemplate privateTemplate : Template}
    {post : Outcome (Kms C T N) KmsEvent ReturnCode Answer → Prop}
    (hown : kms.tokenImplements .generateKeyPair = false)
    (hrefused : ∀ code, code ≠ .ok → post ⟨.error code, kms, []⟩)
    (hfailed : ∀ given code,
      kms.providerReply (.generateKeyPair given publicMaxLength privateMaxLength) = .error code →
      post ⟨.error code,
        kms.afterProvider (.generateKeyPair given publicMaxLength privateMaxLength),
        [kms.providerEvent (.generateKeyPair given publicMaxLength privateMaxLength)]⟩)
    (hstored : ∀ given point scalar, requireMechanism mechanism = .ok given →
      kms.sessions.isUp = true →
      kms.providerReply (.generateKeyPair given publicMaxLength privateMaxLength) =
        .ok (point, scalar) →
      (storeObject (targetRange kms.layout publicTemplate)
          (keyParts ⟨AttributeKind.ecPoint, point⟩ publicTemplate ObjectClass.publicKey
            KeyKind.ec) >>=
        storeBeside (targetRange kms.layout privateTemplate)
          (keyParts ⟨AttributeKind.value, scalar⟩ privateTemplate ObjectClass.privateKey
            KeyKind.ec)).Ends
        (kms.afterProvider (.generateKeyPair given publicMaxLength privateMaxLength))
        fun rest => post (rest.after
          [kms.providerEvent (.generateKeyPair given publicMaxLength privateMaxLength)])) :
    (generateKeyPair session mechanism publicTemplate privateTemplate).Ends kms post := by
  refine Ends.bind_ofExcept (fun code herror => hrefused code ?_) fun given hgiven =>
    Ends.bind_get (Ends.bind_ofExcept (fun code herror => hrefused code ?_) fun record hsession => ?_)
  · exact fun hcode => requireMechanism_ne_error_ok (hcode ▸ herror)
  · exact fun hcode => requireSession_ne_error_ok (hcode ▸ herror)
  rw [tokenSession_of_lacks hown]
  refine bind_askProvider (Ends.bind_ofExcept (fun code herror => hfailed given code herror)
    fun pair hpair => ?_)
  exact hstored given pair.1 pair.2 hgiven (requireSession_eq_ok.mp hsession).1 hpair

end Two

-- ═══════════════════════════════════════════════════════════════════════════
-- Requests
-- ═══════════════════════════════════════════════════════════════════════════

/-- A request that changes objects and that the enclave serves itself. -/
inductive ChangesOwn [ExternalToken T] (kms : Kms C T N) : Request → Prop
  | created {session : SessionHandle} {template : PlacedTemplate} {object : Address}
      (hown : kms.tokenImplements .createObject = false) :
      ChangesOwn kms (.createObject session template object)
  | destroyed {session : SessionHandle} {object : ObjectHandle}
      (hplace : (kms.layout.classify object).isExternal = false) :
      ChangesOwn kms (.destroyObject session object)
  | derived {session : SessionHandle} {mechanism : Option PlacedMechanism}
      {baseKey : ObjectHandle} {template : PlacedTemplate} {key : Address}
      (hplace : (kms.layout.classify baseKey).isExternal = false) :
      ChangesOwn kms (.deriveKey session mechanism baseKey template key)
  | paired {session : SessionHandle} {mechanism : Option PlacedMechanism}
      {publicTemplate privateTemplate : PlacedTemplate} {publicKey privateKey : Address}
      (hown : kms.tokenImplements .generateKeyPair = false) :
      ChangesOwn kms (.generateKeyPair session mechanism publicTemplate privateTemplate publicKey
        privateKey)

/-- The material of a new key takes precedence over what its template says. -/
theorem attribute?_keyParts {view : ObjectView} {kind : AttributeKind} {value : Bytes}
    {template : Template} {objectClass : ObjectClass} {keyKind : KeyKind}
    (h : view.attributes =
      Template.firsts (keyParts ⟨kind, value⟩ template objectClass keyKind).flatten) :
    view.attribute? kind = some value := by
  rw [ObjectView.attribute?, h, Template.find?_firsts]
  simp [keyParts, Template.find?]

/-- Of any other type, a new key has the first attribute of its template. -/
theorem attribute?_keyParts_other {view : ObjectView} {kind asked : AttributeKind} {value : Bytes}
    {template : Template} {objectClass : ObjectClass} {keyKind : KeyKind}
    (h : view.attributes =
      Template.firsts (keyParts ⟨kind, value⟩ template objectClass keyKind).flatten)
    (hkind : kind ≠ asked) (hclass : AttributeKind.objectClass ≠ asked)
    (htype : AttributeKind.keyType ≠ asked) : view.attribute? asked = template.find? asked := by
  rw [ObjectView.attribute?, h, Template.find?_firsts, keyParts]
  simp only [List.flatten_cons, List.flatten_nil, List.append_nil, Template.find?_append]
  simp [Template.find?, hkind, hclass, htype]

end KeyEnclave.Kms
