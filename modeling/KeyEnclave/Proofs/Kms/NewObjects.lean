import KeyEnclave.Proofs.Kms.Latching
import KeyEnclave.Proofs.Kms.Storing
import KeyEnclave.Proofs.Provider.Results

/-!
# New objects are found unless they are latched

A request that makes objects hands out the handles that they are stored under. What is handed out is
the lowest free handle, latched or not: a latch outlives the object that it was set for, and may be
set before there is one. An object under such a handle is in the store, and no lookup finds it.

## Main definitions

* `Answer.newHandles` — the handles of new objects in an answer.
* `Kms.MakesObjects` — the attributes of the objects that a request makes in the enclave.
* `Kms.GivesObjects` — an answer hands out one handle for each object that the request makes.
* `Kms.FoundUnless` — a stored object is found unless its handle is latched.

## Main results

* `Kms.givesObjects_of_changes` — every handle that is handed out is that of a stored object.
* `Kms.makes_objects_of_ok` — over the software provider, `ok` means that there are objects.
* `Kms.new_objects_are_found_unless_latched` — and of one that is found, unless it was latched.
-/

namespace KeyEnclave

/-- The handles of new objects in an answer, in the order in which they are written. -/
def Answer.newHandles (answer : Answer) : List ObjectHandle :=
  match answer.outputs with
  | .object (some handle) | .key (some handle) => [handle]
  | .keyPair (some (publicKey, privateKey)) => [publicKey, privateKey]
  | _ => []

/-- A request that is refused hands out no handle. -/
@[simp] theorem Request.newHandles_untouched (request : Request) (code : ReturnCode) :
    Answer.newHandles ⟨code, request.untouched⟩ = [] := by
  cases request <;> rfl

namespace Kms

open KeyEnclave.Action

variable {C T N : Type} {kms : Kms C T N} {layout : ObjectLayout} {embedded : List Bytes}

/-- An object with the first attribute of each type of a template is stored under a handle. -/
def HasObject (kms : Kms C T N) (handle : ObjectHandle) (attributes : Template) : Prop :=
  ∃ view, kms.store.get? handle = some view ∧ view.attributes = attributes.firsts

/-- An object is stored under a handle, and a lookup finds that object unless the handle is among
those that are latched. -/
def FoundUnless (kms : Kms C T N) (latched : ObjectHandle → Prop) (handle : ObjectHandle)
    (attributes : Template) : Prop :=
  ∃ view, kms.store.get? handle = some view ∧ view.attributes = attributes.firsts ∧
    (latched handle → kms.lookup handle = none) ∧
      (¬latched handle → kms.lookup handle = some view)

/-- Whatever is stored is found unless its handle is latched. -/
theorem HasObject.foundUnless {latched : ObjectHandle → Prop} {handle : ObjectHandle}
    {attributes : Template} (h : kms.HasObject handle attributes)
    (hlatched : kms.latches.isKeyLocked handle = true ↔ latched handle) :
    kms.FoundUnless latched handle attributes := by
  obtain ⟨view, hget, hattributes⟩ := h
  refine ⟨view, hget, hattributes, fun hlatch => ?_, fun hopen => ?_⟩
  · exact if_pos (hlatched.mpr hlatch)
  · exact (if_neg fun hlatch => hopen (hlatched.mp hlatch)).trans hget

-- ═══════════════════════════════════════════════════════════════════════════
-- What is handed out
-- ═══════════════════════════════════════════════════════════════════════════

section Making

variable [CryptoProvider C]

/-- The attributes of the objects that a request makes in the enclave, in the order in which their
handles are handed out: what the provider made of them, what the template says, and the class and
the type of a key. -/
inductive MakesObjects (kms : Kms C T N) : Request → List Template → Prop
  | created {session : SessionHandle} {template : PlacedTemplate} {object : Address} :
      MakesObjects kms (.createObject session template object) [template.template]
  | destroyed {session : SessionHandle} {object : ObjectHandle} :
      MakesObjects kms (.destroyObject session object) []
  | derived {session : SessionHandle} {mechanism : Option PlacedMechanism} {given : Mechanism}
      {baseKey : ObjectHandle} {template : PlacedTemplate} {key : Address} {base : ObjectView}
      {length : Nat} {value : Bytes} (hgiven : requireMechanism mechanism = .ok given)
      (hbase : kms.lookup baseKey = some base)
      (hlength : derivedLength template.template = .ok length)
      (hvalue : kms.providerReply (.deriveKey given base length) = .ok value) :
      MakesObjects kms (.deriveKey session mechanism baseKey template key)
        [(keyParts ⟨AttributeKind.value, value⟩ template.template ObjectClass.secretKey
          KeyKind.genericSecret).flatten]
  | paired {session : SessionHandle} {mechanism : Option PlacedMechanism} {given : Mechanism}
      {publicTemplate privateTemplate : PlacedTemplate} {publicKey privateKey : Address}
      {point scalar : Bytes} (hgiven : requireMechanism mechanism = .ok given)
      (hpair : kms.providerReply (.generateKeyPair given publicMaxLength privateMaxLength) =
        .ok (point, scalar)) :
      MakesObjects kms (.generateKeyPair session mechanism publicTemplate privateTemplate publicKey
          privateKey)
        [(keyParts ⟨AttributeKind.ecPoint, point⟩ publicTemplate.template ObjectClass.publicKey
            KeyKind.ec).flatten,
          (keyParts ⟨AttributeKind.value, scalar⟩ privateTemplate.template ObjectClass.privateKey
            KeyKind.ec).flatten]

/-- An answer hands out one handle for each object that the request makes, or none if the request is
refused. -/
def GivesObjects (kms : Kms C T N) (request : Request) (found : ObjectHandle → Template → Prop)
    (answer : Answer) : Prop :=
  (answer.newHandles = [] ∧ (CryptoProvider.RefusesPlainly C → answer.code ≠ .ok)) ∨
    ∃ made, kms.MakesObjects request made ∧ List.Forall₂ found answer.newHandles made

theorem GivesObjects.refused {request : Request} {found : ObjectHandle → Template → Prop}
    {code : ReturnCode} (hcode : CryptoProvider.RefusesPlainly C → code ≠ .ok) :
    kms.GivesObjects request found ⟨code, request.untouched⟩ :=
  .inl ⟨request.newHandles_untouched code, hcode⟩

theorem GivesObjects.imp {request : Request} {found found' : ObjectHandle → Template → Prop}
    {answer : Answer} (h : kms.GivesObjects request found answer)
    (hfound : ∀ handle attributes, found handle attributes → found' handle attributes) :
    kms.GivesObjects request found' answer := by
  rcases h with hrefused | ⟨made, hmakes, hall⟩
  · exact .inl hrefused
  · exact .inr ⟨made, hmakes, hall.imp hfound⟩

variable [NvmStorage N]

/-- A request that ends with storing one object hands out the handle of that object. -/
theorem storing_givesObjects {service : Kms C T N} {request : Request} {range : Provenance}
    {parts : List Template} {attributes : Template} {outputs : ObjectHandle → Outputs}
    (hsound : kms.store.IsSound layout embedded) (hvalid : layout.validate = .ok ())
    (hdynamic : range = .nvmDynamic ∨ range = .vmDynamic)
    (hparts : parts.flatten = attributes) (hmakes : service.MakesObjects request [attributes])
    (houtputs : ∀ handle, Answer.newHandles ⟨.ok, outputs handle⟩ = [handle]) :
    (storeObject range parts >>= fun handle => pure ⟨.ok, outputs handle⟩).Ends kms fun outcome =>
      service.GivesObjects request outcome.state.HasObject (request.concluding outcome.answer) := by
  refine Ends.bind (Ends.mono (storeObject_storesNew hsound hvalid hdynamic parts)
    fun outcome hstores => ?_)
  cases hstores with
  | refused hcode => exact .refused fun _ => hcode
  | @stored object view store _ hadds hparse hattributes =>
    refine Ends.pure (.inr ⟨_, hmakes, ?_⟩)
    have hobject : ({ kms with store := store } : Kms C T N).HasObject object.handle attributes :=
      ⟨view, (hadds.get?_self hsound).trans hparse, hparts ▸ hattributes⟩
    show List.Forall₂ _ (Answer.newHandles ⟨.ok, outputs object.handle⟩) _
    rw [houtputs]
    exact .cons hobject .nil

variable [ExternalToken T]

/-- Every handle that a request hands out is that of an object that it made and stored. -/
theorem serve_givesObjects {request : Request} (hsound : kms.store.IsSound layout embedded)
    (hvalid : layout.validate = .ok ()) (hchanges : kms.ChangesOwn request) :
    (serve request).Ends kms fun outcome =>
      kms.GivesObjects request outcome.state.HasObject (request.concluding outcome.answer) := by
  cases hchanges with
  | created hown =>
    exact createObject_ends_storing hown (fun _ hcode => .refused fun _ => hcode)
      (storing_givesObjects hsound hvalid (targetRange_dynamic _ _) List.flatten_singleton .created
        fun _ => rfl)
  | destroyed =>
    -- an answer to this request has no outputs, whatever becomes of the object
    refine codeOnly_ends (.inr ⟨[], .destroyed, ?_⟩)
    cases ((destroyObject _ _).run kms).answer <;> exact .nil
  | derived hplace =>
    refine deriveKey_ends_storing hplace (fun _ hcode => .refused fun _ => hcode)
      (fun given base length code herror => .refused fun hplain hcode => ?_)
      fun given base length value hgiven hbase hlength hvalue => ?_
    · exact hplain.derived _ _ _ _ (hcode ▸ herror)
    · exact storing_givesObjects (isSound_afterProvider _ hsound) hvalid (targetRange_dynamic _ _)
        rfl (.derived hgiven hbase hlength hvalue) fun _ => rfl
  | paired hown =>
    refine generateKeyPair_ends_storing hown (fun _ hcode => .refused fun _ => hcode)
      (fun given code herror => .refused fun hplain hcode => ?_)
      fun given point scalar hgiven _ hpair => ?_
    · exact hplain.pair _ _ _ _ (hcode ▸ herror)
    refine Ends.mono (storePair_storesPair (isSound_afterProvider _ hsound) hvalid
      (targetRange_dynamic _ _) (targetRange_dynamic _ _) _ _) fun outcome hstores => ?_
    cases hstores with
    | refused hcode | removed hcode => exact .refused fun _ => hcode
    | stored _ hpublic hprivate hpublicAttributes hprivateAttributes =>
      exact .inr ⟨_, .paired hgiven hpair, .cons ⟨_, hpublic, hpublicAttributes⟩
        (.cons ⟨_, hprivate, hprivateAttributes⟩ .nil)⟩

theorem givesObjects_of_changes {call : Call} (hsound : kms.store.IsSound layout embedded)
    (hvalid : layout.validate = .ok ()) (hchanges : kms.ChangesOwn call.request) :
    kms.GivesObjects call.request (kms.next call).HasObject (kms.answerTo call) := by
  cases hadmitted : kms.admitted call.word call.request with
  | error code =>
    unfold answerTo
    rw [dispatch_of_refused hadmitted]
    exact .refused fun _ => ne_ok_of_refused hadmitted
  | ok u =>
    exact dispatch_ends (fun answer after _ => kms.GivesObjects call.request after.HasObject answer)
      hadmitted (serve_givesObjects hsound hvalid hchanges)

/-- In every run over the software provider, a request that changes objects and is answered with
`ok` has made them: one is stored under each handle that was handed out. -/
theorem makes_objects_of_ok {R : Type} [RandomSource R] {config : KmsConfig}
    {crypto : SoftwareCrypto R} {token : T} {nvm : N} {start : Kms (SoftwareCrypto R) T N}
    (hnew : Kms.new config crypto token nvm = .ok start) (calls : List Call) {call : Call}
    (hchanges : (start.after calls).ChangesOwn call.request)
    (hok : ((start.after calls).answerTo call).code = .ok) :
    ∃ made, (start.after calls).MakesObjects call.request made ∧
      List.Forall₂ ((start.after calls).next call).HasObject
        ((start.after calls).answerTo call).newHandles made := by
  have hsound := (isSound_after hnew calls).store
  rcases givesObjects_of_changes hsound (new_eq_ok hnew).1 hchanges with ⟨-, hrefused⟩ | hmade
  · exact absurd hok (hrefused SoftwareCrypto.refusesPlainly)
  · exact hmade

-- ═══════════════════════════════════════════════════════════════════════════
-- What is found
-- ═══════════════════════════════════════════════════════════════════════════

/-- A request of a run that was answered with `ok` latched a key. -/
def HasLatched (start : Kms C T N) (calls : List Call) (handle : ObjectHandle) : Prop :=
  ∃ served ∈ start.history calls, served.Latches handle

omit [CryptoProvider C] [NvmStorage N] in
theorem not_lockKeys_of_changes {request : Request} (hchanges : kms.ChangesOwn request)
    (keys : Placed (List ObjectHandle)) : request ≠ .lockKeys keys := by
  rintro rfl
  cases hchanges

/-- In every run, a request that changes objects and that the enclave serves itself hands out handles
under which the objects are stored that it made, one for each if it is answered with `ok`. Of these a
lookup finds exactly those whose handle was not latched in the run. -/
theorem new_objects_are_found_unless_latched {config : KmsConfig} {crypto : C} {token : T} {nvm : N}
    {start : Kms C T N} (hnew : Kms.new config crypto token nvm = .ok start) (calls : List Call)
    {call : Call} (hchanges : (start.after calls).ChangesOwn call.request) :
    (start.after calls).GivesObjects call.request
      (((start.after calls).next call).FoundUnless (start.HasLatched calls))
      ((start.after calls).answerTo call) := by
  have hvalid := (new_eq_ok hnew).1
  have hsound := isSound_after hnew (calls ++ [call])
  rw [after_concat] at hsound
  have hlatches (handle : ObjectHandle) :
      ((start.after calls).next call).latches.isKeyLocked handle =
        (start.after calls).latches.isKeyLocked handle :=
    ((start.after calls).next_effect call).isKeyLocked (not_lockKeys_of_changes hchanges)
  refine (givesObjects_of_changes (isSound_after hnew calls).store hvalid hchanges).imp
    fun handle attributes hobject => hobject.foundUnless ?_
  obtain ⟨view, hget, -⟩ := hobject
  have hlockable := hsound.store.lockable_of_get? hvalid hget
  rw [hlatches, isKeyLocked_after hlockable, isKeyLocked_of_new hnew]
  simp [HasLatched]

end Making

/-- A run that latches the lowest handle of volatile objects before there is an object. -/
def latchedAheadRun : List Call :=
  [⟨FunctionId.initialise.word, .initialise⟩,
    ⟨FunctionId.openSession.word, .openSession 1 SessionFlags.serialSession none default⟩,
    ⟨FunctionId.lockKeys.word, .lockKeys ⟨default, [50]⟩⟩]

/-- A call to create a volatile object. -/
def askVolatile : Call :=
  ⟨FunctionId.createObject.word, .createObject 1 (templateOf
    [(AttributeKind.objectClass, Bytes.ofWord ObjectClass.secretKey),
      (AttributeKind.keyType, Bytes.ofWord KeyKind.genericSecret)]) default⟩

/-- The second object that is created after that run is found. -/
theorem second_object_is_found :
    let start : Kms NoCrypto NoExternalToken NoNvm := plain .standard .mk .mk .mk
    let kms := start.after (latchedAheadRun ++ [askVolatile])
    kms.answerTo askVolatile = ⟨.ok, .object (some 51)⟩ ∧
      ∃ view, (kms.next askVolatile).lookup 51 = some view := by
  intro start kms
  have hvalid : ObjectLayout.standard.validate = .ok () := by decide
  have hnew : Kms.new ⟨.standard, [], none⟩ NoCrypto.mk NoExternalToken.mk NoNvm.mk = .ok start :=
    new_plain hvalid _ _ _
  have hanswer : kms.answerTo askVolatile = ⟨.ok, .object (some 51)⟩ := by decide +kernel
  have hopen : ¬start.HasLatched (latchedAheadRun ++ [askVolatile]) 51 := by
    intro hlatched
    have hlatch : kms.latches.isKeyLocked 51 = true :=
      (isKeyLocked_after (by decide) start _).mpr (.inr hlatched)
    revert hlatch
    decide +kernel
  have hhandles : (kms.answerTo askVolatile).newHandles = [51] := by
    rw [hanswer]
    rfl
  have hgiven : kms.GivesObjects askVolatile.request
      ((kms.next askVolatile).FoundUnless (start.HasLatched (latchedAheadRun ++ [askVolatile])))
      (kms.answerTo askVolatile) :=
    new_objects_are_found_unless_latched hnew _ (.created rfl)
  rcases hgiven with ⟨hempty, -⟩ | ⟨made, -, hall⟩
  · rw [hhandles] at hempty
    cases hempty
  · rw [hhandles] at hall
    cases hall with
    | cons hfound =>
      obtain ⟨view, -, -, -, hfound⟩ := hfound
      exact ⟨hanswer, view, hfound hopen⟩

/-- The first one is stored under the latched handle, and is not found. -/
theorem first_object_is_not_found :
    let start : Kms NoCrypto NoExternalToken NoNvm := plain .standard .mk .mk .mk
    let kms := start.after latchedAheadRun
    kms.ChangesOwn askVolatile.request ∧ kms.answerTo askVolatile = ⟨.ok, .object (some 50)⟩ ∧
      (kms.next askVolatile).latches.isKeyLocked 50 = true ∧
      ((kms.next askVolatile).store.get? 50).isSome = true ∧
      (kms.next askVolatile).lookup 50 = none := by
  intro start kms
  exact ⟨.created rfl, by decide +kernel⟩

end Kms

end KeyEnclave
