import KeyEnclave.Proofs.Kms.Sessions
import KeyEnclave.Proofs.Object.Building
import KeyEnclave.Proofs.Store.Representation

/-!
# Creating an object and reading it back

An object that the enclave creates itself has the first attribute of each type of its template. It
is stored exactly if it fits its buffer, and whoever may read it reads what the template said.

## Main definitions

* `Kms.MayCreate` — a call to create an object is served by the enclave itself.
* `Kms.HasPlace` — the range for an object has a free handle, and the store room for it.
* `Kms.MayRead` — a call to read attributes is served by the enclave itself.
* `Kms.CreatesFrom` — what becomes of a call to create an object.

## Main results

* `Kms.run_createObject` — the outcome of creating an object.
* `Kms.created_object_reads_back` — what was created from a template is what the template said.
-/

namespace KeyEnclave

open KeyEnclave.Action

namespace Template

/-- A template lacks the class of an object, or all of the attributes that say of which type. -/
def Lacks (template : Template) : Prop :=
  template.find? AttributeKind.objectClass = none ∨
    template.find? AttributeKind.certificateType = none ∧
      template.find? AttributeKind.hwFeatureType = none ∧
        template.find? AttributeKind.keyType = none

instance (template : Template) : Decidable template.Lacks :=
  inferInstanceAs (Decidable (_ ∨ _))

/-- The values of an object made of a template are withheld. -/
def IsSensitive (template : Template) : Prop :=
  ∃ rest, template.find? AttributeKind.extractable = some (0 :: rest)

/-- What a query with enough room learns of an object made of a template. -/
def reply (template : Template) (query : AttributeQuery) : AttributeReply :=
  match template.find? query.kind with
  | some value => ⟨some value.length, value⟩
  | none => ⟨none, []⟩

/-- Every value that a query asks for and the template has fits the buffer of the query. -/
def FitsRoom (template : Template) (queries : List AttributeQuery) : Prop :=
  ∀ query ∈ queries, ∀ value, template.find? query.kind = some value →
    ∃ room, query.room = some room ∧ value.length ≤ room

theorem isComplete_eq_false {template : Template} :
    Kms.isComplete template = false ↔ template.Lacks := by
  simp only [Kms.isComplete, Kms.typeAttributes, Bool.and_eq_false_iff, Option.isSome_eq_false_iff,
    Option.isNone_iff_eq_none, List.any_cons, List.any_nil, Bool.or_eq_false_iff, Bool.or_false]
  rfl

end Template

namespace ObjectView

variable {view : ObjectView} {template : Template}

/-- The values of an object may be read unless the first attribute that says so is clear. -/
theorem isExtractable_iff : view.isExtractable = true ↔
    ¬∃ rest, view.attribute? AttributeKind.extractable = some (0 :: rest) := by
  unfold isExtractable flag?
  rcases view.attribute? AttributeKind.extractable with _ | _ | ⟨first, rest⟩
  · simp
  · simp [Attribute.isSet]
  · by_cases hfirst : first = 0
    · simp [Attribute.isSet, hfirst]
    · simp [Attribute.isSet, hfirst]

/-- The values of an object made of a template may be read unless the template says otherwise. -/
theorem isExtractable_of_attributes (h : view.attributes = template.firsts) :
    view.isExtractable = true ↔ ¬template.IsSensitive := by
  rw [isExtractable_iff, attribute?, h, Template.find?_firsts]
  rfl

/-- Queries with enough room learn what the template said. -/
theorem serveQuery_of_attributes (h : view.attributes = template.firsts) {query : AttributeQuery}
    (hroom : ∀ value, template.find? query.kind = some value →
      ∃ room, query.room = some room ∧ value.length ≤ room) :
    serveQuery view query = (template.reply query,
      if template.find? query.kind = none then some .attributeTypeInvalid else none) := by
  have hvalue : view.attribute? query.kind = template.find? query.kind := by
    rw [attribute?, h, Template.find?_firsts]
  unfold serveQuery Template.reply
  rw [hvalue]
  cases hfind : template.find? query.kind with
  | none => rfl
  | some value =>
    obtain ⟨room, hquery, hle⟩ := hroom value hfind
    simp [hquery, hle]

/-- The answer to queries with enough room. -/
theorem serveQueries_of_attributes (h : view.attributes = template.firsts)
    {queries : List AttributeQuery} (hroom : template.FitsRoom queries) :
    Kms.serveQueries view queries =
      ⟨if ∃ query ∈ queries, template.find? query.kind = none then .attributeTypeInvalid else .ok,
        .values (queries.map template.reply)⟩ := by
  have hserved {query : AttributeQuery} (hquery : query ∈ queries) :=
    serveQuery_of_attributes h (hroom query hquery)
  have hreplies : (queries.map (serveQuery view)).map Prod.fst = queries.map template.reply := by
    rw [List.map_map]
    exact List.map_congr_left fun query hquery => by rw [Function.comp_apply, hserved hquery]
  -- every query that learns nothing is answered with the same code
  have hcodes : ∀ code, code ∈ (queries.map (serveQuery view)).filterMap Prod.snd ↔
      code = .attributeTypeInvalid ∧ ∃ query ∈ queries, template.find? query.kind = none := by
    intro code
    simp only [List.mem_filterMap, List.mem_map, exists_exists_and_eq_and]
    constructor
    · rintro ⟨query, hquery, hcode⟩
      rw [hserved hquery] at hcode
      by_cases hnone : template.find? query.kind = none
      · rw [if_pos hnone] at hcode
        exact ⟨(Option.some.inj hcode).symm, query, hquery, hnone⟩
      · rw [if_neg hnone] at hcode
        cases hcode
    · rintro ⟨rfl, query, hquery, hnone⟩
      refine ⟨query, hquery, ?_⟩
      rw [hserved hquery, if_pos hnone]
  unfold Kms.serveQueries
  simp only [hreplies]
  congr 1
  generalize (queries.map (serveQuery view)).filterMap Prod.snd = codes at hcodes
  cases hlast : codes.getLast? with
  | none =>
    rw [List.getLast?_eq_none_iff] at hlast
    subst hlast
    have hall : ¬∃ query ∈ queries, template.find? query.kind = none := fun hsome =>
      List.not_mem_nil ((hcodes .attributeTypeInvalid).mpr ⟨rfl, hsome⟩)
    rw [if_neg hall]
    rfl
  | some code =>
    obtain ⟨rfl, hsome⟩ := (hcodes code).mp (List.mem_of_getLast? hlast)
    rw [if_pos hsome]
    rfl

end ObjectView

namespace Kms

variable {C T N : Type} {kms : Kms C T N} {layout : ObjectLayout}
  {embedded : List Bytes} {create read : Call} {session : SessionHandle}
  {template : PlacedTemplate} {object : Address} {handle : ObjectHandle} {values : PlacedQueries}

/-- A call to read attributes of an object that is not latched, on a session that is idle. -/
structure MayRead (kms : Kms C T N) (read : Call) (session : SessionHandle) (handle : ObjectHandle)
    (values : PlacedQueries) : Prop where
  request_eq : read.request = .getAttributeValue session handle values
  accepted : kms.Accepts read
  idle : ∃ record, kms.requireSession session = .ok record ∧ record.state = .idle
  unlatched : kms.latches.isKeyLocked handle = false

theorem exists_idle_of_get? (hup : kms.sessions.isUp = true)
    (hstate : (kms.sessions.sessions.get? session).map Session.state = some .idle) :
    ∃ record, kms.requireSession session = .ok record ∧ record.state = .idle := by
  obtain ⟨record, hget, hidle⟩ := Option.map_eq_some_iff.mp hstate
  exact ⟨record, requireSession_eq_ok.mpr ⟨hup, hget⟩, hidle⟩

variable [ExternalToken T]

/-- A call to create an object that the enclave itself serves. -/
structure MayCreate (kms : Kms C T N) (create : Call) (session : SessionHandle)
    (template : PlacedTemplate) (object : Address) : Prop where
  request_eq : create.request = .createObject session template object
  accepted : kms.Accepts create
  idle : ∃ record, kms.requireSession session = .ok record ∧ record.state = .idle
  own : kms.tokenImplements .createObject = false

/-- The range for an object made of a template has the free handle, and the store room for it. -/
structure HasPlace (kms : Kms C T N) (template : Template) (handle : ObjectHandle) : Prop where
  free : kms.store.freeHandle (targetRange kms.layout template) = .ok handle
  room : targetRange kms.layout template = .vmDynamic → kms.store.volatile.length < 20

theorem MayCreate.concluding_error (h : kms.MayCreate create session template object)
    (code : ReturnCode) : create.request.concluding (.error code) = ⟨code, .object none⟩ := by
  rw [h.request_eq]
  rfl

/-- Whoever may read an object of the enclave is served from it, unless its values are withheld. -/
theorem run_getAttributeValue {view : ObjectView} {queries : List AttributeQuery}
    (hidle : ∃ record, kms.requireSession session = .ok record ∧ record.state = .idle)
    (hunlatched : kms.latches.isKeyLocked handle = false)
    (hget : kms.store.get? handle = some view) :
    (getAttributeValue session handle queries).run kms =
      ⟨.ok (if view.isExtractable then serveQueries view queries
        else ⟨.attributeSensitive, .values (queries.map fun _ => ⟨none, []⟩)⟩), kms, []⟩ := by
  obtain ⟨record, hsession, hstate⟩ := hidle
  have hlookup : kms.lookup handle = some view := by
    rw [lookup, hunlatched, ← hget]
    rfl
  have hlocal := not_isExternal_of_lookup hlookup
  show Ends (getAttributeValue session handle queries) kms fun outcome => outcome = _
  refine Ends.bind_get ?_
  rw [hsession]
  refine Ends.bind_pure (Ends.failing (fun hlatched => ?_) fun _ => ?_)
  · rw [hunlatched] at hlatched
    cases hlatched
  rw [if_neg (by simp [hlocal]), requireIdle_eq_ok.mpr hstate, hlookup]
  refine Ends.bind_pure (Ends.ite (fun hwithheld => Ends.pure ?_) fun hreadable => Ends.pure ?_)
  · rw [Bool.not_eq_true'] at hwithheld
    rw [hwithheld]
    rfl
  · rw [Bool.not_eq_true', Bool.not_eq_false] at hreadable
    rw [hreadable]
    rfl

variable [NvmStorage N]

/-- The outcomes of creating an object in the enclave. -/
theorem createObject_ends {attributes : Template}
    {post : Outcome (Kms C T N) KmsEvent ReturnCode Answer → Prop}
    (hidle : ∃ record, kms.requireSession session = .ok record ∧ record.state = .idle)
    (hown : kms.tokenImplements .createObject = false)
    (hincomplete : isComplete attributes = false → post ⟨.error .templateIncomplete, kms, []⟩)
    (hfull : isComplete attributes = true → ∀ error,
      kms.store.freeHandle (targetRange kms.layout attributes) = .error error →
      post ⟨.error error.code, kms, []⟩)
    (htooLarge : isComplete attributes = true → ∀ handle error,
      kms.store.freeHandle (targetRange kms.layout attributes) = .ok handle →
      serialise Limits.objectLength handle [attributes] = .error error →
      post ⟨.error .hostMemory, kms, []⟩)
    (hinserted : isComplete attributes = true → ∀ handle blob,
      kms.store.freeHandle (targetRange kms.layout attributes) = .ok handle →
      serialise Limits.objectLength handle [attributes] = .ok blob →
      let outcome := (ObjectStore.insert blob).run kms.store
      post ⟨(outcome.answer.mapError StoreError.code).map fun handle => ⟨.ok, .object (some handle)⟩,
        { kms with store := outcome.state }, outcome.journal.map .nvm⟩) :
    (createObject session attributes).Ends kms post := by
  obtain ⟨record, hsession, hstate⟩ := hidle
  refine Ends.bind_get ?_
  rw [hsession]
  refine Ends.bind_pure ?_
  rw [tokenSession_of_lacks hown]
  show Ends (Action.ofExcept (requireIdle record) >>= _) kms post
  rw [requireIdle_eq_ok.mpr hstate]
  refine Ends.bind_pure (Ends.failing (fun hnot => hincomplete ?_) fun hcomplete => ?_)
  · simpa using hnot
  have hcomplete : isComplete attributes = true := by simpa using hcomplete
  refine Ends.bind (Ends.bind_get ?_)
  cases hfree : kms.store.freeHandle (targetRange kms.layout attributes) with
  | error error => exact hfull hcomplete error hfree
  | ok handle =>
    refine Ends.bind_pure ?_
    cases hblob : serialise Limits.objectLength handle [attributes] with
    | error error => exact Ends.throw (htooLarge hcomplete handle error hfree hblob)
    | ok blob =>
      have hpost := hinserted hcomplete handle blob hfree hblob
      have hrun : (onStore (ObjectStore.insert blob) : Step C T N ObjectHandle).run kms =
          ⟨((ObjectStore.insert blob).run kms.store).answer.mapError StoreError.code,
            { kms with store := ((ObjectStore.insert blob).run kms.store).state },
            ((ObjectStore.insert blob).run kms.store).journal.map .nvm⟩ := rfl
      refine Ends.of_run hrun ?_
      cases hanswer : ((ObjectStore.insert blob).run kms.store).answer with
      | error error =>
        simp only [hanswer] at hpost ⊢
        exact hpost
      | ok stored =>
        simp only [hanswer] at hpost ⊢
        refine Ends.pure ?_
        show post ⟨_, _, _ ++ []⟩
        rw [List.append_nil]
        exact hpost

variable [CryptoProvider C]

/-- What becomes of a call to create an object from a template. -/
structure CreatesFrom (kms : Kms C T N) (create : Call) (template : Template) : Prop where
  /-- A template without a class or a type is refused. -/
  incomplete : template.Lacks →
    kms.dispatch create.word create.request = (⟨.templateIncomplete, .object none⟩, kms, [])
  /-- An object of more than 512 bytes is refused, and nothing is stored. -/
  tooLarge : ¬template.Lacks → ∀ handle, kms.HasPlace template handle →
    512 < template.objectLength →
    kms.dispatch create.word create.request = (⟨.hostMemory, .object none⟩, kms, [])
  /-- Any other is created under the free handle, unless storage refuses it. -/
  created : ¬template.Lacks → ∀ handle, kms.HasPlace template handle →
    (∀ exchange ∈ (kms.eventsOf create).filterMap KmsEvent.nvm?,
      NvmExchange.isSuccess exchange = true) →
    template.objectLength ≤ 512 → kms.answerTo create = ⟨.ok, .object (some handle)⟩
  /-- What was created reads back as the template said. -/
  readBack : ∀ handle, kms.answerTo create = ⟨.ok, .object (some handle)⟩ →
    ¬template.IsSensitive → ∀ read session values,
      (kms.next create).MayRead read session handle values → template.FitsRoom values.queries →
      (kms.next create).dispatch read.word read.request =
        (⟨if ∃ query ∈ values.queries, template.find? query.kind = none then .attributeTypeInvalid
            else .ok, .values (values.queries.map template.reply)⟩, kms.next create, [])

/-- What holds of the outcomes of creating an object holds of the call that creates it. -/
theorem MayCreate.ends (h : kms.MayCreate create session template object)
    (post : Answer → Kms C T N → List KmsEvent → Prop)
    (hends : (createObject session template.template).Ends kms fun outcome =>
      post (create.request.concluding outcome.answer) outcome.state outcome.journal) :
    post (kms.answerTo create) (kms.next create) (kms.eventsOf create) := by
  refine dispatch_ends post h.accepted.admitted ?_
  rw [h.request_eq] at hends ⊢
  exact hends

/-- An object made of a template is stored under a free handle if there is room for it and storage
takes it, and then has the first attribute of each type. -/
theorem insert_serialised {store : ObjectStore N} (h : store.IsSound layout embedded)
    (hvalid : layout.validate = .ok ()) {provenance : Provenance} {attributes : Template}
    {blob : Bytes} (hfree : store.freeHandle provenance = .ok handle)
    (hserialised : serialise Limits.objectLength handle [attributes] = .ok blob) :
    ((provenance = .vmDynamic → store.volatile.length < Limits.volatileObjects) →
      (∀ exchange ∈ ((ObjectStore.insert blob).run store).journal, exchange.isSuccess = true) →
      ((ObjectStore.insert blob).run store).answer = .ok handle) ∧
    ∀ stored, ((ObjectStore.insert blob).run store).answer = .ok stored → stored = handle ∧
      ∃ view, ((ObjectStore.insert blob).run store).state.get? handle = some view ∧
        view.attributes = attributes.firsts := by
  obtain ⟨hle, hlength, view, hparse, hhandle, hattributes⟩ :=
    of_serialise_eq_ok (by decide) hserialised
  rw [List.flatten_singleton] at hattributes
  have hnamed : ObjectStore.handleOf blob = .ok handle :=
    ObjectStore.handleOf_eq_ok.mpr (by rw [hparse]; exact congrArg some hhandle)
  obtain ⟨hok, hfound⟩ := h.insert_free hvalid hfree hnamed (hlength ▸ hle)
  refine ⟨hok, fun stored hstored => ?_⟩
  obtain ⟨hsame, hget⟩ := hfound stored hstored
  exact ⟨hsame, view, hget.trans hparse, hattributes⟩

/-- What was created is found under its handle. -/
theorem MayCreate.found (h : kms.MayCreate create session template object)
    (hsound : kms.store.IsSound layout embedded) (hvalid : layout.validate = .ok ())
    (hanswer : kms.answerTo create = ⟨.ok, .object (some handle)⟩) :
    ∃ view, (kms.next create).store.get? handle = some view ∧
      view.attributes = template.template.firsts := by
  revert hanswer
  refine h.ends (fun answer after _ => answer = ⟨.ok, .object (some handle)⟩ →
      ∃ view, after.store.get? handle = some view ∧
        view.attributes = template.template.firsts)
    (createObject_ends h.idle h.own (fun _ => ?_) (fun _ error _ => ?_) (fun _ _ _ _ _ => ?_)
      fun _ found blob hfree hserialised => ?_)
  · rw [h.concluding_error]
    intro hanswer
    cases hanswer
  · rw [h.concluding_error]
    intro hanswer
    obtain ⟨-, hnone⟩ := Answer.mk.inj hanswer
    cases hnone
  · rw [h.concluding_error]
    intro hanswer
    cases hanswer
  · intro outcome hanswer
    have hinserted := (insert_serialised hsound hvalid hfree hserialised).2
    cases hstored : outcome.answer with
    | error error =>
      rw [hstored] at hanswer
      simp only [Except.mapError, Except.map, h.concluding_error] at hanswer
      obtain ⟨-, hnone⟩ := Answer.mk.inj hanswer
      cases hnone
    | ok stored =>
      obtain ⟨rfl, hview⟩ := hinserted stored hstored
      have hhandle : stored = handle := by
        simpa [hstored, Except.mapError, Except.map, Request.concluding] using hanswer
      exact hhandle ▸ hview

theorem MayCreate.createsFrom (h : kms.MayCreate create session template object)
    (hsound : kms.store.IsSound layout embedded) (hvalid : layout.validate = .ok ()) :
    kms.CreatesFrom create template.template := by
  constructor
  case incomplete =>
    intro hlacks
    have hnot : isComplete template.template ≠ true := by
      rw [Template.isComplete_eq_false.mpr hlacks]
      exact Bool.false_ne_true
    refine h.ends (fun answer after events => (answer, after, events) = _)
      (createObject_ends h.idle h.own (fun _ => ?_) (fun hyes => absurd hyes hnot)
        (fun hyes => absurd hyes hnot) fun hyes => absurd hyes hnot)
    rw [h.concluding_error]
  case tooLarge =>
    intro hlacks handle hplace hlong
    refine h.ends (fun answer after events => (answer, after, events) = _)
      (createObject_ends h.idle h.own (fun hno => ?_) (fun _ error hfull => ?_)
        (fun _ _ _ _ _ => ?_) fun _ found blob hfree hserialised => ?_)
    · exact absurd (Template.isComplete_eq_false.mp hno) hlacks
    · rw [hplace.free] at hfull
      cases hfull
    · rw [h.concluding_error]
    · have hfits := (of_serialise_eq_ok (by decide) hserialised).1
      rw [List.flatten_singleton] at hfits
      exact absurd hfits (Nat.not_le.mpr hlong)
  case created =>
    intro hlacks handle hplace
    refine h.ends (fun answer _ events =>
        (∀ exchange ∈ events.filterMap KmsEvent.nvm?, NvmExchange.isSuccess exchange = true) →
          template.template.objectLength ≤ 512 → answer = ⟨.ok, .object (some handle)⟩)
      (createObject_ends h.idle h.own (fun hno => ?_) (fun _ error hfull => ?_)
        (fun _ found error _ hserialised => ?_) fun _ found blob hfree hserialised => ?_)
    · exact absurd (Template.isComplete_eq_false.mp hno) hlacks
    · rw [hplace.free] at hfull
      cases hfull
    · intro _ hfits
      have hall : Template.objectLength [template.template].flatten ≤ Limits.objectLength := by
        rwa [List.flatten_singleton]
      obtain ⟨blob, -, hok, -⟩ := @serialise_of_fits _ found _ (by decide) hall
      rw [hok] at hserialised
      cases hserialised
    · intro outcome hall _
      obtain rfl : found = handle := Except.ok.inj (hfree.symm.trans hplace.free)
      simp only [filterMap_nvm] at hall
      have hstored := (insert_serialised hsound hvalid hfree hserialised).1 hplace.room hall
      simp only [outcome, hstored, h.request_eq]
      rfl
  case readBack =>
    intro handle hanswer hsensitive read reader values hread hroom
    obtain ⟨view, hget, hattributes⟩ := h.found hsound hvalid hanswer
    have hrun : (serve read.request).run (kms.next create) =
        ⟨.ok (serveQueries view values.queries), kms.next create, []⟩ := by
      rw [hread.request_eq]
      have hreadable := (ObjectView.isExtractable_of_attributes hattributes).mpr hsensitive
      exact (run_getAttributeValue hread.idle hread.unlatched hget).trans (by rw [if_pos hreadable])
    rw [dispatch_of_admitted hread.accepted.admitted, hrun,
      ObjectView.serveQueries_of_attributes hattributes hroom]
    rfl

/-- In every run, an object that the enclave creates from a template is stored exactly if it fits,
and then reads back as the template said. -/
theorem created_object_reads_back {config : KmsConfig} {crypto : C} {token : T} {nvm : N}
    {start : Kms C T N} (hnew : Kms.new config crypto token nvm = .ok start) (calls : List Call)
    (hcreate : (start.after calls).MayCreate create session template object) :
    (start.after calls).CreatesFrom create template.template :=
  hcreate.createsFrom (isSound_after hnew calls).store (new_eq_ok hnew).1

/-- A volatile data object with two labels: the first one is read back, and of an attribute that the
template did not have nothing is learnt. -/
theorem labelled_object_reads_back :
    let start : Kms NoCrypto NoExternalToken NoNvm := plain .standard .mk .mk .mk
    let kms := start.after [⟨FunctionId.initialise.word, .initialise⟩,
      ⟨FunctionId.openSession.word, .openSession 1 SessionFlags.serialSession none 0⟩]
    let create : Call := ⟨FunctionId.createObject.word, .createObject 1 (templateOf
      [(AttributeKind.objectClass, [0, 0, 0, 0]), (AttributeKind.label, [97, 98]),
        (AttributeKind.keyType, [3, 0, 0, 0]), (AttributeKind.label, [99])]) 0⟩
    let read : Call := ⟨FunctionId.getAttributeValue.word, .getAttributeValue 1 50 ⟨0,
      [⟨AttributeKind.label, some ⟨0, 2⟩, none⟩, ⟨AttributeKind.value, some ⟨0, 9⟩, none⟩]⟩⟩
    kms.answerTo create = ⟨.ok, .object (some 50)⟩ ∧
      (kms.next create).answerTo read =
        ⟨.attributeTypeInvalid, .values [⟨some 2, [97, 98]⟩, ⟨none, []⟩]⟩ := by
  intro start kms create read
  have hvalid : ObjectLayout.standard.validate = .ok () := by decide
  have hcreate : kms.MayCreate create 1 _ 0 := {
    request_eq := rfl
    accepted := ⟨by decide +kernel, by decide +kernel⟩
    idle := exists_idle_of_get? (by decide +kernel) (by decide +kernel)
    own := rfl }
  have hcreates := created_object_reads_back (new_plain hvalid NoCrypto.mk NoExternalToken.mk
    NoNvm.mk) _ hcreate
  have hanswer := hcreates.created (by decide +kernel) 50 ⟨by decide +kernel, by decide +kernel⟩
    (by decide +kernel) (by decide +kernel)
  have hread : (kms.next create).MayRead read 1 50 _ := {
    request_eq := rfl
    accepted := ⟨by decide +kernel, by decide +kernel⟩
    idle := exists_idle_of_get? (by decide +kernel) (by decide +kernel)
    unlatched := by decide +kernel }
  refine ⟨hanswer, congrArg Prod.fst (hcreates.readBack 50 hanswer ?_ read 1 _ hread ?_)⟩
  · rintro ⟨rest, hrest⟩
    cases hrest
  · intro query hquery value hvalue
    rcases List.mem_cons.mp hquery with rfl | hquery
    · exact ⟨2, rfl, by cases hvalue; decide⟩
    · rw [List.mem_singleton.mp hquery] at hvalue
      cases hvalue

end Kms

end KeyEnclave
