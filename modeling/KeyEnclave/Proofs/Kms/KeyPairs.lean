import KeyEnclave.Proofs.Kms.Creating
import KeyEnclave.Proofs.Kms.Independence
import KeyEnclave.Proofs.Store.SameShape

/-!
# Key pairs that are not kept

Two requests for a key pair draw different pairs, of the same lengths. If the halves of the first
pair are refused by the store, then so are those of the second, and in the end neither store shows
that there ever was a pair. What storage makes of the halves is left out of this, unless it does not
look at their bytes.

## Main definitions

* `Kms.Unwritten` — what was exchanged with storage does not depend on bytes.
* `Kms.StoresAlike` — what becomes of two objects of the same length.
* `Kms.Undisturbed` — a step leaves the store as it is.
* `Kms.storeBeside` — storing a private half beside the public one.

## Main results

* `Kms.storeObject_alike` — both objects are refused or both are kept.
* `Kms.generateKeyPair_alike` — a pair that is not kept is refused whatever it is.
-/

namespace KeyEnclave.Kms

open KeyEnclave.Action

variable {C R T N : Type}

/-- The material of a new key adds to its object by its length only. -/
theorem objectLength_keyParts {kind : AttributeKind} {value value' : Bytes}
    (hlength : value'.length = value.length) (template : Template) (objectClass : ObjectClass)
    (keyKind : KeyKind) :
    Template.objectLength (keyParts ⟨kind, value'⟩ template objectClass keyKind).flatten =
      Template.objectLength (keyParts ⟨kind, value⟩ template objectClass keyKind).flatten := by
  refine Template.objectLength_congr rfl fun asked => ?_
  by_cases hkind : kind = asked
  · simp [keyParts, Template.find?, hkind, hlength]
  · simp [keyParts, Template.find?, hkind]

-- ═══════════════════════════════════════════════════════════════════════════
-- One object
-- ═══════════════════════════════════════════════════════════════════════════

section One

variable {kms kms' : Kms C T N} {range : Provenance} {parts parts' : List Template}
  {layout : ObjectLayout} {embedded : List Bytes}

/-- The service with another state of storage. -/
def withNvm (kms : Kms C T N) (nvm : N) : Kms C T N :=
  { kms with store := { kms.store with nvm := nvm } }

/-- The service with one more object in RAM. -/
def holding (kms : Kms C T N) (object : StoredObject) : Kms C T N :=
  { kms with store := { kms.store with volatile := kms.store.volatile ++ [object] } }

variable [NvmStorage N]

/-- Storage was asked for nothing, or it refused what it was asked to keep whatever its bytes. -/
def Unwritten (N : Type) [NvmStorage N] (journal : List KmsEvent) : Prop :=
  journal.filterMap KmsEvent.nvm? = [] ∨
    NvmStorage.IsBlind N ∧
      ∀ exchange ∈ journal.filterMap KmsEvent.nvm?, NvmExchange.isSuccess exchange = false

instance [Decidable (NvmStorage.IsBlind N)] (journal : List KmsEvent) :
    Decidable (Unwritten N journal) :=
  inferInstanceAs (Decidable (_ ∨ _))

theorem Unwritten.not_written {journal : List KmsEvent} {exchange : NvmExchange}
    (h : Unwritten N journal) (hmem : .nvm exchange ∈ journal)
    (hsuccess : exchange.isSuccess = true) : False := by
  have hasked : exchange ∈ journal.filterMap KmsEvent.nvm? :=
    List.mem_filterMap.mpr ⟨_, hmem, rfl⟩
  rcases h with hunasked | ⟨-, hrefused⟩
  · rw [hunasked] at hasked
    cases hasked
  · rw [hrefused exchange hasked] at hsuccess
    cases hsuccess

theorem Unwritten.isBlind {journal : List KmsEvent} {exchange : NvmExchange}
    (h : Unwritten N journal) (hmem : .nvm exchange ∈ journal) : NvmStorage.IsBlind N := by
  rcases h with hunasked | ⟨hblind, -⟩
  · cases List.filterMap_eq_nil_iff.mp hunasked _ hmem
  · exact hblind

theorem Unwritten.of_append {before journal : List KmsEvent}
    (h : Unwritten N (before ++ journal)) : Unwritten N journal := by
  unfold Unwritten at h
  rw [List.filterMap_append] at h
  rcases h with hunasked | ⟨hblind, hrefused⟩
  · exact .inl (List.append_eq_nil_iff.mp hunasked).2
  · exact .inr ⟨hblind, fun exchange hmem => hrefused exchange (List.mem_append_right _ hmem)⟩

theorem run_storeObject_error {refusal : StoreError}
    (hfree : kms.store.freeHandle range = .error refusal) :
    (storeObject range parts : Step C T N ObjectHandle).run kms =
      ⟨.error refusal.code, kms, []⟩ := by
  show Ends (storeObject range parts) kms fun outcome => outcome = _
  refine Ends.bind_get ?_
  rw [hfree]
  rfl

theorem run_storeObject_tooLong {handle : ObjectHandle}
    (hfree : kms.store.freeHandle range = .ok handle)
    (hlong : Limits.objectLength < Template.objectLength parts.flatten) :
    (storeObject range parts : Step C T N ObjectHandle).run kms =
      ⟨.error .hostMemory, kms, []⟩ := by
  show Ends (storeObject range parts) kms fun outcome => outcome = _
  refine Ends.bind_get ?_
  rw [hfree]
  refine Ends.bind_pure ?_
  rw [serialise_of_not_fits (by decide) hlong]
  rfl

theorem run_storeObject {handle : ObjectHandle} {blob : Bytes}
    (hfree : kms.store.freeHandle range = .ok handle)
    (hblob : serialise Limits.objectLength handle parts = .ok blob) :
    (storeObject range parts : Step C T N ObjectHandle).run kms =
      (onStore (ObjectStore.insert blob)).run kms := by
  show Ends (storeObject range parts) kms fun outcome => outcome = _
  refine Ends.bind_get ?_
  rw [hfree]
  refine Ends.bind_pure ?_
  rw [hblob]
  rfl

theorem storeObject_keeps (range : Provenance) (parts : List Template)
    (hsound : kms.store.IsSound layout embedded) :
    (storeObject range parts).Ends kms fun outcome => outcome.state.store.IsSound layout embedded :=
  storeObject_ends fun _ _ _ hchanges => isSound_of_changes hchanges hsound

/-- What becomes of two objects of the same length, one in each of two services. -/
inductive StoresAlike (kms kms' : Kms C T N) :
    Outcome (Kms C T N) KmsEvent ReturnCode ObjectHandle →
      Outcome (Kms C T N) KmsEvent ReturnCode ObjectHandle → Prop
  /-- Storage takes the first. -/
  | written {outcome outcome' : Outcome (Kms C T N) KmsEvent ReturnCode ObjectHandle}
      {exchange : NvmExchange} (hmem : .nvm exchange ∈ outcome.journal)
      (hsuccess : exchange.isSuccess = true) : StoresAlike kms kms' outcome outcome'
  /-- The first is refused, and so is the second, unless storage was changed by that or looked at
  the bytes. -/
  | refused {outcome' : Outcome (Kms C T N) KmsEvent ReturnCode ObjectHandle} (code : ReturnCode)
      (nvm : N) (journal : List KmsEvent)
      (halike : nvm = kms.store.nvm → Unwritten N journal →
        ∃ journal', outcome' = ⟨.error code, kms', journal'⟩) :
      StoresAlike kms kms' ⟨.error code, kms.withNvm nvm, journal⟩ outcome'
  /-- Both are kept in RAM. -/
  | held (handle : ObjectHandle) (blob blob' : Bytes)
      (hclass : kms.store.layout.classify handle = .vmDynamic)
      (hnew : handle ∉ StoredObject.handles kms.store.volatile) :
      StoresAlike kms kms' ⟨.ok handle, kms.holding ⟨handle, blob⟩, []⟩
        ⟨.ok handle, kms'.holding ⟨handle, blob'⟩, []⟩

/-- Objects of the same length under a free handle. -/
theorem insert_alike (hvalid : layout.validate = .ok ())
    (hshape : kms.store.SameShape kms'.store) (hsound : kms.store.IsSound layout embedded)
    (hsound' : kms'.store.IsSound layout embedded) {handle : ObjectHandle} {blob blob' : Bytes}
    (hfree : kms.store.freeHandle range = .ok handle) (hlength : blob'.length = blob.length)
    (hobject : (⟨handle, blob⟩ : StoredObject).IsSound)
    (hobject' : (⟨handle, blob'⟩ : StoredObject).IsSound) :
    StoresAlike kms kms' ((onStore (ObjectStore.insert blob)).run kms)
      ((onStore (ObjectStore.insert blob')).run kms') := by
  have hfree' := (hshape.freeHandle_eq range).trans hfree
  obtain ⟨hwritable, hclass, hget⟩ := hsound.of_freeHandle hvalid hfree
  obtain ⟨-, -, hget'⟩ := hsound'.of_freeHandle hvalid hfree'
  have hnamed := ObjectStore.handleOf_eq_ok.mpr hobject.2
  have hnamed' := ObjectStore.handleOf_eq_ok.mpr hobject'.2
  by_cases hvolatile : range = .vmDynamic
  · subst hvolatile
    have hplaced := (congrArg (·.classify handle) hsound.layout_eq).trans hclass
    have hplaced' := (congrArg (·.classify handle) hsound'.layout_eq).trans hclass
    have hrun := ObjectStore.run_insert_volatile hplaced hget hnamed hobject.1
    have hrun' := ObjectStore.run_insert_volatile hplaced' hget' hnamed' hobject'.1
    rw [hshape.length_eq] at hrun'
    by_cases hroom : kms.store.volatile.length < Limits.volatileObjects
    · rw [if_pos hroom] at hrun hrun'
      rw [run_onStore hrun, run_onStore hrun']
      exact .held handle blob blob' hplaced (hsound.not_mem_volatile hclass hget)
    · rw [if_neg hroom] at hrun hrun'
      rw [run_onStore hrun, run_onStore hrun']
      exact .refused _ kms.store.nvm _ fun _ _ => ⟨_, rfl⟩
  · have hplace : layout.IsPersistent handle := by
      unfold ObjectLayout.IsPersistent
      rw [hclass]
      exact hwritable.elim .inl fun hdynamic => .inr (hdynamic.resolve_right hvolatile)
    have hrun := hsound.run_insert_cached hvalid hplace hget hnamed hobject.1
    have hrun' := hsound'.run_insert_cached hvalid hplace hget' hnamed' hobject'.1
    unfold ObjectStore.storedUnder at hrun hrun'
    by_cases hsuccess : (kms.store.nvmEvent (ObjectStore.writeOf ⟨handle, blob⟩)).isSuccess = true
    · rw [if_pos hsuccess] at hrun
      rw [run_onStore hrun]
      exact .written (List.mem_map_of_mem List.mem_cons_self) hsuccess
    · rw [if_neg hsuccess] at hrun
      rw [run_onStore hrun]
      refine .refused _ _ _ fun hkept hunwritten => ?_
      have hblind := hunwritten.isBlind (List.mem_map_of_mem List.mem_cons_self)
      obtain ⟨hfailed, hkept'⟩ := hshape.refuses hblind hlength (Bool.eq_false_iff.mpr hsuccess)
        (congrArg (fun nvm => { kms.store with nvm := nvm }) hkept)
      rw [if_neg (by rw [hfailed]; exact Bool.false_ne_true), hkept'] at hrun'
      exact ⟨_, run_onStore hrun'⟩

/-- Objects of the same length, in stores that have the same shape, are both refused or both kept in
RAM, unless storage takes the first. -/
theorem storeObject_alike (range : Provenance) (hvalid : layout.validate = .ok ())
    (hshape : kms.store.SameShape kms'.store) (hsound : kms.store.IsSound layout embedded)
    (hsound' : kms'.store.IsSound layout embedded)
    (hlength : Template.objectLength parts'.flatten = Template.objectLength parts.flatten) :
    StoresAlike kms kms' ((storeObject range parts).run kms)
      ((storeObject range parts').run kms') := by
  have hsame := hshape.freeHandle_eq range
  cases hfree : kms.store.freeHandle range with
  | error refusal =>
    rw [run_storeObject_error hfree, run_storeObject_error (hsame.trans hfree)]
    exact .refused _ kms.store.nvm _ fun _ _ => ⟨_, rfl⟩
  | ok handle =>
    by_cases hfits : Template.objectLength parts.flatten ≤ Limits.objectLength
    · obtain ⟨blob, view, hblob, hparse, hhandle, -, hblobLength⟩ :=
        @serialise_of_fits Limits.objectLength handle parts (by decide) hfits
      obtain ⟨blob', view', hblob', hparse', hhandle', -, hblobLength'⟩ :=
        @serialise_of_fits Limits.objectLength handle parts' (by decide) (hlength ▸ hfits)
      rw [run_storeObject hfree hblob, run_storeObject (hsame.trans hfree) hblob']
      refine insert_alike hvalid hshape hsound hsound' hfree ?_ ⟨?_, ?_⟩ ⟨?_, ?_⟩
      · rw [hblobLength', hblobLength, hlength]
      · exact hblobLength ▸ hfits
      · rw [hparse]
        exact congrArg some hhandle
      · exact hblobLength' ▸ hlength ▸ hfits
      · rw [hparse']
        exact congrArg some hhandle'
    · rw [Nat.not_le] at hfits
      rw [run_storeObject_tooLong hfree hfits,
        run_storeObject_tooLong (hsame.trans hfree) (hlength ▸ hfits)]
      exact .refused _ kms.store.nvm _ fun _ _ => ⟨_, rfl⟩

end One

-- ═══════════════════════════════════════════════════════════════════════════
-- Two objects
-- ═══════════════════════════════════════════════════════════════════════════

section Two

variable {kms kms' : Kms C T N} {publicRange privateRange : Provenance}
  {publicParts privateParts publicParts' privateParts' : List Template}
  {layout : ObjectLayout} {embedded : List Bytes}

variable [NvmStorage N]

/-- What was exchanged left the store as it was, and storage took nothing. -/
structure Undisturbed (kms after : Kms C T N) (journal : List KmsEvent) : Prop where
  store_eq : after.store = kms.store
  unwritten : Unwritten N journal

/-- What came before left the store as it was. -/
theorem Undisturbed.of_append {kms start after : Kms C T N} {before journal : List KmsEvent}
    (h : start.Undisturbed after (before ++ journal)) (hstore : kms.store = start.store) :
    kms.Undisturbed after journal :=
  ⟨h.store_eq.trans hstore.symm, h.unwritten.of_append⟩

/-- Store the other half of a pair; when it can not be stored, the public half is removed again. -/
def storeBeside (range : Provenance) (parts : List Template) (publicKey : ObjectHandle) :
    Step C T N Answer := do
  let privateKey ← Action.attempt (δ := ReturnCode) (storeObject range parts)
  match privateKey with
  | .ok privateKey => pure ⟨.ok, .keyPair (some (publicKey, privateKey))⟩
  | .error code =>
    let _ ← Action.attempt (δ := ReturnCode) (onStore (ObjectStore.remove publicKey))
    throw code

omit [NvmStorage N] in
theorem sameShape_holding (h : kms.store.SameShape kms'.store) (handle : ObjectHandle)
    (blob blob' : Bytes) :
    (kms.holding ⟨handle, blob⟩).store.SameShape (kms'.holding ⟨handle, blob'⟩).store := by
  constructor
  · show ({ kms'.store with volatile := _ } : ObjectStore N) = _
    rw [h.rest_eq]
    rfl
  · show StoredObject.handles (kms'.store.volatile ++ [⟨handle, blob'⟩]) =
      StoredObject.handles (kms.store.volatile ++ [⟨handle, blob⟩])
    unfold StoredObject.handles
    rw [List.map_append, List.map_append]
    exact congrArg (· ++ [handle]) h.handles_eq

/-- The object that was added last is removed again. -/
theorem run_remove_holding {handle : ObjectHandle} (blob : Bytes) (nvm : N)
    (hclass : kms.store.layout.classify handle = .vmDynamic)
    (hnew : handle ∉ StoredObject.handles kms.store.volatile) :
    (onStore (ObjectStore.remove handle) : Step C T N Unit).run
      ((kms.holding ⟨handle, blob⟩).withNvm nvm) = ⟨.ok (), kms.withNvm nvm, []⟩ := by
  have hmem : handle ∈ StoredObject.handles (kms.store.volatile ++ [⟨handle, blob⟩]) :=
    List.mem_map_of_mem (List.mem_append_right _ List.mem_cons_self)
  have hback : StoredObject.removeSwapping (kms.store.volatile ++ [⟨handle, blob⟩]) handle =
      kms.store.volatile := StoredObject.removeSwapping_append hnew
  have hrun := @ObjectStore.run_remove_volatile N ((kms.holding ⟨handle, blob⟩).withNvm nvm).store
    handle _ hclass hmem
  rw [run_onStore hrun]
  exact congrArg (fun volatile => (⟨.ok (), { kms with
    store := { kms.store with nvm := nvm, volatile := volatile } }, []⟩ : Outcome ..)) hback

/-- When the other half is refused, the public half is gone again. -/
theorem storeBeside_refused {range : Provenance} {parts : List Template} {handle : ObjectHandle}
    {blob : Bytes} {code : ReturnCode} {nvm : N} {journal : List KmsEvent}
    (hclass : kms.store.layout.classify handle = .vmDynamic)
    (hnew : handle ∉ StoredObject.handles kms.store.volatile)
    (hrun : (storeObject range parts).run (kms.holding ⟨handle, blob⟩) =
      ⟨.error code, (kms.holding ⟨handle, blob⟩).withNvm nvm, journal⟩) :
    (storeBeside range parts handle).Ends (kms.holding ⟨handle, blob⟩) fun outcome =>
      outcome.answer = .error code ∧ outcome.state = kms.withNvm nvm ∧
        outcome.journal = journal := by
  refine Ends.bind_attempt (Ends.of_run hrun (Ends.bind_attempt ?_))
  refine Ends.of_run (run_remove_holding blob nvm hclass hnew) (Ends.throw ⟨rfl, rfl, ?_⟩)
  exact List.append_nil journal

/-- Beside a public half in RAM, a private half that leaves the objects as they were before both is
refused, and so is every other of the same length. -/
theorem storeBeside_alike {range : Provenance} {parts parts' : List Template}
    {handle : ObjectHandle} {blob blob' : Bytes} (hvalid : layout.validate = .ok ())
    (hshape : kms.store.SameShape kms'.store)
    (hsound : (kms.holding ⟨handle, blob⟩).store.IsSound layout embedded)
    (hsound' : (kms'.holding ⟨handle, blob'⟩).store.IsSound layout embedded)
    (hclass : kms.store.layout.classify handle = .vmDynamic)
    (hnew : handle ∉ StoredObject.handles kms.store.volatile)
    (hlength : Template.objectLength parts'.flatten = Template.objectLength parts.flatten)
    (hquiet : (storeBeside range parts handle).Ends (kms.holding ⟨handle, blob⟩) fun outcome =>
      kms.Undisturbed outcome.state outcome.journal) :
    EndsAlike (storeBeside range parts handle) (storeBeside range parts' handle)
      (kms.holding ⟨handle, blob⟩) (kms'.holding ⟨handle, blob'⟩)
      fun after after' => after = kms ∧ after' = kms' := by
  have halike := storeObject_alike range hvalid
    (sameShape_holding hshape handle blob blob') hsound hsound' hlength
  generalize hrun : (storeObject range parts).run (kms.holding ⟨handle, blob⟩) = outcome at halike
  generalize hrun' : (storeObject range parts').run (kms'.holding ⟨handle, blob'⟩) = outcome'
    at halike
  cases halike with
  | written hmem hsuccess =>
    subst hrun
    exact (hquiet.unwritten.not_written (List.mem_append_left _ hmem) hsuccess).elim
  | refused code nvm journal halike =>
    obtain ⟨hanswer, hstate, hjournal⟩ := storeBeside_refused hclass hnew hrun
    have hstore := hquiet.store_eq
    have hunwritten := hquiet.unwritten
    rw [hstate] at hstore
    rw [hjournal] at hunwritten
    obtain rfl : nvm = kms.store.nvm := congrArg ObjectStore.nvm hstore
    obtain ⟨journal', rfl⟩ := halike rfl hunwritten
    obtain ⟨hanswer', hstate', -⟩ := @storeBeside_refused C T N kms' _ range parts' handle blob'
      code kms'.store.nvm journal' ((congrArg (·.classify handle) hshape.layout_eq).trans hclass)
      (hshape.handles_eq ▸ hnew) hrun'
    exact ⟨hanswer.trans hanswer'.symm, hstate, hstate'⟩
  | held other otherBlob otherBlob' =>
    -- two more objects in RAM would be a change
    have hstore := hquiet.store_eq
    have hstate : ((storeBeside range parts handle).run (kms.holding ⟨handle, blob⟩)).state =
        (kms.holding ⟨handle, blob⟩).holding ⟨other, otherBlob⟩ := by
      show ((storeBeside range parts handle).Ends (kms.holding ⟨handle, blob⟩) fun outcome =>
        outcome.state = _)
      exact Ends.bind_attempt (Ends.of_run hrun (Ends.pure rfl))
    rw [hstate] at hstore
    have hlength := congrArg (fun store => store.volatile.length) hstore
    simp [holding] at hlength

/-- A pair that leaves the objects as they are is refused, and so is every other of the same
lengths. -/
theorem storePair_alike (hvalid : layout.validate = .ok ())
    (hstore : kms'.store = kms.store) (hsound : kms.store.IsSound layout embedded)
    (hpublic : Template.objectLength publicParts'.flatten =
      Template.objectLength publicParts.flatten)
    (hprivate : Template.objectLength privateParts'.flatten =
      Template.objectLength privateParts.flatten)
    (hquiet : (storeObject publicRange publicParts >>= storeBeside privateRange privateParts).Ends
      kms fun outcome => kms.Undisturbed outcome.state outcome.journal) :
    EndsAlike (storeObject publicRange publicParts >>= storeBeside privateRange privateParts)
      (storeObject publicRange publicParts' >>= storeBeside privateRange privateParts') kms kms'
      fun after after' => after = kms ∧ after' = kms' := by
  have hshape := ObjectStore.SameShape.of_eq hstore
  have hsound' : kms'.store.IsSound layout embedded := hstore ▸ hsound
  have halike := storeObject_alike publicRange hvalid hshape hsound hsound' hpublic
  generalize hrun : (storeObject publicRange publicParts).run kms = outcome at halike
  generalize hrun' : (storeObject publicRange publicParts').run kms' = outcome' at halike
  cases halike with
  | written hmem hsuccess =>
    subst hrun
    exact (hquiet.unwritten.not_written (mem_journal_bind hmem) hsuccess).elim
  | refused code nvm journal halike =>
    rw [Ends, run_bind, hrun] at hquiet
    obtain rfl : nvm = kms.store.nvm := congrArg ObjectStore.nvm hquiet.store_eq
    obtain ⟨journal', rfl⟩ := halike rfl hquiet.unwritten
    exact .bind_failed hrun hrun' ⟨rfl, rfl⟩
  | held handle blob blob' hclass hnew =>
    rw [Ends, run_bind, hrun] at hquiet
    have hkept := storeObject_keeps publicRange publicParts hsound
    have hkept' := storeObject_keeps publicRange publicParts' hsound'
    rw [Ends, hrun] at hkept
    rw [Ends, hrun'] at hkept'
    exact .bind_run hrun hrun'
      (storeBeside_alike hvalid hshape hkept hkept' hclass hnew hprivate hquiet)

end Two

-- ═══════════════════════════════════════════════════════════════════════════
-- A request for a pair
-- ═══════════════════════════════════════════════════════════════════════════

section Pair

variable [NvmStorage N] [ExternalToken T] {session : SessionHandle}
  {mechanism : Option PlacedMechanism} {publicTemplate privateTemplate : Template}

/-- Where the enclave itself makes a pair, both halves are stored or neither. -/
theorem run_generateKeyPair [CryptoProvider C] {kms : Kms C T N} {given : Mechanism}
    {record : Session} {code : ReturnCode} {point scalar : Bytes}
    (hgiven : requireMechanism mechanism = .ok given)
    (hsession : kms.requireSession session = .ok record)
    (htoken : kms.tokenSession .generateKeyPair session = .error code)
    (hpair : kms.providerReply (.generateKeyPair given publicMaxLength privateMaxLength) =
      .ok (point, scalar)) :
    (generateKeyPair session mechanism publicTemplate privateTemplate).run kms =
      ((storeObject (targetRange kms.layout publicTemplate)
          (keyParts ⟨AttributeKind.ecPoint, point⟩ publicTemplate ObjectClass.publicKey
            KeyKind.ec) >>=
        storeBeside (targetRange kms.layout privateTemplate)
          (keyParts ⟨AttributeKind.value, scalar⟩ privateTemplate ObjectClass.privateKey
            KeyKind.ec)).run
        (kms.afterProvider (.generateKeyPair given publicMaxLength privateMaxLength))).after
        [kms.providerEvent (.generateKeyPair given publicMaxLength privateMaxLength)] := by
  show Ends (generateKeyPair session mechanism publicTemplate privateTemplate) kms
    fun outcome => outcome = _
  unfold generateKeyPair
  rw [hgiven]
  refine Ends.bind_pure (Ends.bind_get ?_)
  rw [hsession, htoken]
  refine Ends.bind_pure (bind_askProvider ?_)
  rw [hpair]
  exact Ends.bind_pure rfl

/-- A pair that is not kept is refused whatever it is, so a request for it ends alike. -/
theorem generateKeyPair_alike [RandomSource R] {kms kms' : Kms (SoftwareCrypto R) T N}
    {layout : ObjectLayout} {embedded : List Bytes} (h : kms.SameFor session kms')
    (hvalid : layout.validate = .ok ()) (hsound : kms.store.IsSound layout embedded)
    (hquiet : (generateKeyPair session mechanism publicTemplate privateTemplate).Ends kms
      fun outcome => kms.Undisturbed outcome.state outcome.journal) :
    EndsAlike (generateKeyPair session mechanism publicTemplate privateTemplate)
      (generateKeyPair session mechanism publicTemplate privateTemplate) kms kms'
      (SameFor session) := by
  refine .bind_ofExcept h fun given hgiven => .bind_get ?_
  rw [h.requireSession_eq, h.layout_eq, h.tokenSession_eq]
  refine .bind_ofExcept h fun record hsession => ?_
  cases htoken : kms.tokenSession .generateKeyPair session with
  | ok external =>
    exact .bind_kept (h.askToken _) fun _ _ _ h => .bind_ofExcept h fun _ _ => .pure h
  | error code =>
    have hmade := h.afterUntouched (.generateKeyPair given publicMaxLength privateMaxLength) (by
        rintro (hof | hrelease)
        · exact ProviderOp.not_isOf rfl rfl session hof
        · cases hrelease)
    refine .bind_run rfl rfl ?_
    show EndsAlike
      (Action.ofExcept (kms.crypto.generateKeyPair given publicMaxLength privateMaxLength).1 >>= _)
      (Action.ofExcept (kms'.crypto.generateKeyPair given publicMaxLength privateMaxLength).1 >>= _)
      _ _ _
    by_cases hkind : given.kind = MechanismKind.ecKeyPairGen
    · have hroom : ObjectView.pointLength ≤ publicMaxLength ∧
          P256.elementLength ≤ privateMaxLength := by decide
      obtain ⟨point, scalar, hpoint, hscalar, hpair⟩ :=
        SoftwareCrypto.generateKeyPair_of_room kms.crypto hkind hroom
      obtain ⟨point', scalar', hpoint', hscalar', hpair'⟩ :=
        SoftwareCrypto.generateKeyPair_of_room kms'.crypto hkind hroom
      rw [Ends, run_generateKeyPair hgiven hsession htoken (congrArg Prod.fst hpair)] at hquiet
      have hstored : (kms.afterProvider (.generateKeyPair given publicMaxLength
          privateMaxLength)).Undisturbed _ _ := hquiet.of_append rfl
      obtain ⟨hanswer, hstate, hstate'⟩ := storePair_alike hvalid hmade.store_eq hsound
        (objectLength_keyParts (hpoint'.trans hpoint.symm) _ _ _)
        (objectLength_keyParts (hscalar'.trans hscalar.symm) _ _ _) hstored
      rw [hpair, hpair']
      refine ⟨hanswer, ?_⟩
      rw [← hstate, ← hstate'] at hmade
      exact hmade
    · rw [SoftwareCrypto.generateKeyPair_of_ne hkind, SoftwareCrypto.generateKeyPair_of_ne hkind]
      exact ⟨rfl, hmade⟩

end Pair

end KeyEnclave.Kms
