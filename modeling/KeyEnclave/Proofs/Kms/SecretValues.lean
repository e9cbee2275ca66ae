import KeyEnclave.Proofs.Kms.Lifecycle
import KeyEnclave.Proofs.Kms.Searching
import KeyEnclave.Proofs.Store.SecretValues

/-!
# Values that may not be read

Attributes are read and objects are searched for in two services that are the same but for the value
of an object that is not extractable. Both answer alike, unless a search has the value itself in its
template: matching compares every attribute, so such a search says whether the value was guessed.

## Main definitions

* `Kms.SameButValue` — two services are the same but for the value of one such object.
* `Kms.Guesses` — a template guesses the value of an object, and is right.
* `Request.isInspection` — attributes are read, or objects are searched for.

## Main results

* `Kms.secret_value_is_hidden` — all inspections of a run are answered alike.
* `Kms.right_guess_is_told` — unless one of them searches for the value itself.
-/

namespace KeyEnclave

open KeyEnclave.Action

/-- Whether a request reads attributes of an object, or belongs to a search. -/
def Request.isInspection : Request → Bool
  | .getAttributeValue .. => true
  | request => request.isSearch

namespace Kms

variable {C N : Type} {handle : ObjectHandle} {kms kms' : Kms C NoExternalToken N}

/-- Two services are the same but for the value of the object with the handle, which is not
extractable. Their providers, and what is in storage, may differ in any way. -/
structure SameButValue (handle : ObjectHandle) (kms kms' : Kms C NoExternalToken N) : Prop where
  latches_eq : kms'.latches = kms.latches
  sessions_eq : kms'.sessions = kms.sessions
  store : kms.store.SameButValue handle kms'.store

/-- A template has the value of an object among its attributes, and all of them are the object's. -/
def Guesses (kms : Kms C NoExternalToken N) (handle : ObjectHandle) (template : Template) : Prop :=
  (∃ wanted ∈ template, wanted.kind = AttributeKind.value) ∧
    ∃ object, kms.lookup handle = some object ∧ object.Matches template

instance (template : Template) : Decidable (kms.Guesses handle template) :=
  decidable_of_iff ((∃ wanted ∈ template, wanted.kind = AttributeKind.value) ∧
      (kms.lookup handle).any fun object => decide (object.Matches template))
    (by simp [Guesses, Option.any_eq_true])

namespace SameButValue

section Reads

variable (h : kms.SameButValue handle kms')

include h

theorem layout_eq : kms'.layout = kms.layout := h.store.layout_eq

theorem requireSession_eq (session : SessionHandle) :
    kms'.requireSession session = kms.requireSession session := by
  unfold requireSession requireUp
  rw [h.sessions_eq]

theorem admitted_eq (word : UInt32) (request : Request) :
    kms'.admitted word request = kms.admitted word request := by
  unfold admitted
  rw [h.latches_eq]

/-- The objects that are seen are the same, or are the ones that hide their value. -/
theorem lookup (other : ObjectHandle) :
    Option.Rel (fun view view' => view' = view ∨ other = handle ∧ view.HidesValue view')
      (kms.lookup other) (kms'.lookup other) := by
  unfold Kms.lookup
  rw [h.latches_eq]
  cases kms.latches.isKeyLocked other with
  | true => exact .none
  | false => exact h.store.get? other

/-- A search finds the same, unless its template guesses the value in only one of the two. -/
theorem matching_eq {template : Template}
    (hguess : kms'.Guesses handle template ↔ kms.Guesses handle template) :
    kms'.matching template = kms.matching template := by
  unfold matching
  rw [h.store.handles_eq]
  refine List.filter_congr fun other _ => ?_
  have hfound := h.lookup other
  generalize hx : kms.lookup other = x, hx' : kms'.lookup other = x' at hfound ⊢
  cases hfound with
  | none => rfl
  | @some view view' hrelated =>
    rcases hrelated with rfl | ⟨rfl, hhides⟩
    · rfl
    · refine decide_eq_decide.mpr ?_
      by_cases hnamed : ∃ wanted ∈ template, wanted.kind = AttributeKind.value
      · simpa [Guesses, hnamed, hx, hx'] using hguess
      · exact hhides.matches_iff fun wanted hmem hkind => hnamed ⟨wanted, hmem, hkind⟩

end Reads

/-- Two services came by the same sessions, and nothing else. -/
def MovedAlike (kms kms' after after' : Kms C NoExternalToken N) : Prop :=
  ∃ table, after = { kms with sessions := table } ∧ after' = { kms' with sessions := table }

theorem movedAlike (h : kms.SameButValue handle kms') : MovedAlike kms kms' kms kms' :=
  ⟨kms.sessions, rfl, by rw [← h.sessions_eq]⟩

theorem of_movedAlike (h : kms.SameButValue handle kms')
    {after after' : Kms C NoExternalToken N} (hmoved : MovedAlike kms kms' after after') :
    after.SameButValue handle after' := by
  obtain ⟨table, rfl, rfl⟩ := hmoved
  exact ⟨h.latches_eq, rfl, h.store⟩

theorem getAttributeValue (h : kms.SameButValue handle kms') (session : SessionHandle)
    (object : ObjectHandle) (queries : List AttributeQuery) :
    EndsAlike (Kms.getAttributeValue session object queries)
      (Kms.getAttributeValue session object queries) kms kms' (MovedAlike kms kms') := by
  refine .bind_get ?_
  rw [h.requireSession_eq, h.latches_eq, h.layout_eq, tokenSession_of_lacks rfl,
    tokenSession_of_lacks rfl]
  refine .bind_ofExcept h.movedAlike fun record _ => .failing h.movedAlike fun _ => ?_
  refine .ite (fun _ => .bind_ofExcept h.movedAlike fun _ h => nomatch h) fun _ => ?_
  refine .bind_ofExcept h.movedAlike fun _ _ => ?_
  have hfound := h.lookup object
  generalize kms.lookup object = x, kms'.lookup object = x' at hfound ⊢
  cases hfound with
  | none => exact .throw h.movedAlike
  | @some view view' hrelated =>
    rcases hrelated with rfl | ⟨-, hhides⟩
    · exact .ite (fun _ => .pure h.movedAlike) fun _ => .pure h.movedAlike
    · -- neither of the two objects is extractable
      simp only [hhides.hidden, hhides.hidden', Bool.not_false, if_true]
      exact .pure h.movedAlike

theorem findObjectsInit (h : kms.SameButValue handle kms') (session : SessionHandle)
    {template : Template} (hguess : kms'.Guesses handle template ↔ kms.Guesses handle template) :
    EndsAlike (Kms.findObjectsInit session template) (Kms.findObjectsInit session template) kms kms'
      (MovedAlike kms kms') := by
  refine .bind_get ?_
  rw [h.requireSession_eq, tokenSession_of_lacks rfl, tokenSession_of_lacks rfl,
    h.matching_eq hguess]
  refine .bind_ofExcept h.movedAlike fun record hsession => ?_
  refine .bind_ofExcept h.movedAlike fun _ _ => ?_
  have hbegun : kms.sessions.startSearch session (kms.matching template) = .ok _ :=
    SessionTable.update_eq_put _ (requireSession_eq_ok.mp hsession).2
  exact .bind_run (run_updateSessions hbegun) (run_updateSessions (by rw [h.sessions_eq, hbegun]))
    (.pure ⟨_, rfl, rfl⟩)

theorem findObjects (h : kms.SameButValue handle kms') (session : SessionHandle) (capacity : Nat) :
    EndsAlike (Kms.findObjects session capacity) (Kms.findObjects session capacity) kms kms'
      (MovedAlike kms kms') := by
  refine .bind_get ?_
  rw [h.requireSession_eq, tokenSession_of_lacks rfl, tokenSession_of_lacks rfl, h.sessions_eq]
  refine .bind_ofExcept h.movedAlike fun record _ => .failing h.movedAlike fun _ => ?_
  exact .bind_ofExcept h.movedAlike fun turned _ => .bind_set (.pure ⟨_, rfl, rfl⟩)

theorem findObjectsFinal (h : kms.SameButValue handle kms') (session : SessionHandle) :
    EndsAlike (Kms.findObjectsFinal session) (Kms.findObjectsFinal session) kms kms'
      (MovedAlike kms kms') := by
  refine .bind_get ?_
  rw [h.requireSession_eq, tokenSession_of_lacks rfl, tokenSession_of_lacks rfl]
  refine .bind_ofExcept h.movedAlike fun record _ => .failing h.movedAlike fun _ => ?_
  refine .bind_modify (.pure ⟨_, rfl, ?_⟩)
  rw [h.sessions_eq]

variable [CryptoProvider C] [NvmStorage N]

/-- An inspection is answered alike, if it does not guess the value in only one of the services. -/
theorem serve (h : kms.SameButValue handle kms') {request : Request}
    (hkind : request.isInspection = true)
    (hguess : ∀ session template, request = .findObjectsInit session template →
      (kms'.Guesses handle template.template ↔ kms.Guesses handle template.template)) :
    EndsAlike (Kms.serve request) (Kms.serve request) kms kms' (MovedAlike kms kms') := by
  cases request with
  | getAttributeValue session object values => exact h.getAttributeValue session object _
  | findObjectsInit session template =>
    exact .bind_pure (h.findObjectsInit session (hguess session template rfl))
  | findObjects session objects count => exact h.findObjects session _
  | findObjectsFinal session => exact .bind_pure (h.findObjectsFinal session)
  | _ => cases hkind

theorem next (h : kms.SameButValue handle kms') {call : Call}
    (hkind : call.request.isInspection = true)
    (hguess : ∀ session template, call.request = .findObjectsInit session template →
      (kms'.Guesses handle template.template ↔ kms.Guesses handle template.template)) :
    kms'.answerTo call = kms.answerTo call ∧ MovedAlike kms kms' (kms.next call) (kms'.next call) :=
  next_alike (h.admitted_eq call.word call.request) h.movedAlike fun _ => h.serve hkind hguess

end SameButValue

variable [CryptoProvider C] [NvmStorage N]

/-- Whatever attributes are read and whatever is searched for, the value of an object that is not
extractable has no influence on any answer, as long as each template that guesses the value is right
in both services or in neither. -/
theorem secret_value_is_hidden (hsame : kms.SameButValue handle kms') {calls : List Call}
    (hkind : ∀ call ∈ calls, call.request.isInspection = true)
    (hguess : ∀ call ∈ calls, ∀ session template, call.request = .findObjectsInit session template →
      (kms'.Guesses handle template.template ↔ kms.Guesses handle template.template)) :
    (kms'.history calls).map Served.answer = (kms.history calls).map Served.answer := by
  induction calls generalizing kms kms' with
  | nil => rfl
  | cons call calls ih =>
    rw [List.forall_mem_cons] at hkind hguess
    obtain ⟨hanswer, hmoved⟩ := hsame.next hkind.1 hguess.1
    have hrest := ih (hsame.of_movedAlike hmoved) hkind.2
      (fun later hmem session template hrequest => by
        -- the objects and the latches are still what they were
        obtain ⟨table, hafter, hafter'⟩ := hmoved
        rw [hafter, hafter']
        exact hguess.2 later hmem session template hrequest)
    show kms'.answerTo call :: _ = kms.answerTo call :: _
    rw [hanswer, hrest]

-- ═══════════════════════════════════════════════════════════════════════════
-- Two services with a secret each
-- ═══════════════════════════════════════════════════════════════════════════

/-- An object that is not extractable, with a value of one byte. -/
def secretBlob (value : UInt8) : Bytes :=
  (serialise Limits.objectLength 3
    [[⟨AttributeKind.extractable, [0]⟩, ⟨AttributeKind.value, [value]⟩]]).toOption.getD []

def secretConfig (value : UInt8) : KmsConfig where
  layout := .standard
  embedded := [secretBlob value]
  blobKeys := none

def secretStart (value : UInt8) : Kms NoCrypto NoExternalToken NoNvm :=
  ⟨.allOpen, .down, ObjectStore.new .standard [secretBlob value] default, default, default, none⟩

/-- The service with one session open. -/
def secretOpened (value : UInt8) : Kms NoCrypto NoExternalToken NoNvm :=
  (secretStart value).after [⟨FunctionId.initialise.word, .initialise⟩,
    ⟨FunctionId.openSession.word, .openSession 0 SessionFlags.serialSession none default⟩]

/-- The service comes up with its objects, and opens the lowest of the sessions. -/
theorem secretOpened_of_mem {value : UInt8} (hvalue : value ∈ [7, 9]) :
    secretOpened value = { secretStart value with
      sessions := (SessionTable.mk 1 .empty).put 1
        (Session.fresh 0 SessionFlags.serialSession none)
      store := (ObjectStore.load.run (secretStart value).store).state } := by
  let initialise : Call := ⟨FunctionId.initialise.word, .initialise⟩
  let opening : Call :=
    ⟨FunctionId.openSession.word, .openSession 0 SessionFlags.serialSession none default⟩
  have hanswered : ∀ value ∈ [7, 9], ((secretStart value).answerTo initialise).code = .ok ∧
      ((secretStart value).next initialise).answerTo opening = ⟨.ok, .session (some 1)⟩ ∧
      ((secretStart value).next initialise).eventsOf opening = [] ∧
      (ObjectStore.load.run (secretStart value).store).answer = .ok () := by decide +kernel
  obtain ⟨hinitialised, hopened, hsilent, hload⟩ := hanswered value hvalue
  have hup : (secretStart value).next initialise = { secretStart value with
      sessions := ⟨1, .empty⟩
      store := (ObjectStore.load.run (secretStart value).store).state } :=
    (initialise_of_loaded ⟨rfl, admitted_of_ok hinitialised⟩ rfl hload).2
  exact (next_of_openSession rfl hopened hsilent).trans (by rw [hup])

/-- With another value, the service is the same but for the embedded object. -/
theorem secretOpened_eq : secretOpened 9 =
    { secretOpened 7 with
      store := { (secretOpened 7).store with embedded := [secretBlob 9] } } := by
  have hload : (ObjectStore.load.run (secretStart 9).store).state =
      { (ObjectStore.load.run (secretStart 7).store).state with embedded := [secretBlob 9] } := by
    decide +kernel
  rw [secretOpened_of_mem (by decide), secretOpened_of_mem (by decide), hload]
  generalize (ObjectStore.load.run (secretStart 7).store).state = loaded
  rfl

/-- The object has its value and the attribute that forbids reading it. -/
theorem parse?_secretBlob {value : UInt8} (hvalue : value ∈ [7, 9]) :
    ∃ view, ObjectView.parse? (secretBlob value) = some view ∧ view.handle = 3 ∧
      view.attributes = [⟨AttributeKind.extractable, [0]⟩, ⟨AttributeKind.value, [value]⟩] := by
  have hparsed : ∀ value ∈ [7, 9], (ObjectView.parse? (secretBlob value)).map
      (fun view => (view.handle, view.attributes)) =
        some (3, [⟨AttributeKind.extractable, [0]⟩, ⟨AttributeKind.value, [value]⟩]) := by
    decide +kernel
  obtain ⟨view, hview, heq⟩ := Option.map_eq_some_iff.mp (hparsed value hvalue)
  exact ⟨view, hview, congrArg Prod.fst heq, congrArg Prod.snd heq⟩

theorem secretOpened_sameButValue : (secretOpened 7).SameButValue 3 (secretOpened 9) := by
  obtain ⟨view, hview, hhandle, hattributes⟩ := parse?_secretBlob (show 7 ∈ [7, 9] by decide)
  obtain ⟨view', hview', hhandle', hattributes'⟩ := parse?_secretBlob (show 9 ∈ [7, 9] by decide)
  have hhides : view.HidesValue view' := by
    refine ⟨?_, hhandle'.trans hhandle.symm, ?_⟩
    · unfold ObjectView.isExtractable ObjectView.flag? ObjectView.attribute?
      rw [hattributes]
      decide
    · rw [hattributes, hattributes']
      exact .cons ⟨rfl, fun _ => rfl⟩ (.cons ⟨rfl, fun h => absurd rfl h⟩ .nil)
  have hblob : IsBlobOf 3 (secretBlob 7) := by rw [IsBlobOf, hview, Option.map_some, hhandle]
  have hembedded : (secretOpened 7).store.embedded = [secretBlob 7] := by decide +kernel
  rw [secretOpened_eq]
  -- the rest of the service is the same, whatever it is
  generalize secretOpened 7 = opened at hembedded
  have hblobs : List.Forall₂ (fun blob blob' => blob' = blob ∨
      IsBlobOf 3 blob ∧ BlobHidesValue blob blob') opened.store.embedded [secretBlob 9] := by
    rw [hembedded]
    exact .cons (.inr ⟨hblob, view, view', hview, hview', hhides⟩) .nil
  exact ⟨rfl, rfl, rfl, hblobs, List.forall₂_same.mpr fun _ _ => .inl rfl,
    List.forall₂_same.mpr fun _ _ => .inl rfl⟩

/-- The value is asked for, and two searches are made for objects with other values. -/
theorem wrong_guess_tells_nothing :
    let search (value : UInt8) : Call := ⟨FunctionId.findObjectsInit.word,
      .findObjectsInit 1 (templateOf [(AttributeKind.value, [value])])⟩
    let calls : List Call := [⟨FunctionId.getAttributeValue.word, .getAttributeValue 1 3
        ⟨default, [⟨AttributeKind.value, some ⟨default, 8⟩, none⟩]⟩⟩,
      search 5, askPage 1 2, ⟨FunctionId.findObjectsFinal.word, .findObjectsFinal 1⟩,
      search 6, askPage 1 2]
    (secretOpened 7).SameButValue 3 (secretOpened 9) ∧
      (∀ call ∈ calls, call.request.isInspection = true) ∧
      ((secretOpened 9).history calls).map Served.answer =
        ((secretOpened 7).history calls).map Served.answer := by
  intro search calls
  have hkind : ∀ call ∈ calls, call.request.isInspection = true := by decide
  have hwrong : ∀ value ∈ [(5 : UInt8), 6],
      ((secretOpened 9).Guesses 3 [⟨AttributeKind.value, [value]⟩] ↔
        (secretOpened 7).Guesses 3 [⟨AttributeKind.value, [value]⟩]) := by decide +kernel
  refine ⟨secretOpened_sameButValue, hkind,
    secret_value_is_hidden secretOpened_sameButValue hkind ?_⟩
  simp only [calls, List.forall_mem_cons]
  refine ⟨nofun, ?_, nofun, nofun, ?_, nofun, List.forall_mem_nil _⟩
  · rintro _ _ ⟨⟩
    exact hwrong 5 (by decide)
  · rintro _ _ ⟨⟩
    exact hwrong 6 (by decide)

/-- A search for the value itself finds the object in one of two services that are the same but for
the value. -/
theorem right_guess_is_told :
    let calls : List Call := [⟨FunctionId.findObjectsInit.word,
      .findObjectsInit 1 (templateOf [(AttributeKind.value, [7])])⟩, askPage 1 2]
    (∀ value ∈ [7, 9], Kms.new (secretConfig value) NoCrypto.mk NoExternalToken.mk NoNvm.mk =
        .ok (secretStart value)) ∧
      secretBlob 9 = (secretBlob 7).set 40 9 ∧
      secretOpened 9 = { secretOpened 7 with
        store := { (secretOpened 7).store with embedded := [secretBlob 9] } } ∧
      (secretOpened 7).SameButValue 3 (secretOpened 9) ∧
      (∀ value ∈ [7, 9], ∀ record ∈ (secretOpened value).sessions.sessions.present,
        record.state ≠ .searching) ∧
      (∀ call ∈ calls, call.request.isInspection = true) ∧
      ((secretOpened 9).history calls).map Served.answer ≠
        ((secretOpened 7).history calls).map Served.answer := by
  intro calls
  have hnew (value : UInt8) (hvalid : (ObjectStore.new .standard [secretBlob value]
      NoNvm.mk).embeddedValid = true) : Kms.new (secretConfig value) NoCrypto.mk NoExternalToken.mk
        NoNvm.mk = .ok (secretStart value) := by
    simp only [Kms.new, secretConfig, hvalid]
    rfl
  refine ⟨?_, by decide +kernel, secretOpened_eq, secretOpened_sameButValue, by decide +kernel,
    by decide, by decide +kernel⟩
  simp only [List.forall_mem_cons]
  exact ⟨hnew 7 (by decide +kernel), hnew 9 (by decide +kernel), List.forall_mem_nil _⟩

end Kms

end KeyEnclave
