import KeyEnclave.Proofs.Kms.Contexts
import KeyEnclave.Proofs.Provider.Frame

/-!
# What a request leaves as it is

A request works with the session that it names. Of every other open session it leaves the record and
the context as they are, unless it brings the library down.

## Main definitions

* `Kms.EndsLibrary` — a call is the one that brings the library down for good.

## Main results

* `TableEffect.get?_other` — the records of sessions that are not named.
* `Kms.Effect.context_other` — and their contexts.
* `Kms.next_other` — both, for one call.
-/

namespace KeyEnclave

namespace TableEffect

variable {layout : ObjectLayout} {table after : SessionTable} {request : Request}
  {session other : SessionHandle}

/-- A request that names one session changes no other record. -/
theorem get?_of_named (h : TableEffect layout table request after)
    (hnamed : request.session? = some session) (hne : session ≠ other) :
    after.sessions.get? other = table.sessions.get? other := by
  cases h with
  | kept hsame => rw [hsame]
  | cameUp | wentDown | opened => cases hnamed
  | changed hnamed' hget =>
    obtain rfl := Option.some.inj (hnamed.symm.trans hnamed')
    rw [SessionTable.get?_put hget, if_neg hne.symm]
  | closed =>
    obtain rfl := Option.some.inj hnamed
    rw [SessionTable.get?_drop, if_neg hne.symm]

/-- A request that does not name an open session leaves its record as it is, unless the library comes
up or goes down. -/
theorem get?_other (h : TableEffect layout table request after) (hup : table.isUp = true)
    (hlast : request = .finalise → after.isUp = true) (hnamed : request.session? ≠ some other)
    {record : Session} (hget : table.sessions.get? other = some record) :
    after.sessions.get? other = some record := by
  cases h with
  | kept hsame => rw [hsame, hget]
  | cameUp hdown =>
    rw [hup] at hdown
    cases hdown
  | wentDown => exact absurd (hlast rfl) (by decide)
  | @opened slot flags notify address free external hfree =>
    -- the handle that is given out was free
    have hne : other ≠ free := by
      rintro rfl
      rw [PerSession.get?_firstFree? hfree] at hget
      cases hget
    rw [SessionTable.get?_put_of_index (PerSession.index?_isSome_of_firstFree? hfree), if_neg hne,
      hget]
  | @changed request named before after hnamed' hget' =>
    have hne : other ≠ named := by
      rintro rfl
      exact hnamed hnamed'
    rw [SessionTable.get?_put hget', if_neg hne, hget]
  | @closed named =>
    have hne : other ≠ named := by
      rintro rfl
      exact hnamed rfl
    rw [SessionTable.get?_drop, if_neg hne, hget]

end TableEffect

namespace Kms

variable {R T N : Type} [RandomSource R] {kms after : Kms (SoftwareCrypto R) T N}
  {request : Request} {events : List KmsEvent} {session other : SessionHandle}

/-- The step of an operation may end it, and then drops the context of its session only. -/
theorem context_concluded (hne : session ≠ other) (isEnded : Bool) :
    (kms.concluded session isEnded).crypto.operations.get? other =
      kms.crypto.operations.get? other := by
  cases isEnded with
  | true => exact PerSession.get?_set_other _ _ hne
  | false => rfl

omit [RandomSource R] in
theorem Begins.session?_eq {state : SessionState} {key : ObjectHandle} {op : ProviderOp}
    (h : kms.Begins request session state key op) : request.session? = some session := by
  cases h <;> rfl

variable [ExternalToken T] [NvmStorage N]

/-- A request leaves the contexts of sessions that it does not name as they are, unless it brings the
library down. -/
theorem Effect.context_other (h : kms.Effect request after events)
    (hlast : request = .finalise → after.sessions.isUp = true)
    (hnamed : request.session? ≠ some other) :
    after.crypto.operations.get? other = kms.crypto.operations.get? other := by
  have hne {named : SessionHandle} (hsession : request.session? = some named) : named ≠ other := by
    rintro rfl
    exact hnamed hsession
  cases h with
  | nothing | asked | beganOnToken | opened | openedOnToken | searchBegun | paged | searchEnded
  | stored | installed | latchedKeys | latchedServices => rfl
  | raised | cameUp | stayedDown | lowered => simp
  | wentDown => cases hlast rfl
  | closed hsession isTold =>
    show (SoftwareCrypto.release _ _).operations.get? other = _
    rw [told_crypto]
    exact PerSession.get?_set_other _ _ (hne rfl)
  | began hbegins | notBegun hbegins =>
    exact SoftwareCrypto.get?_serve (ProviderOp.not_touches ⟨_, .inl hbegins.begins?_eq⟩
      (hne hbegins.session?_eq)) kms.crypto
  | stepLatched hstep hsession => exact PerSession.get?_set_other _ _ (hne hsession)
  | stepped op hstep hsession =>
    have hof : op.IsOf _ := ⟨_, .inr (Request.continues?_of_step hstep hsession)⟩
    exact (context_concluded (hne hsession) _).trans
      (SoftwareCrypto.get?_serve (ProviderOp.not_touches hof (hne hsession)) kms.crypto)
  | steppedOnToken hstep hsession =>
    rw [context_concluded (hne hsession), told_crypto]
  | made hmakes =>
    refine SoftwareCrypto.get?_serve ?_ kms.crypto
    cases hmakes with
    | derived | pair =>
      rintro (hof | hrelease)
      · exact ProviderOp.not_isOf rfl rfl other hof
      · cases hrelease

/-- The call is the one that brings the library down for good. -/
def EndsLibrary (kms : Kms (SoftwareCrypto R) T N) (call : Call) : Prop :=
  call.request = .finalise ∧ (kms.next call).sessions.isUp = false

variable {layout : ObjectLayout} {embedded : List Bytes}

/-- A call leaves the record and the context of an open session that it does not name as they are,
unless it brings the library down. -/
theorem next_other (hvalid : layout.validate = .ok ()) (hsound : kms.IsSound layout embedded)
    {record : Session} (hget : kms.sessions.sessions.get? other = some record) {call : Call}
    (hnamed : call.request.session? ≠ some other) (hlast : ¬kms.EndsLibrary call) :
    (kms.next call).sessions.sessions.get? other = some record ∧
      (kms.next call).crypto.operations.get? other = kms.crypto.operations.get? other := by
  have heffect := kms.next_effect call
  have hup : kms.sessions.isUp = true := by
    refine eq_true_of_ne_false fun hdown => ?_
    rw [hsound.closed hdown] at hget
    cases hget
  have hstays (hfinalise : call.request = .finalise) : (kms.next call).sessions.isUp = true :=
    eq_true_of_ne_false fun hdown => hlast ⟨hfinalise, hdown⟩
  exact ⟨(heffect.onTable (hsound.classify_noKey hvalid)).get?_other hup hstays hnamed hget,
    heffect.context_other hstays hnamed⟩

end Kms

end KeyEnclave
