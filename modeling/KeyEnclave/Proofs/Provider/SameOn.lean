import KeyEnclave.Proofs.Provider.Operations
import KeyEnclave.Proofs.Session.Table
import KeyEnclave.Provider.Software

/-!
# Providers with some contexts in common

Two software providers that draw from the same source and have the same contexts for some sessions
can not be told apart by operations of these sessions.

## Main definitions

* `ProviderOp.IsOf` — an operation begins or goes on in a session.
* `SoftwareCrypto.SameOn` — two providers agree on the source and on the contexts of some sessions.

## Main results

* `SoftwareCrypto.SameOn.serve` — operations of these sessions are answered alike, and keep it.
* `SoftwareCrypto.SameOn.release` — a session whose context is dropped is one of them.
-/

namespace KeyEnclave

namespace ProviderOp

/-- An operation begins or goes on in a session. -/
def IsOf (op : ProviderOp) (session : SessionHandle) : Prop :=
  ∃ state, op.begins? = some (session, state) ∨ op.continues? = some (session, state)

theorem IsOf.eq {op : ProviderOp} {session other : SessionHandle} (h : op.IsOf session)
    (hother : op.IsOf other) : other = session := by
  obtain ⟨state, h⟩ := h
  obtain ⟨state', hother⟩ := hother
  cases op <;> rcases h with h | h <;> cases h <;> rcases hother with h | h <;> cases h <;> rfl

/-- Operations that are of no session. -/
theorem not_isOf {op : ProviderOp} (hbegins : op.begins? = none) (hcontinues : op.continues? = none)
    (session : SessionHandle) : ¬op.IsOf session := by
  rintro ⟨state, h | h⟩
  · rw [hbegins] at h
    cases h
  · rw [hcontinues] at h
    cases h

end ProviderOp

namespace SoftwareCrypto

variable {R : Type}

/-- Two providers draw from the same source, and have the same contexts for the sessions in `p`. -/
structure SameOn (p : SessionHandle → Prop) (crypto crypto' : SoftwareCrypto R) : Prop where
  rng_eq : crypto'.rng = crypto.rng
  get?_eq : ∀ session, p session →
    crypto'.operations.get? session = crypto.operations.get? session

namespace SameOn

variable {p q : SessionHandle → Prop} {crypto crypto' : SoftwareCrypto R} {session : SessionHandle}

theorem mono (h : SameOn p crypto crypto') (hq : ∀ session, q session → p session) :
    SameOn q crypto crypto' :=
  ⟨h.rng_eq, fun session hsession => h.get?_eq session (hq session hsession)⟩

theorem set (h : SameOn p crypto crypto') (session : SessionHandle) (entry : Option Operation) :
    SameOn p { crypto with operations := crypto.operations.set session entry }
      { crypto' with operations := crypto'.operations.set session entry } := by
  refine ⟨h.rng_eq, fun other hother => ?_⟩
  by_cases hindex : session.index?.isSome
  · show (crypto'.operations.set session entry).get? other =
      (crypto.operations.set session entry).get? other
    rw [PerSession.get?_set _ _ _ _ hindex, PerSession.get?_set _ _ _ _ hindex, h.get?_eq other hother]
  · -- a handle of no session has no entry to replace
    have hnone : session.index? = none := Option.not_isSome_iff_eq_none.mp hindex
    have hset (table : PerSession Operation) : table.set session entry = table := by
      rw [PerSession.set, hnone]
    simp only [hset]
    exact h.get?_eq other hother

theorem release (h : SameOn p crypto crypto') (session : SessionHandle) :
    SameOn (fun other => other = session ∨ p other) (crypto.release session)
      (crypto'.release session) := by
  refine ⟨h.rng_eq, fun other hother => ?_⟩
  show (crypto'.operations.set session none).get? other =
    (crypto.operations.set session none).get? other
  rw [PerSession.get?_set_none, PerSession.get?_set_none]
  by_cases heq : other = session
  · simp only [if_pos heq]
  · simp only [if_neg heq]
    exact h.get?_eq other (hother.resolve_left heq)

theorem context_eq (h : SameOn p crypto crypto') (hsession : p session) :
    crypto'.context session = crypto.context session := by
  unfold context
  rw [h.get?_eq session hsession]

theorem start (h : SameOn p crypto crypto') (hsession : p session)
    (made : Except ReturnCode Operation) :
    (crypto'.start session made).1 = (crypto.start session made).1 ∧
      SameOn p (crypto.start session made).2 (crypto'.start session made).2 := by
  cases made with
  | error code => exact ⟨rfl, h⟩
  | ok operation =>
    unfold SoftwareCrypto.start
    rw [h.get?_eq session hsession]
    cases session.index?.isNone with
    | true => exact ⟨rfl, h⟩
    | false =>
      cases crypto.operations.get? session with
      | none => exact ⟨rfl, h.set session (some operation)⟩
      | some found => exact ⟨rfl, h⟩

theorem oneShot (h : SameOn p crypto crypto') (hsession : p session) (room : Option Nat)
    (step : Operation → Delivery) :
    (crypto'.oneShot session room step).1 = (crypto.oneShot session room step).1 ∧
      SameOn p (crypto.oneShot session room step).2 (crypto'.oneShot session room step).2 := by
  unfold SoftwareCrypto.oneShot
  rw [h.context_eq hsession]
  cases crypto.context session with
  | error code => exact ⟨rfl, h⟩
  | ok operation =>
    refine ⟨rfl, ?_⟩
    by_cases houtlives : outlives (step operation).code room = true
    · simp only [if_pos houtlives]
      exact h
    · simp only [if_neg houtlives]
      exact (h.release session).mono fun _ => .inr

theorem digestUpdate (h : SameOn p crypto crypto') (hsession : p session) (data : Bytes) :
    (crypto'.digestUpdate session data).1 = (crypto.digestUpdate session data).1 ∧
      SameOn p (crypto.digestUpdate session data).2 (crypto'.digestUpdate session data).2 := by
  unfold SoftwareCrypto.digestUpdate
  rw [h.context_eq hsession]
  rcases crypto.context session with code | operation
  · exact ⟨rfl, h⟩
  · cases operation with
    | digest hasher => exact ⟨rfl, h.set session _⟩
    | _ => exact ⟨rfl, h⟩

theorem verify (h : SameOn p crypto crypto') (hsession : p session) (data signature : Bytes) :
    (crypto'.verify session data signature).1 = (crypto.verify session data signature).1 ∧
      SameOn p (crypto.verify session data signature).2
        (crypto'.verify session data signature).2 := by
  unfold SoftwareCrypto.verify
  rw [h.context_eq hsession]
  cases crypto.context session with
  | error code => exact ⟨rfl, h⟩
  | ok operation => exact ⟨rfl, (h.release session).mono fun _ => .inr⟩

variable [RandomSource R]

theorem generateKeyPair (h : SameOn p crypto crypto') (mechanism : Mechanism)
    (publicRoom privateRoom : Nat) :
    (crypto'.generateKeyPair mechanism publicRoom privateRoom).1 =
        (crypto.generateKeyPair mechanism publicRoom privateRoom).1 ∧
      SameOn p (crypto.generateKeyPair mechanism publicRoom privateRoom).2
        (crypto'.generateKeyPair mechanism publicRoom privateRoom).2 := by
  simp only [SoftwareCrypto.generateKeyPair, h.rng_eq]
  split
  · exact ⟨rfl, h⟩
  · split
    · exact ⟨rfl, h⟩
    · exact ⟨rfl, rfl, h.get?_eq⟩

/-- Operations of the sessions in `p` are answered alike. -/
theorem serve (h : SameOn p crypto crypto') {op : ProviderOp}
    (hop : ∀ session, op.IsOf session → p session) :
    (CryptoProvider.serve op crypto').1 = (CryptoProvider.serve op crypto).1 ∧
      SameOn p (CryptoProvider.serve op crypto).2 (CryptoProvider.serve op crypto').2 := by
  cases op with
  | encryptInit session | decryptInit session | digestInit session | signInit session
  | verifyInit session => exact h.start (hop session ⟨_, .inl rfl⟩) _
  | encrypt session | decrypt session | digest session | digestFinal session | sign session =>
    exact h.oneShot (hop session ⟨_, .inr rfl⟩) _ _
  | digestUpdate session data => exact h.digestUpdate (hop session ⟨_, .inr rfl⟩) data
  | verify session data signature => exact h.verify (hop session ⟨_, .inr rfl⟩) data signature
  | generateKeyPair mechanism publicRoom privateRoom =>
    exact h.generateKeyPair mechanism publicRoom privateRoom
  | release session => exact ⟨rfl, (h.release session).mono fun _ => .inr⟩
  | deriveKey | encryptUpdate | encryptFinal | decryptUpdate | decryptFinal => exact ⟨rfl, h⟩

end SameOn

end SoftwareCrypto

end KeyEnclave
