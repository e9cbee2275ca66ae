import KeyEnclave.Proofs.Provider.Contexts
import KeyEnclave.Proofs.Provider.SameOn

/-!
# What an operation of a session reads and writes

An operation of the software provider in a session is a function of the context of that session: it
neither reads nor changes the other contexts, nor the source of random keys. Only a new key pair is
drawn from the source.

## Main definitions

* `ProviderOp.Touches` — an operation works with the context of a session.
* `SoftwareCrypto.IsLocal` — what is done to the provider is done to one context.

## Main results

* `SoftwareCrypto.isLocal_serve` — an operation works with the context of its session only.
* `SoftwareCrypto.get?_serve` — every other context is as it was.
* `SoftwareCrypto.generateKeyPair_of_room` — a key pair of the known lengths.
-/

namespace KeyEnclave

/-- An operation works with the context of a session: it begins or goes on there, or drops it. -/
def ProviderOp.Touches (op : ProviderOp) (session : SessionHandle) : Prop :=
  op.IsOf session ∨ op = .release session

theorem ProviderOp.not_touches {op : ProviderOp} {session other : SessionHandle}
    (hof : op.IsOf session) (hne : session ≠ other) : ¬op.Touches other := by
  rintro (hother | rfl)
  · exact hne (hother.eq hof)
  · exact not_isOf rfl rfl session hof

namespace SoftwareCrypto

variable {R α : Type} {session other : SessionHandle}

-- ═══════════════════════════════════════════════════════════════════════════
-- Contexts
-- ═══════════════════════════════════════════════════════════════════════════

/-- What is done to a provider, and what it answers, depends on the context of one session, and is
done to that context only. -/
def IsLocal (session : SessionHandle) (f : SoftwareCrypto R → α × SoftwareCrypto R) : Prop :=
  ∃ step : Option Operation → α × Option Operation, ∀ crypto,
    f crypto = ((step (crypto.operations.get? session)).1, { crypto with
      operations := crypto.operations.set session (step (crypto.operations.get? session)).2 })

theorem with_get? (crypto : SoftwareCrypto R) (session : SessionHandle) :
    { crypto with operations := crypto.operations.set session (crypto.operations.get? session) } =
      crypto := by
  rw [PerSession.set_get?]

namespace IsLocal

variable {f : SoftwareCrypto R → α × SoftwareCrypto R} {crypto crypto' : SoftwareCrypto R}

theorem get?_other (h : IsLocal session f) (hne : session ≠ other) (crypto : SoftwareCrypto R) :
    (f crypto).2.operations.get? other = crypto.operations.get? other := by
  obtain ⟨step, hstep⟩ := h
  rw [hstep]
  exact PerSession.get?_set_other _ _ hne

/-- Providers with the same context answer alike and are left with the same context. -/
theorem alike (h : IsLocal session f)
    (hsame : crypto'.operations.get? session = crypto.operations.get? session) :
    (f crypto').1 = (f crypto).1 ∧
      (f crypto').2.operations.get? session = (f crypto).2.operations.get? session := by
  obtain ⟨step, hstep⟩ := h
  rw [hstep, hstep, hsame]
  refine ⟨rfl, ?_⟩
  show (crypto'.operations.set session _).get? session = (crypto.operations.set session _).get? session
  cases hindex : session.index? with
  | some i =>
    have hsome : session.index?.isSome := by rw [hindex]; rfl
    rw [PerSession.get?_set_self _ _ _ hsome, PerSession.get?_set_self _ _ _ hsome]
  | none =>
    -- a handle of no session has no entry to replace
    simp only [PerSession.set, hindex]
    exact hsame

end IsLocal

/-- The answer to a begun operation, and the context of the session from then on. -/
def startedContext (session : SessionHandle) :
    Except ReturnCode Operation → Option Operation → ReturnCode × Option Operation
  | .error code, context => (code, context)
  | .ok operation, none =>
    if session.index?.isNone then (.sessionHandleInvalid, none) else (.ok, some operation)
  | .ok _, some found =>
    (if session.index?.isNone then .sessionHandleInvalid else .operationActive, some found)

/-- What is done to a context, if there is one. -/
def overContext (session : SessionHandle) (failed : ReturnCode → α)
    (step : Operation → α × Option Operation) : Option Operation → α × Option Operation
  | some operation =>
    if session.index?.isNone then (failed .sessionHandleInvalid, some operation) else step operation
  | none =>
    (failed (if session.index?.isNone then .sessionHandleInvalid else .operationNotInitialised), none)

/-- The answer to more data of a digest, and the context of the session from then on. -/
def fedContext (data : Bytes) : Operation → ReturnCode × Option Operation
  | .digest hasher => (.ok, some (.digest (hasher.update data)))
  | operation => (.operationNotInitialised, some operation)

theorem isLocal_start (session : SessionHandle) (made : Except ReturnCode Operation) :
    IsLocal session fun crypto : SoftwareCrypto R => crypto.start session made := by
  refine ⟨startedContext session made, fun crypto => ?_⟩
  have hkept := crypto.with_get? session
  cases made with
  | error code => exact congrArg (Prod.mk code) hkept.symm
  | ok operation =>
    cases hget : crypto.operations.get? session with
    | none =>
      rw [hget] at hkept
      simp only [start, startedContext, hget]
      split
      · exact congrArg (Prod.mk _) hkept.symm
      · rfl
    | some found =>
      rw [hget] at hkept
      simp only [start, startedContext, hget]
      split <;> exact congrArg (Prod.mk _) hkept.symm

/-- What goes on with the context of a session, and does nothing but fail if there is none. -/
theorem isLocal_of_context {f : SoftwareCrypto R → α × SoftwareCrypto R} (failed : ReturnCode → α)
    (step : Operation → α × Option Operation)
    (herror : ∀ crypto code, crypto.context session = .error code → f crypto = (failed code, crypto))
    (hok : ∀ crypto operation, crypto.operations.get? session = some operation →
      f crypto = ((step operation).1, { crypto with
        operations := crypto.operations.set session (step operation).2 })) :
    IsLocal session f := by
  refine ⟨overContext session failed step, fun crypto => ?_⟩
  have hkept := crypto.with_get? session
  have herror := herror crypto
  unfold context at herror
  cases hindex : session.index? with
  | none =>
    rw [hindex] at herror
    rw [herror _ rfl]
    cases hget : crypto.operations.get? session with
    | none | some found =>
      rw [hget] at hkept
      simp only [overContext, hindex, Option.isNone_none, if_pos, hkept]
  | some i =>
    rw [hindex] at herror
    cases hget : crypto.operations.get? session with
    | none =>
      rw [hget] at herror hkept
      rw [herror _ rfl]
      simp only [overContext, hindex, Option.isNone_some, Bool.false_eq_true, if_false, hkept]
    | some operation =>
      rw [hok crypto operation hget]
      simp only [overContext, hindex, Option.isNone_some, Bool.false_eq_true, if_false]

theorem isLocal_oneShot (session : SessionHandle) (room : Option Nat)
    (step : Operation → Delivery) :
    IsLocal session fun crypto : SoftwareCrypto R => crypto.oneShot session room step := by
  refine isLocal_of_context .refused (fun operation => (step operation,
    if outlives (step operation).code room then some operation else none))
    (fun crypto code hcontext => ?_) fun crypto operation hget => ?_
  · simp only [oneShot, hcontext]
  · have hkept := crypto.with_get? session
    rw [hget] at hkept
    simp only [oneShot, context_eq_ok hget]
    split
    · rw [hkept]
    · rfl

theorem isLocal_digestUpdate (session : SessionHandle) (data : Bytes) :
    IsLocal session fun crypto : SoftwareCrypto R => crypto.digestUpdate session data := by
  refine isLocal_of_context id (fedContext data) (fun crypto code hcontext => ?_)
    fun crypto operation hget => ?_
  · simp only [digestUpdate, hcontext]
    rfl
  · have hkept := crypto.with_get? session
    rw [hget] at hkept
    simp only [digestUpdate, context_eq_ok hget]
    cases operation with
    | digest hasher => rfl
    | _ => exact congrArg (Prod.mk _) hkept.symm

theorem isLocal_verify (session : SessionHandle) (data signature : Bytes) :
    IsLocal session fun crypto : SoftwareCrypto R => crypto.verify session data signature := by
  refine isLocal_of_context id (fun operation => (verifyStep operation data signature, none))
    (fun crypto code hcontext => ?_) fun crypto operation hget => ?_
  · simp only [verify, hcontext]
    rfl
  · simp only [verify, context_eq_ok hget]
    rfl

/-- What leaves every context as it is, and does not look at any, is local to each. -/
theorem isLocal_const (session : SessionHandle) (a : α) :
    IsLocal session fun crypto : SoftwareCrypto R => (a, crypto) :=
  ⟨fun context => (a, context), fun crypto => congrArg (Prod.mk a) (crypto.with_get? session).symm⟩

variable [RandomSource R] {op : ProviderOp} {crypto : SoftwareCrypto R}

/-- An operation of a session works with the context of that session only. -/
theorem isLocal_serve (h : op.Touches session) :
    IsLocal session fun crypto : SoftwareCrypto R => CryptoProvider.serve op crypto := by
  rcases h with hof | rfl
  · have hsame {of : SessionHandle} {state : SessionState}
        (hof' : op.begins? = some (of, state) ∨ op.continues? = some (of, state)) : session = of :=
      ProviderOp.IsOf.eq ⟨state, hof'⟩ hof
    cases op with
    | encryptInit | decryptInit | digestInit | signInit | verifyInit =>
      rw [hsame (.inl rfl)]
      exact isLocal_start _ _
    | encrypt | decrypt | digest | digestFinal | sign =>
      rw [hsame (.inr rfl)]
      exact isLocal_oneShot _ _ _
    | digestUpdate =>
      rw [hsame (.inr rfl)]
      exact isLocal_digestUpdate _ _
    | verify =>
      rw [hsame (.inr rfl)]
      exact isLocal_verify _ _ _
    | encryptUpdate | encryptFinal | decryptUpdate | decryptFinal => exact isLocal_const _ _
    | deriveKey | generateKeyPair | release =>
      exact absurd hof (ProviderOp.not_isOf rfl rfl session)
  · exact ⟨fun _ => ((), none), fun crypto => rfl⟩

/-- An operation that does not work with the context of a session leaves it as it is. -/
theorem get?_serve (h : ¬op.Touches other) (crypto : SoftwareCrypto R) :
    (CryptoProvider.serve op crypto).2.operations.get? other = crypto.operations.get? other := by
  have hlocal {session : SessionHandle} (htouches : op.Touches session) :
      (CryptoProvider.serve op crypto).2.operations.get? other = crypto.operations.get? other := by
    refine (isLocal_serve htouches).get?_other ?_ crypto
    rintro rfl
    exact h htouches
  cases op with
  | encryptInit | decryptInit | digestInit | signInit | verifyInit =>
    exact hlocal (.inl ⟨_, .inl rfl⟩)
  | encrypt | encryptUpdate | encryptFinal | decrypt | decryptUpdate | decryptFinal | digest
  | digestUpdate | digestFinal | sign | verify => exact hlocal (.inl ⟨_, .inr rfl⟩)
  | release => exact hlocal (.inr rfl)
  | deriveKey => rfl
  | generateKeyPair mechanism publicRoom privateRoom =>
    exact congrArg (·.get? other) (crypto.operations_generateKeyPair mechanism publicRoom privateRoom)

-- ═══════════════════════════════════════════════════════════════════════════
-- New key pairs
-- ═══════════════════════════════════════════════════════════════════════════

theorem generateKeyPair_of_ne {mechanism : Mechanism} {publicRoom privateRoom : Nat}
    (hkind : mechanism.kind ≠ MechanismKind.ecKeyPairGen) :
    crypto.generateKeyPair mechanism publicRoom privateRoom = (.error .mechanismInvalid, crypto) :=
  if_pos hkind

/-- Where there is room for it, a new pair is drawn whose halves have the known lengths. -/
theorem generateKeyPair_of_room (crypto : SoftwareCrypto R) {mechanism : Mechanism}
    {publicRoom privateRoom : Nat} (hkind : mechanism.kind = MechanismKind.ecKeyPairGen)
    (hroom : ObjectView.pointLength ≤ publicRoom ∧ P256.elementLength ≤ privateRoom) :
    ∃ point scalar : Bytes, point.length = ObjectView.pointLength ∧
      scalar.length = P256.elementLength ∧
      crypto.generateKeyPair mechanism publicRoom privateRoom =
        (.ok (point, scalar), { crypto with rng := (RandomSource.signingKey crypto.rng).2 }) := by
  let key := (RandomSource.signingKey crypto.rng).1
  refine ⟨key.point.toSec1, P256.elementBytes key.scalar, ?_, Bytes.length_ofNatBE _ _, ?_⟩
  · simp [P256.Point.toSec1, P256.elementBytes]
    rfl
  · unfold generateKeyPair
    rw [if_neg fun hne => hne hkind, if_neg (by omega)]

end SoftwareCrypto

end KeyEnclave
