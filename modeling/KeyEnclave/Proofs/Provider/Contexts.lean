import KeyEnclave.Proofs.Provider.Operations
import KeyEnclave.Proofs.Session.Table
import KeyEnclave.Provider.Software

/-!
# The contexts of the software provider

What each operation of the software provider does to the contexts that it keeps, one for each
session in an operation.

## Main definitions

* `Operation.state` — the state of a session in an operation.
* `SoftwareCrypto.stateOf` — the state of the session that a context is of.

## Main results

* `SoftwareCrypto.serve_begins` — beginning an operation adds a context or changes nothing.
* `SoftwareCrypto.serve_continues` — a step keeps the context of an operation that does not end.
* `SoftwareCrypto.stateOf_oneShot` — a last step drops it exactly if the operation ends.
-/

namespace KeyEnclave

/-- The state of a session in an operation. -/
def Operation.state : Operation → SessionState
  | .digest _ => .digesting
  | .ecdsaSign .. | .hmacSign _ => .signing
  | .ecdsaVerify .. | .hmacVerify _ => .verifying
  | .encrypt .. => .encrypting
  | .decrypt .. => .decrypting

/-- The codes for a mechanism or a key that can not be used. -/
def unusableCodes : List ReturnCode := [.mechanismInvalid, .argumentsBad, .keyHandleInvalid]

namespace ObjectView

variable {key : ObjectView} {code : ReturnCode}

theorem code_of_secretValue (h : key.secretValue = .error code) : code ∈ unusableCodes := by
  unfold secretValue at h
  split at h
  · cases h
  · obtain rfl := Except.error.inj h
    decide

theorem code_of_signingKey (h : key.signingKey = .error code) : code ∈ unusableCodes := by
  unfold signingKey at h
  cases hsecret : key.secretValue with
  | error code' =>
    rw [hsecret] at h
    obtain rfl := Except.error.inj h
    exact code_of_secretValue hsecret
  | ok secret =>
    simp only [hsecret, bind, Except.bind] at h
    split at h
    · cases h
    · obtain rfl := Except.error.inj h
      decide

theorem code_of_verifyingKey (h : key.verifyingKey = .error code) : code ∈ unusableCodes := by
  unfold verifyingKey at h
  split at h
  · obtain rfl := Except.error.inj h
    decide
  · split at h
    · cases h
    · obtain rfl := Except.error.inj h
      decide

end ObjectView

namespace SoftwareCrypto

-- ═══════════════════════════════════════════════════════════════════════════
-- Contexts of new operations
-- ═══════════════════════════════════════════════════════════════════════════

theorem code_of_cipherContext {mechanism : Mechanism} {key : ObjectView} {code : ReturnCode}
    (h : cipherContext mechanism key = .error code) : code ∈ unusableCodes := by
  simp only [cipherContext, bind, Except.bind, throw, throwThe, MonadExceptOf.throw] at h
  split at h
  · obtain rfl := Except.error.inj h
    decide
  · split at h
    · obtain rfl := Except.error.inj h
      decide
    · split at h
      · next hsecret =>
        obtain rfl := Except.error.inj h
        exact ObjectView.code_of_secretValue hsecret
      · split at h
        · obtain rfl := Except.error.inj h
          decide
        · cases h

theorem code_of_hmacKey {key : ObjectView} {code : ReturnCode} (h : hmacKey key = .error code) :
    code ∈ unusableCodes := by
  simp only [hmacKey, bind, Except.bind, throw, throwThe, MonadExceptOf.throw] at h
  split at h
  · next hsecret =>
    obtain rfl := Except.error.inj h
    exact ObjectView.code_of_secretValue hsecret
  · split at h
    · obtain rfl := Except.error.inj h
      decide
    · cases h

/-- A new context is one of an operation with the given state, or there is none because the
mechanism or the key can not be used. -/
def IsContext (state : SessionState) : Except ReturnCode Operation → Prop
  | .ok operation => operation.state = state
  | .error code => code ∈ unusableCodes

namespace IsContext

variable {state : SessionState}

theorem map {α : Type} {made : Except ReturnCode α} {context : α → Operation}
    (hcode : ∀ code, made = .error code → code ∈ unusableCodes)
    (hstate : ∀ a, (context a).state = state) : IsContext state (made.map context) := by
  cases made with
  | error code => exact hcode code rfl
  | ok a => exact hstate a

theorem ite {p : Prop} [Decidable p] {made other : Except ReturnCode Operation}
    (hthen : IsContext state made) (helse : IsContext state other) :
    IsContext state (if p then made else other) := by
  split
  · exact hthen
  · exact helse

theorem mechanismInvalid : IsContext state (.error .mechanismInvalid) := by
  show ReturnCode.mechanismInvalid ∈ unusableCodes
  decide

end IsContext

theorem isContext_digestContext (mechanism : Mechanism) :
    IsContext .digesting (digestContext mechanism) :=
  .ite (show Operation.state _ = _ from rfl) .mechanismInvalid

theorem isContext_signContext (mechanism : Mechanism) (key : ObjectView) :
    IsContext .signing (signContext mechanism key) :=
  .ite (.map (fun _ => ObjectView.code_of_signingKey) fun _ => rfl) <|
    .ite (.map (fun _ => ObjectView.code_of_signingKey) fun _ => rfl) <|
      .ite (.map (fun _ => code_of_hmacKey) fun _ => rfl) .mechanismInvalid

theorem isContext_verifyContext (mechanism : Mechanism) (key : ObjectView) :
    IsContext .verifying (verifyContext mechanism key) :=
  .ite (.map (fun _ => ObjectView.code_of_verifyingKey) fun _ => rfl) <|
    .ite (.map (fun _ => ObjectView.code_of_verifyingKey) fun _ => rfl) <|
      .ite (.map (fun _ => code_of_hmacKey) fun _ => rfl) .mechanismInvalid

-- ═══════════════════════════════════════════════════════════════════════════
-- Codes of steps
-- ═══════════════════════════════════════════════════════════════════════════

section Codes

variable {operation : Operation} {data : Bytes} {room : Option Nat}

theorem code_deliver (result : Bytes) (room : Option Nat) :
    (deliver result room).code ≠ .operationNotInitialised := by
  unfold deliver
  split
  · nofun
  · split <;> nofun

theorem code_encryptStep (h : operation.state = .encrypting) :
    (encryptStep operation data room).code ≠ .operationNotInitialised := by
  cases operation with
  | encrypt key nonce =>
    show (sealData key nonce data room).code ≠ _
    simp only [sealData]
    split
    · nofun
    · split
      · nofun
      · split <;> nofun
  | _ => cases h

theorem code_decryptStep (h : operation.state = .decrypting) :
    (decryptStep operation data room).code ≠ .operationNotInitialised := by
  cases operation with
  | decrypt key nonce =>
    show (openSealed key nonce data room).code ≠ _
    simp only [openSealed]
    split
    · nofun
    · split
      · nofun
      · split
        · nofun
        · exact code_deliver _ _
  | _ => cases h

theorem code_digestStep (h : operation.state = .digesting) :
    (digestStep operation data room).code ≠ .operationNotInitialised := by
  cases operation with
  | digest hasher => exact code_deliver _ _
  | _ => cases h

theorem code_signStep (h : operation.state = .signing) :
    (signStep operation data room).code ≠ .operationNotInitialised := by
  cases operation with
  | ecdsaSign prehashed key =>
    simp only [signStep]
    split
    · nofun
    · split
      · exact code_deliver _ _
      · nofun
  | hmacSign key => exact code_deliver _ _
  | _ => cases h

theorem code_verifyStep {signature : Bytes} (h : operation.state = .verifying) :
    verifyStep operation data signature ≠ .operationNotInitialised := by
  cases operation with
  | ecdsaVerify prehashed key =>
    simp only [verifyStep]
    split
    · nofun
    · split <;> nofun
  | hmacVerify key =>
    simp only [verifyStep]
    split <;> nofun
  | _ => cases h

end Codes

-- ═══════════════════════════════════════════════════════════════════════════
-- What becomes of contexts
-- ═══════════════════════════════════════════════════════════════════════════

variable {R : Type} {crypto : SoftwareCrypto R} {session other : SessionHandle}
  {state : SessionState}

/-- The state of the session that a context is of, if the provider keeps one for it. -/
def stateOf (crypto : SoftwareCrypto R) (session : SessionHandle) : Option SessionState :=
  (crypto.operations.get? session).map Operation.state

theorem stateOf_eq_some : crypto.stateOf session = some state ↔
    ∃ operation, crypto.operations.get? session = some operation ∧ operation.state = state :=
  Option.map_eq_some_iff

@[simp] theorem stateOf_new (rng : R) : (SoftwareCrypto.new rng).stateOf session = none := by
  unfold stateOf SoftwareCrypto.new
  rw [PerSession.get?_empty]
  rfl

theorem stateOf_release (crypto : SoftwareCrypto R) (session other : SessionHandle) :
    (crypto.release session).stateOf other =
      if other = session then none else crypto.stateOf other := by
  unfold stateOf release
  rw [PerSession.get?_set_none]
  split <;> rfl

theorem stateOf_set (crypto : SoftwareCrypto R) (hindex : session.index?.isSome)
    (operation : Operation) (other : SessionHandle) :
    stateOf { crypto with operations := crypto.operations.set session (some operation) } other =
      if other = session then some operation.state else crypto.stateOf other := by
  unfold stateOf
  rw [PerSession.get?_set _ _ _ _ hindex]
  split <;> rfl

theorem context_eq_ok {operation : Operation}
    (h : crypto.operations.get? session = some operation) :
    crypto.context session = .ok operation := by
  obtain ⟨i, hi⟩ := Option.isSome_iff_exists.mp (PerSession.index?_isSome_of_get? h)
  unfold context
  rw [hi, h]
  rfl

/-- Whether a context outlives a last step is decided the same way as whether the session stays in
its operation. -/
theorem outlives_eq (code : ReturnCode) (room : Option Nat) :
    outlives code room = !Kms.terminates code room.isSome true := by
  cases room <;> simp [outlives, Kms.terminates, isLengthProbe, Bool.or_comm]

/-- A last step drops the context exactly if the operation ends. -/
theorem stateOf_oneShot {operation : Operation} (room : Option Nat)
    (step : Operation → Delivery) (h : crypto.operations.get? session = some operation) :
    (crypto.oneShot session room step).1 = step operation ∧
      ∀ other, (crypto.oneShot session room step).2.stateOf other =
        if other = session ∧ Kms.terminates (step operation).code room.isSome true = true then none
        else crypto.stateOf other := by
  unfold oneShot
  rw [context_eq_ok h]
  refine ⟨rfl, fun other => ?_⟩
  simp only [outlives_eq]
  cases Kms.terminates (step operation).code room.isSome true with
  | true => simp [stateOf_release]
  | false => simp

theorem start_begins {made : Except ReturnCode Operation} (hcontext : IsContext state made)
    (hindex : session.index?.isSome) (hfree : crypto.stateOf session = none) :
    (crypto.start session made).1 = .ok ∧
        (∀ other, (crypto.start session made).2.stateOf other =
          if other = session then some state else crypto.stateOf other) ∨
      (crypto.start session made).1 ∈ unusableCodes ∧ (crypto.start session made).2 = crypto := by
  cases made with
  | error code => exact .inr ⟨hcontext, rfl⟩
  | ok operation =>
    left
    have hnone : crypto.operations.get? session = none := Option.map_eq_none_iff.mp hfree
    obtain ⟨i, hi⟩ := Option.isSome_iff_exists.mp hindex
    have hstart : crypto.start session (.ok operation) =
        (.ok, { crypto with operations := crypto.operations.set session (some operation) }) := by
      unfold start
      rw [hi, hnone]
      rfl
    obtain rfl : operation.state = state := hcontext
    rw [hstart]
    exact ⟨rfl, stateOf_set crypto hindex operation⟩

variable [RandomSource R]

/-- Beginning an operation in a session without a context adds one, or is refused and changes
nothing. -/
theorem serve_begins {op : ProviderOp} (hbegins : op.begins? = some (session, state))
    (hindex : session.index?.isSome) (hfree : crypto.stateOf session = none) :
    op.code (CryptoProvider.serve op crypto).1 = .ok ∧
        (∀ other, (CryptoProvider.serve op crypto).2.stateOf other =
          if other = session then some state else crypto.stateOf other) ∨
      op.code (CryptoProvider.serve op crypto).1 ∈ unusableCodes ∧
        (CryptoProvider.serve op crypto).2 = crypto := by
  cases op with
  | encryptInit | decryptInit =>
    cases hbegins
    exact start_begins (.map (fun _ => code_of_cipherContext) fun _ => rfl) hindex hfree
  | digestInit =>
    cases hbegins
    exact start_begins (isContext_digestContext _) hindex hfree
  | signInit =>
    cases hbegins
    exact start_begins (isContext_signContext _ _) hindex hfree
  | verifyInit =>
    cases hbegins
    exact start_begins (isContext_verifyContext _ _) hindex hfree
  | _ => cases hbegins

/-- What a step of an operation in progress does. -/
structure GoesOn (crypto after : SoftwareCrypto R) (session : SessionHandle) (state : SessionState)
    (code : ReturnCode) (isEnded : Bool) : Prop where
  code_ne : code ≠ .operationNotInitialised
  others : ∀ other, other ≠ session → after.stateOf other = crypto.stateOf other
  stays : isEnded = false → after.stateOf session = some state

omit [RandomSource R] in
theorem oneShot_goesOn {room : Option Nat} {step : Operation → Delivery}
    (hstate : crypto.stateOf session = some state)
    (hcode : ∀ operation : Operation, operation.state = state →
      (step operation).code ≠ .operationNotInitialised) :
    GoesOn crypto (crypto.oneShot session room step).2 session state
      (crypto.oneShot session room step).1.code
      (Kms.terminates (crypto.oneShot session room step).1.code room.isSome true) := by
  obtain ⟨operation, hget, hoperation⟩ := stateOf_eq_some.mp hstate
  obtain ⟨hdelivery, hafter⟩ := stateOf_oneShot room step hget
  rw [hdelivery]
  refine ⟨hcode operation hoperation, fun other hne => ?_, fun hstays => ?_⟩
  · rw [hafter, if_neg fun h => hne h.1]
  · rw [hafter, if_neg fun h => Bool.false_ne_true (hstays.symm.trans h.2)]
    exact hstate

/-- A step of an operation in progress keeps the context, unless the operation ends. -/
theorem serve_continues {op : ProviderOp} (hcontinues : op.continues? = some (session, state))
    (hstate : crypto.stateOf session = some state) :
    GoesOn crypto (CryptoProvider.serve op crypto).2 session state
      (op.code (CryptoProvider.serve op crypto).1) (op.ends (CryptoProvider.serve op crypto).1) := by
  cases op with
  | encrypt =>
    cases hcontinues
    exact oneShot_goesOn hstate fun _ => code_encryptStep
  | decrypt =>
    cases hcontinues
    exact oneShot_goesOn hstate fun _ => code_decryptStep
  | digest | digestFinal =>
    cases hcontinues
    exact oneShot_goesOn hstate fun _ => code_digestStep
  | sign =>
    cases hcontinues
    exact oneShot_goesOn hstate fun _ => code_signStep
  | encryptUpdate session data room | decryptUpdate session data room
  | encryptFinal session room | decryptFinal session room =>
    cases hcontinues
    exact ⟨nofun, fun _ _ => rfl, fun _ => hstate⟩
  | digestUpdate session data =>
    cases hcontinues
    obtain ⟨operation, hget, hoperation⟩ := stateOf_eq_some.mp hstate
    cases operation with
    | digest hasher =>
      have hset := stateOf_set crypto (PerSession.index?_isSome_of_get? hget)
        (.digest (hasher.update data))
      show GoesOn crypto (crypto.digestUpdate session data).2 session .digesting
        (crypto.digestUpdate session data).1
        (Kms.terminates (crypto.digestUpdate session data).1 true false)
      unfold digestUpdate
      rw [context_eq_ok hget]
      exact ⟨nofun, fun other hne => by rw [hset, if_neg hne],
        fun _ => by rw [hset, if_pos rfl]; rfl⟩
    | _ => cases hoperation
  | verify session data signature =>
    cases hcontinues
    obtain ⟨operation, hget, hoperation⟩ := stateOf_eq_some.mp hstate
    show GoesOn crypto (crypto.verify session data signature).2 session .verifying
      (crypto.verify session data signature).1 true
    unfold verify
    rw [context_eq_ok hget]
    exact ⟨code_verifyStep hoperation, fun other hne => by rw [stateOf_release, if_neg hne], nofun⟩
  | _ => cases hcontinues

/-- Making a key pair draws from the source, and leaves every context as it is. -/
theorem operations_generateKeyPair (crypto : SoftwareCrypto R) (mechanism : Mechanism)
    (publicRoom privateRoom : Nat) :
    (crypto.generateKeyPair mechanism publicRoom privateRoom).2.operations =
      crypto.operations := by
  simp only [generateKeyPair]
  split
  · rfl
  · split <;> rfl

end SoftwareCrypto

end KeyEnclave
