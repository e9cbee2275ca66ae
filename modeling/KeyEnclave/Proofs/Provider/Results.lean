import KeyEnclave.Proofs.Action.Ends
import KeyEnclave.Proofs.Cipher.ChaCha20Poly1305
import KeyEnclave.Proofs.Provider.Contexts

/-!
# The results of operations

The last step of an operation hands out its result. Some steps tell the length without computing the
result, and some compute the result to tell its length; to the caller they are alike.

## Main definitions

* `Delivers` — a step that succeeds hands out one result, whatever buffer is brought.
* `CryptoProvider.FailsPlainly` — a failure to make a key pair can be told from a success.
* `CryptoProvider.RefusesPlainly` — and so can a failure to derive a key.

## Main results

* `SoftwareCrypto.delivers_encryptStep`, `delivers_decryptStep`, `delivers_digestStep`,
  `delivers_signStep` — the steps of the software provider.
-/

namespace KeyEnclave

theorem Ecdsa.Signature.length_toBytes (signature : Ecdsa.Signature) :
    signature.toBytes.length = Ecdsa.Signature.length := by
  simp [toBytes, P256.elementBytes, Ecdsa.Signature.length, P256.elementLength]

-- ═══════════════════════════════════════════════════════════════════════════
-- Deliveries
-- ═══════════════════════════════════════════════════════════════════════════

@[simp] theorem deliver_none (result : Bytes) :
    deliver result none = ⟨.ok, some result.length, []⟩ := rfl

theorem deliver_of_short {result : Bytes} {room : Nat} (h : room < result.length) :
    deliver result (some room) = ⟨.bufferTooSmall, some result.length, []⟩ := if_pos h

theorem deliver_of_fits {result : Bytes} {room : Nat} (h : result.length ≤ room) :
    deliver result (some room) = ⟨.ok, some result.length, result⟩ := if_neg (by omega)

/-- A step that succeeds with some buffer hands out one and the same result into every buffer. -/
def Delivers (step : Option Nat → Delivery) : Prop :=
  ∀ room, (step (some room)).code = .ok → ∃ result, step = deliver result

theorem delivers_deliver (result : Bytes) : Delivers (deliver result) := fun _ _ => ⟨result, rfl⟩

/-- A step that is refused hands out nothing. -/
theorem delivers_refused {code : ReturnCode} (hcode : code ≠ .ok) :
    Delivers fun _ => .refused code := fun _ h => absurd h hcode

namespace SoftwareCrypto

/-- Data that is not too long is encrypted into every buffer; its length is told before anything is
encrypted. -/
theorem sealData_of_le {data : Bytes} (h : data.length ≤ scratchLength) (key nonce : Bytes) :
    sealData key nonce data = deliver (ChaCha20Poly1305.sealed key nonce data) := by
  have hlength := ChaCha20Poly1305.length_sealed key nonce data
  funext room
  cases room with
  | none => simp only [sealData, if_neg (Nat.not_lt.mpr h), deliver_none, hlength]
  | some room =>
    simp only [sealData, if_neg (Nat.not_lt.mpr h), deliver, hlength]
    rfl

theorem sealData_of_lt {data : Bytes} (h : scratchLength < data.length) (key nonce : Bytes)
    (room : Option Nat) : sealData key nonce data room =
      ⟨.dataLenRange, some (data.length + ChaCha20Poly1305.tagLength), []⟩ := if_pos h

theorem delivers_sealData (key nonce data : Bytes) : Delivers (sealData key nonce data) := by
  intro room hok
  by_cases hlong : scratchLength < data.length
  · rw [sealData_of_lt hlong] at hok
    cases hok
  · exact ⟨_, sealData_of_le (Nat.not_lt.mp hlong) key nonce⟩

/-- What was encrypted is short enough to be decrypted, and is decrypted to the data. -/
theorem openSealed_sealed {data : Bytes} (h : data.length ≤ scratchLength) (key nonce : Bytes) :
    openSealed key nonce (ChaCha20Poly1305.sealed key nonce data) = deliver data := by
  have hlength := ChaCha20Poly1305.length_sealed key nonce data
  have hciphertext := ChaCha20Poly1305.length_ciphertext key nonce data
  have hplain : (ChaCha20Poly1305.sealed key nonce data).length - ChaCha20Poly1305.tagLength =
      (ChaCha20Poly1305.encrypt key nonce data).1.length := by omega
  funext room
  unfold openSealed
  rw [if_neg (by omega), hplain, if_neg (by omega), ChaCha20Poly1305.sealed, List.take_left,
    List.drop_left, ChaCha20Poly1305.decrypt_encrypt]

/-- A ciphertext is decrypted to tell the length of the data. -/
theorem delivers_openSealed (key nonce data : Bytes) : Delivers (openSealed key nonce data) := by
  unfold openSealed
  split
  · exact delivers_refused (by decide)
  · simp only
    split
    · exact delivers_refused (by decide)
    · split
      · exact delivers_refused (by decide)
      · exact delivers_deliver _

theorem delivers_encryptStep (operation : Operation) (data : Bytes) :
    Delivers (encryptStep operation data) := by
  cases operation with
  | encrypt key nonce => exact delivers_sealData key nonce data
  | _ => exact delivers_refused (by decide)

theorem delivers_decryptStep (operation : Operation) (data : Bytes) :
    Delivers (decryptStep operation data) := by
  cases operation with
  | decrypt key nonce => exact delivers_openSealed key nonce data
  | _ => exact delivers_refused (by decide)

theorem delivers_digestStep (operation : Operation) (data : Bytes) :
    Delivers (digestStep operation data) := by
  cases operation with
  | digest hasher => exact delivers_deliver _
  | _ => exact delivers_refused (by decide)

/-- The length of an ECDSA signature is told without signing, also where signing would fail. -/
theorem delivers_signStep (operation : Operation) (data : Bytes) :
    Delivers (signStep operation data) := by
  cases operation with
  | ecdsaSign prehashed key =>
    intro room hok
    cases hsign : Ecdsa.sign key (hashed prehashed data) with
    | none =>
      simp only [signStep, hsign] at hok
      cases hok
    | some signature =>
      refine ⟨signature.toBytes, funext fun room => ?_⟩
      cases room with
      | none => simp [signStep, signature.length_toBytes]
      | some room => simp [signStep, hsign]
  | hmacSign key => exact delivers_deliver _
  | _ => exact delivers_refused (by decide)

end SoftwareCrypto

-- ═══════════════════════════════════════════════════════════════════════════
-- New keys
-- ═══════════════════════════════════════════════════════════════════════════

/-- A provider that makes no key pair says so with a code other than `ok`. -/
def CryptoProvider.FailsPlainly (C : Type) [CryptoProvider C] : Prop :=
  ∀ (mechanism : Mechanism) (publicRoom privateRoom : Nat) (crypto : C),
    (serve (.generateKeyPair mechanism publicRoom privateRoom) crypto).1 ≠ .error .ok

theorem SoftwareCrypto.failsPlainly {R : Type} [RandomSource R] :
    CryptoProvider.FailsPlainly (SoftwareCrypto R) := by
  intro mechanism publicRoom privateRoom crypto
  show (crypto.generateKeyPair mechanism publicRoom privateRoom).1 ≠ .error .ok
  simp only [generateKeyPair]
  split
  · simp
  · split <;> simp

/-- A provider that makes no key, derived or of a pair, says so with a code other than `ok`. -/
structure CryptoProvider.RefusesPlainly (C : Type) [CryptoProvider C] : Prop where
  pair : FailsPlainly C
  derived : ∀ (mechanism : Mechanism) (base : ObjectView) (length : Nat) (crypto : C),
    (serve (.deriveKey mechanism base length) crypto).1 ≠ .error .ok

theorem ObjectView.signingKey_ne_error_ok {key : ObjectView} : key.signingKey ≠ .error .ok := by
  refine bind_ne_error secretValue_ne_error_ok fun secret => ?_
  split <;> exact fun h => by cases h

namespace SoftwareCrypto

theorem deriveKey_ne_error_ok {mechanism : Mechanism} {base : ObjectView} {length : Nat} :
    deriveKey mechanism base length ≠ .error .ok := by
  unfold deriveKey
  split
  · refine bind_ne_error ObjectView.secretValue_ne_error_ok fun secret => ?_
    split <;> exact fun h => by cases h
  · split
    · refine bind_ne_error ObjectView.signingKey_ne_error_ok fun scalar => ?_
      split
      · exact fun h => by cases h
      · split <;> exact fun h => by cases h
    · exact fun h => by cases h

theorem refusesPlainly {R : Type} [RandomSource R] :
    CryptoProvider.RefusesPlainly (SoftwareCrypto R) :=
  ⟨failsPlainly, fun _ _ _ _ => deriveKey_ne_error_ok⟩

end SoftwareCrypto

end KeyEnclave
