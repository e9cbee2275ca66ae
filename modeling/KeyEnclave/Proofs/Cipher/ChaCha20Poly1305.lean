import KeyEnclave.Cipher.ChaCha20Poly1305

/-!
# Decryption gives back what was encrypted

The key stream is as long as the data, so combining with it twice gives the data back, and the tag
that was made of a ciphertext is the one that is expected of it.

## Main definitions

* `ChaCha20Poly1305.sealed` — a ciphertext with its tag behind it.

## Main results

* `ChaCha20Poly1305.decrypt_encrypt` — a ciphertext with its own tag is decrypted to the data.
-/

namespace KeyEnclave

namespace ChaCha20

/-- The length of a block of key stream. -/
def blockLength : Nat := 64

theorem length_block (key : Bytes) (counter : UInt32) (nonce : Bytes) :
    (block key counter nonce).length = blockLength := by
  simp only [block, List.length_flatMap, Bytes.length_ofWord, List.map_const', Vector.length_toList]
  rfl

theorem length_keyStream (key nonce : Bytes) (count : Nat) (counter : UInt32) :
    (keyStream key nonce count counter).length = count * blockLength := by
  induction count generalizing counter with
  | zero => simp [keyStream]
  | succ count ih => simp [keyStream, length_block, ih, Nat.succ_mul, Nat.add_comm]

/-- There is key stream for all data. -/
theorem length_le_keyStream (key nonce data : Bytes) :
    data.length ≤ (keyStream key nonce ((data.length + 63) / 64) 1).length := by
  rw [length_keyStream, blockLength]
  omega

theorem length_apply (key nonce data : Bytes) : (apply key nonce data).length = data.length := by
  rw [apply, List.length_zipWith]
  exact Nat.min_eq_left (length_le_keyStream key nonce data)

/-- Bytes combined twice with others that are as many are the bytes again. -/
theorem zipWith_xor_twice {data stream : Bytes} (h : data.length ≤ stream.length) :
    List.zipWith (· ^^^ ·) (List.zipWith (· ^^^ ·) data stream) stream = data := by
  induction data generalizing stream with
  | nil => rfl
  | cons byte data ih =>
    cases stream with
    | nil => cases h
    | cons mask stream =>
      have hrest := ih (Nat.le_of_succ_le_succ h)
      rw [List.zipWith_cons_cons, List.zipWith_cons_cons, hrest, UInt8.xor_assoc, UInt8.xor_self,
        UInt8.xor_zero]

theorem apply_apply (key nonce data : Bytes) : apply key nonce (apply key nonce data) = data := by
  have hlength := length_apply key nonce data
  unfold apply at hlength ⊢
  rw [hlength]
  exact zipWith_xor_twice (length_le_keyStream key nonce data)

end ChaCha20

namespace ChaCha20Poly1305

/-- The ciphertext of data with its tag behind it. -/
def sealed (key nonce data : Bytes) : Bytes :=
  (encrypt key nonce data).1 ++ (encrypt key nonce data).2

theorem length_ciphertext (key nonce data : Bytes) :
    (encrypt key nonce data).1.length = data.length := ChaCha20.length_apply key nonce data

theorem length_sealed (key nonce data : Bytes) :
    (sealed key nonce data).length = data.length + tagLength := by
  rw [sealed, List.length_append, length_ciphertext]
  exact congrArg _ (Bytes.length_ofNatLE 16 _)

theorem decrypt_encrypt (key nonce data : Bytes) :
    decrypt key nonce (encrypt key nonce data).1 (encrypt key nonce data).2 = some data := by
  simp only [decrypt, encrypt, if_true, ChaCha20.apply_apply]

end ChaCha20Poly1305

end KeyEnclave
