import KeyEnclave.Cipher.Sha256

/-!
# HMAC and HKDF

Message authentication and key derivation with SHA-256.

## Main definitions

* `hmacSha256` — the authentication code of a message under a key.
* `hkdfSha256` — key material of a given length, extracted without salt.
-/

namespace KeyEnclave

/-- A key filled up to a block of the hash; a longer key is hashed first. -/
def hmacBlock (key : Bytes) : Bytes :=
  let key := if Sha256.blockLength < key.length then Sha256.hash key else key
  key ++ List.replicate (Sha256.blockLength - key.length) 0

/-- The authentication code of a message. -/
def hmacSha256 (key message : Bytes) : Bytes :=
  let block := hmacBlock key
  let inner := Sha256.hash (block.map (· ^^^ 0x36) ++ message)
  Sha256.hash (block.map (· ^^^ 0x5c) ++ inner)

@[simp] theorem length_hmacSha256 (key message : Bytes) :
    (hmacSha256 key message).length = Sha256.digestLength := by
  simp [hmacSha256, Sha256.hash]

/-- The blocks of key material after `previous`, `count` of them, numbered from `index`. -/
def hkdfBlocks (key info : Bytes) : Nat → Nat → Bytes → Bytes
  | 0, _, _ => []
  | count + 1, index, previous =>
    let block := hmacSha256 key (previous ++ info ++ [UInt8.ofNat index])
    block ++ hkdfBlocks key info count (index + 1) block

/-- The most key material that can be derived at once. -/
def hkdfMaxLength : Nat := 255 * Sha256.digestLength

/-- `length` bytes derived from a secret for a purpose `info`, unless that is too much. -/
def hkdfSha256 (secret info : Bytes) (length : Nat) : Option Bytes :=
  if hkdfMaxLength < length then none
  else
    let key := hmacSha256 (List.replicate Sha256.digestLength 0) secret
    let count := (length + Sha256.digestLength - 1) / Sha256.digestLength
    some ((hkdfBlocks key info count 1 []).take length)

theorem length_hkdfBlocks (key info : Bytes) (count index : Nat) (previous : Bytes) :
    (hkdfBlocks key info count index previous).length = count * Sha256.digestLength := by
  induction count generalizing index previous with
  | zero => simp [hkdfBlocks]
  | succ count ih => simp [hkdfBlocks, ih, Nat.succ_mul, Nat.add_comm]

theorem length_of_hkdfSha256 {secret info output : Bytes} {length : Nat}
    (h : hkdfSha256 secret info length = some output) : output.length = length := by
  unfold hkdfSha256 at h
  split at h
  · simp at h
  · simp only [Option.some.injEq] at h
    rw [← h, List.length_take, length_hkdfBlocks]
    simp only [Sha256.digestLength]
    omega

end KeyEnclave
