import KeyEnclave.Bytes

/-!
# ChaCha20-Poly1305

Authenticated encryption with a nonce of 96 bits and a block counter of 32, without associated
data.

## Main definitions

* `ChaCha20.block` — 64 bytes of key stream.
* `Poly1305.tag` — the authenticator of a message under a one-time key.
* `ChaCha20Poly1305.encrypt`, `ChaCha20Poly1305.decrypt` — a ciphertext with its tag, and the
  plaintext of one whose tag is right.
-/

namespace KeyEnclave

namespace ChaCha20

/-- The words the key stream is computed on. -/
abbrev State := Vector UInt32 16

/-- A word rotated left by `n` bits, for `n` between 1 and 31. -/
def rotateLeft (x n : UInt32) : UInt32 := (x <<< n) ||| (x >>> (32 - n))

/-- Mix four words of a state. -/
def quarterRound (s : State) (a b c d : Fin 16) : State :=
  let s := s.set a (s[a] + s[b])
  let s := s.set d (rotateLeft (s[d] ^^^ s[a]) 16)
  let s := s.set c (s[c] + s[d])
  let s := s.set b (rotateLeft (s[b] ^^^ s[c]) 12)
  let s := s.set a (s[a] + s[b])
  let s := s.set d (rotateLeft (s[d] ^^^ s[a]) 8)
  let s := s.set c (s[c] + s[d])
  s.set b (rotateLeft (s[b] ^^^ s[c]) 7)

/-- A round on the columns and one on the diagonals. -/
def doubleRound (s : State) : State :=
  let s := quarterRound s 0 4 8 12
  let s := quarterRound s 1 5 9 13
  let s := quarterRound s 2 6 10 14
  let s := quarterRound s 3 7 11 15
  let s := quarterRound s 0 5 10 15
  let s := quarterRound s 1 6 11 12
  let s := quarterRound s 2 7 8 13
  quarterRound s 3 4 9 14

/-- The little-endian word at a position. -/
def wordOf (bytes : Bytes) (position : Nat) : UInt32 :=
  UInt32.ofNat (Bytes.toNatLE ((bytes.drop position).take 4))

/-- The words that a key, a block counter and a nonce start from. -/
def initialState (key : Bytes) (counter : UInt32) (nonce : Bytes) : State :=
  #v[0x61707865, 0x3320646e, 0x79622d32, 0x6b206574,
    wordOf key 0, wordOf key 4, wordOf key 8, wordOf key 12,
    wordOf key 16, wordOf key 20, wordOf key 24, wordOf key 28,
    counter, wordOf nonce 0, wordOf nonce 4, wordOf nonce 8]

/-- A block of key stream. -/
def block (key : Bytes) (counter : UInt32) (nonce : Bytes) : Bytes :=
  let start := initialState key counter nonce
  let mixed := Nat.repeat doubleRound 10 start
  (Vector.zipWith (· + ·) mixed start).toList.flatMap Bytes.ofWord

/-- `count` blocks of key stream. -/
def keyStream (key nonce : Bytes) : Nat → UInt32 → Bytes
  | 0, _ => []
  | count + 1, counter => block key counter nonce ++ keyStream key nonce count (counter + 1)

/-- Data combined with the key stream from block 1 on; doing it twice gives the data back. -/
def apply (key nonce data : Bytes) : Bytes :=
  List.zipWith (· ^^^ ·) data (keyStream key nonce ((data.length + 63) / 64) 1)

end ChaCha20

namespace Poly1305

/-- The prime 2¹³⁰ - 5. -/
def prime : Nat := (1 <<< 130) - 5

/-- The bits of the multiplier that are not cleared. -/
def clampMask : Nat := 0x0ffffffc0ffffffc0ffffffc0fffffff

/-- The value of a message of up to 16 bytes per step, each marked with a bit above it. -/
def accumulate (multiplier : Nat) (acc : Nat) (message : Bytes) : Nat :=
  match message with
  | [] => acc
  | b :: rest =>
    let chunk := (b :: rest).take 16
    let value := Bytes.toNatLE chunk + Bytes.limit chunk.length
    accumulate multiplier ((acc + value) * multiplier % prime) (rest.drop 15)
termination_by message.length
decreasing_by simp only [List.length_drop, List.length_cons]; omega

/-- The authenticator of a message under a one-time key of 32 bytes. -/
def tag (key message : Bytes) : Bytes :=
  let multiplier := Bytes.toNatLE (key.take 16) &&& clampMask
  let pad := Bytes.toNatLE ((key.drop 16).take 16)
  Bytes.ofNatLE 16 (accumulate multiplier 0 message + pad)

end Poly1305

namespace ChaCha20Poly1305

/-- The length of a key. -/
def keyLength : Nat := 32

/-- The length of a nonce. -/
def nonceLength : Nat := 12

/-- The length of a tag. -/
def tagLength : Nat := 16

/-- The tag of a ciphertext. -/
def tag (key nonce ciphertext : Bytes) : Bytes :=
  let oneTimeKey := (ChaCha20.block key 0 nonce).take 32
  let filler := List.replicate ((16 - ciphertext.length % 16) % 16) 0
  Poly1305.tag oneTimeKey
    (ciphertext ++ filler ++ Bytes.ofNatLE 8 0 ++ Bytes.ofNatLE 8 ciphertext.length)

/-- The ciphertext of data, and its tag. -/
def encrypt (key nonce data : Bytes) : Bytes × Bytes :=
  let ciphertext := ChaCha20.apply key nonce data
  (ciphertext, tag key nonce ciphertext)

/-- The plaintext of a ciphertext whose tag is right. -/
def decrypt (key nonce ciphertext expected : Bytes) : Option Bytes :=
  if tag key nonce ciphertext = expected then some (ChaCha20.apply key nonce ciphertext) else none

end ChaCha20Poly1305

end KeyEnclave
