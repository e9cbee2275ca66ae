import KeyEnclave.Bytes

/-!
# SHA-256

The hash of the SHA-2 family with digests of 256 bits, as a hasher that absorbs a message byte by
byte.

## Main definitions

* `Sha256` — a hasher: the chaining value, the bytes of the unfinished block, the length so far.
* `Sha256.update`, `Sha256.digest` — absorb bytes, and the hash of all that was absorbed.
* `Sha256.hash` — the hash of a message.
-/

namespace KeyEnclave

/-- The eight words of a chaining value. -/
structure Sha256.Chain where
  a : UInt32
  b : UInt32
  c : UInt32
  d : UInt32
  e : UInt32
  f : UInt32
  g : UInt32
  h : UInt32
  deriving DecidableEq, Repr, Inhabited

/-- A hasher. -/
structure Sha256 where
  chain : Sha256.Chain
  /-- Bytes that do not fill a block yet. -/
  pending : Bytes
  /-- The number of bytes absorbed. -/
  length : Nat
  deriving DecidableEq, Repr, Inhabited

namespace Sha256

/-- The length of a block. -/
def blockLength : Nat := 64

/-- The length of a digest. -/
def digestLength : Nat := 32

/-- The chaining value before the first block. -/
def initialChain : Chain :=
  ⟨0x6a09e667, 0xbb67ae85, 0x3c6ef372, 0xa54ff53a, 0x510e527f, 0x9b05688c, 0x1f83d9ab, 0x5be0cd19⟩

/-- The constant of each round. -/
def roundConstants : List UInt32 :=
  [0x428a2f98, 0x71374491, 0xb5c0fbcf, 0xe9b5dba5, 0x3956c25b, 0x59f111f1, 0x923f82a4, 0xab1c5ed5,
    0xd807aa98, 0x12835b01, 0x243185be, 0x550c7dc3, 0x72be5d74, 0x80deb1fe, 0x9bdc06a7, 0xc19bf174,
    0xe49b69c1, 0xefbe4786, 0x0fc19dc6, 0x240ca1cc, 0x2de92c6f, 0x4a7484aa, 0x5cb0a9dc, 0x76f988da,
    0x983e5152, 0xa831c66d, 0xb00327c8, 0xbf597fc7, 0xc6e00bf3, 0xd5a79147, 0x06ca6351, 0x14292967,
    0x27b70a85, 0x2e1b2138, 0x4d2c6dfc, 0x53380d13, 0x650a7354, 0x766a0abb, 0x81c2c92e, 0x92722c85,
    0xa2bfe8a1, 0xa81a664b, 0xc24b8b70, 0xc76c51a3, 0xd192e819, 0xd6990624, 0xf40e3585, 0x106aa070,
    0x19a4c116, 0x1e376c08, 0x2748774c, 0x34b0bcb5, 0x391c0cb3, 0x4ed8aa4a, 0x5b9cca4f, 0x682e6ff3,
    0x748f82ee, 0x78a5636f, 0x84c87814, 0x8cc70208, 0x90befffa, 0xa4506ceb, 0xbef9a3f7, 0xc67178f2]

/-- A word rotated right by `n` bits, for `n` between 1 and 31. -/
def rotateRight (x n : UInt32) : UInt32 := (x >>> n) ||| (x <<< (32 - n))

def smallSigma0 (x : UInt32) : UInt32 := rotateRight x 7 ^^^ rotateRight x 18 ^^^ (x >>> 3)

def smallSigma1 (x : UInt32) : UInt32 := rotateRight x 17 ^^^ rotateRight x 19 ^^^ (x >>> 10)

def bigSigma0 (x : UInt32) : UInt32 := rotateRight x 2 ^^^ rotateRight x 13 ^^^ rotateRight x 22

def bigSigma1 (x : UInt32) : UInt32 := rotateRight x 6 ^^^ rotateRight x 11 ^^^ rotateRight x 25

/-- One round with a constant and a word of the schedule. -/
def round (s : Chain) (constant word : UInt32) : Chain :=
  let choice := (s.e &&& s.f) ^^^ (~~~s.e &&& s.g)
  let majority := (s.a &&& s.b) ^^^ (s.a &&& s.c) ^^^ (s.b &&& s.c)
  let t1 := s.h + bigSigma1 s.e + choice + constant + word
  let t2 := bigSigma0 s.a + majority
  ⟨t1 + t2, s.a, s.b, s.c, s.d + t1, s.e, s.f, s.g⟩

/-- The word of the schedule that follows sixteen others. -/
def nextWord (window : List UInt32) : UInt32 :=
  let word (i : Nat) : UInt32 := window[i]?.getD 0
  smallSigma1 (word 14) + word 9 + smallSigma0 (word 1) + word 0

/-- The rounds with the given constants, from a window of sixteen words of the schedule on. -/
def rounds : List UInt32 → List UInt32 → Chain → Chain
  | constant :: constants, word :: window, s =>
    rounds constants (window ++ [nextWord (word :: window)]) (round s constant word)
  | _, _, s => s

/-- The big-endian words of a block. -/
def blockWords : Bytes → List UInt32
  | b0 :: b1 :: b2 :: b3 :: rest =>
    UInt32.ofNat (Bytes.toNatBE [b0, b1, b2, b3]) :: blockWords rest
  | _ => []

/-- The chaining value after a block. -/
def compress (s : Chain) (block : Bytes) : Chain :=
  let t := rounds roundConstants (blockWords block) s
  ⟨s.a + t.a, s.b + t.b, s.c + t.c, s.d + t.d, s.e + t.e, s.f + t.f, s.g + t.g, s.h + t.h⟩

/-- A hasher that absorbed nothing. -/
def new : Sha256 := ⟨initialChain, [], 0⟩

/-- Absorb a byte. -/
def absorb (hasher : Sha256) (b : UInt8) : Sha256 :=
  let pending := hasher.pending ++ [b]
  if pending.length = blockLength then ⟨compress hasher.chain pending, [], hasher.length + 1⟩
  else ⟨hasher.chain, pending, hasher.length + 1⟩

/-- Absorb bytes. -/
def update (hasher : Sha256) (data : Bytes) : Sha256 := data.foldl absorb hasher

theorem update_append (hasher : Sha256) (first second : Bytes) :
    hasher.update (first ++ second) = (hasher.update first).update second :=
  List.foldl_append

/-- What ends a message of `length` bytes: a set bit, zeros, and the length in bits, up to the end
of a block. -/
def padding (length : Nat) : Bytes :=
  0x80 :: (List.replicate ((119 - length % blockLength) % blockLength) 0 ++
    Bytes.ofNatBE 8 (8 * length))

/-- The bytes of a chaining value. -/
def Chain.bytes (s : Chain) : Bytes :=
  [s.a, s.b, s.c, s.d, s.e, s.f, s.g, s.h].flatMap fun w => Bytes.ofNatBE 4 w.toNat

@[simp] theorem Chain.length_bytes (s : Chain) : s.bytes.length = digestLength := by
  simp [Chain.bytes, digestLength]

/-- The hash of all that was absorbed. -/
def digest (hasher : Sha256) : Bytes := (hasher.update (padding hasher.length)).chain.bytes

@[simp] theorem length_digest (hasher : Sha256) : hasher.digest.length = digestLength :=
  Chain.length_bytes _

/-- The hash of a message. -/
def hash (message : Bytes) : Bytes := (new.update message).digest

end Sha256

end KeyEnclave
