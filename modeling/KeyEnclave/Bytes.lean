/-!
# Byte strings

Byte strings and the words written in them. Everything the enclave stores or exchanges is a list of
bytes; words are little-endian in objects, records and flash, big-endian in cryptographic values.

## Main definitions

* `Bytes` — a byte string.
* `Bytes.ofNatLE`, `Bytes.toNatLE` — a number and its `n` little-endian bytes; `ofNatBE` and
  `toNatBE` are the same read from the other end.
* `Bytes.limit` — the number of values that `n` bytes have.
* `Bytes.word?` — the 32-bit word that starts a byte string.
* `Bytes.overwrite` — a buffer after bytes were copied to its front.
-/

namespace KeyEnclave

/-- A byte string. -/
abbrev Bytes := List UInt8

namespace Bytes

-- ═══════════════════════════════════════════════════════════════════════════
-- Numbers
-- ═══════════════════════════════════════════════════════════════════════════

/-- The `n` low bytes of `value`, least significant first. -/
def ofNatLE : Nat → Nat → Bytes
  | 0, _ => []
  | n + 1, value => UInt8.ofNat value :: ofNatLE n (value / 256)

/-- The number whose bytes, least significant first, are given. -/
def toNatLE : Bytes → Nat
  | [] => 0
  | b :: rest => b.toNat + 256 * toNatLE rest

/-- The `n` low bytes of `value`, most significant first. -/
def ofNatBE (n value : Nat) : Bytes := (ofNatLE n value).reverse

/-- The number whose bytes, most significant first, are given. -/
def toNatBE (bytes : Bytes) : Nat := toNatLE bytes.reverse

/-- The number of values that `n` bytes have. -/
def limit : Nat → Nat
  | 0 => 1
  | n + 1 => 256 * limit n

@[simp] theorem length_ofNatLE (n value : Nat) : (ofNatLE n value).length = n := by
  induction n generalizing value with
  | zero => rfl
  | succ n ih => simp [ofNatLE, ih]

@[simp] theorem length_ofNatBE (n value : Nat) : (ofNatBE n value).length = n := by
  simp [ofNatBE]

theorem toNatLE_ofNatLE (n value : Nat) : toNatLE (ofNatLE n value) = value % limit n := by
  induction n generalizing value with
  | zero => simp [ofNatLE, toNatLE, limit, Nat.mod_one]
  | succ n ih => rw [limit, Nat.mod_mul, ofNatLE, toNatLE, ih, UInt8.toNat_ofNat']

theorem toNatLE_lt (bytes : Bytes) : toNatLE bytes < limit bytes.length := by
  induction bytes with
  | nil => simp [toNatLE, limit]
  | cons b rest ih =>
    have := b.toNat_lt
    simp only [toNatLE, List.length_cons, limit]
    omega

theorem ofNatLE_toNatLE (bytes : Bytes) : ofNatLE bytes.length (toNatLE bytes) = bytes := by
  induction bytes with
  | nil => rfl
  | cons b rest ih =>
    have hb := b.toNat_lt
    have hq : (b.toNat + 256 * toNatLE rest) / 256 = toNatLE rest := by omega
    have hr : UInt8.ofNat (b.toNat + 256 * toNatLE rest) = b := by
      apply UInt8.toNat_inj.mp
      rw [UInt8.toNat_ofNat']
      omega
    simp only [List.length_cons, ofNatLE, toNatLE, hq, hr, ih]

-- ═══════════════════════════════════════════════════════════════════════════
-- Words
-- ═══════════════════════════════════════════════════════════════════════════

/-- The four bytes of a word, least significant first. -/
def ofWord (word : UInt32) : Bytes := ofNatLE 4 word.toNat

/-- The word that starts `bytes`, if there are four bytes. -/
def word? (bytes : Bytes) : Option UInt32 :=
  if 4 ≤ bytes.length then some (UInt32.ofNat (toNatLE (bytes.take 4))) else none

/-- The word that is the whole of `bytes`. -/
def asWord? (bytes : Bytes) : Option UInt32 :=
  if bytes.length = 4 then some (UInt32.ofNat (toNatLE bytes)) else none

@[simp] theorem length_ofWord (word : UInt32) : (ofWord word).length = 4 := by simp [ofWord]

@[simp] theorem word?_ofWord_append (word : UInt32) (rest : Bytes) :
    word? (ofWord word ++ rest) = some word := by
  have htake : (ofWord word ++ rest).take 4 = ofWord word := by simp
  have hval : toNatLE (ofWord word) = word.toNat := by
    rw [ofWord, toNatLE_ofNatLE]
    exact Nat.mod_eq_of_lt word.toNat_lt
  simp [word?, htake, hval]

-- ═══════════════════════════════════════════════════════════════════════════
-- Buffers
-- ═══════════════════════════════════════════════════════════════════════════

/-- `buffer` after `written` was copied to its front; a longer `written` is cut. -/
def overwrite (buffer written : Bytes) : Bytes :=
  written.take buffer.length ++ buffer.drop written.length

@[simp] theorem length_overwrite (buffer written : Bytes) :
    (overwrite buffer written).length = buffer.length := by
  simp only [overwrite, List.length_append, List.length_take, List.length_drop]
  omega

end Bytes

end KeyEnclave
