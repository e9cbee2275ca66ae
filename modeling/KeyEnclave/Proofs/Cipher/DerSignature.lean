import KeyEnclave.Cipher.DerSignature
import Mathlib.Data.Nat.Size
import Mathlib.Tactic.Ring

/-!
# The two forms of a signature

A signature of 64 bytes is raw. Any other one has to be the DER encoding of its two components, of
which there is only one: lengths and integers have no spare byte, an integer is not negative, and
nothing follows the second one.

## Main definitions

* `DerSignature.lengthBytes`, `DerSignature.integerBytes` — a length and an integer in DER.
* `DerSignature.encode` — the sequence of two integers.
* `DerSignature.IsInteger` — the content of a non-negative integer without a spare byte.

## Main results

* `DerSignature.isInteger_iff` — such a content is the only one for its number.
* `DerSignature.value?_eq_some` — a value is read exactly if it is written in DER.
* `DerSignature.component_eq_some` — an integer is read exactly if it fits 32 bytes.
* `DerSignature.signature_has_two_forms` — what is accepted, and as which components.
-/

namespace KeyEnclave

-- ═══════════════════════════════════════════════════════════════════════════
-- Numbers and their bits
-- ═══════════════════════════════════════════════════════════════════════════

namespace Bytes

theorem limit_eq (n : Nat) : limit n = 2 ^ (8 * n) := by
  induction n with
  | zero => rfl
  | succ n ih =>
    rw [limit, ih]
    ring

theorem toNatLE_append (front rest : Bytes) :
    toNatLE (front ++ rest) = toNatLE front + 2 ^ (8 * front.length) * toNatLE rest := by
  induction front with
  | nil => simp [toNatLE]
  | cons b front ih =>
    simp only [List.cons_append, toNatLE, ih, List.length_cons]
    ring

theorem toNatBE_cons (b : UInt8) (rest : Bytes) :
    toNatBE (b :: rest) = b.toNat * 2 ^ (8 * rest.length) + toNatBE rest := by
  simp only [toNatBE, List.reverse_cons, toNatLE_append, toNatLE, List.length_reverse]
  ring

theorem toNatBE_lt (bytes : Bytes) : toNatBE bytes < 2 ^ (8 * bytes.length) := by
  have hlt := toNatLE_lt bytes.reverse
  rwa [limit_eq, List.length_reverse] at hlt

theorem ofNatBE_toNatBE (bytes : Bytes) : ofNatBE bytes.length (toNatBE bytes) = bytes := by
  have hle := ofNatLE_toNatLE bytes.reverse
  rw [List.length_reverse] at hle
  rw [ofNatBE, toNatBE, hle, List.reverse_reverse]

theorem toNatBE_ofNatBE {n value : Nat} (h : value < 2 ^ (8 * n)) :
    toNatBE (ofNatBE n value) = value := by
  rw [toNatBE, ofNatBE, List.reverse_reverse, toNatLE_ofNatLE, limit_eq, Nat.mod_eq_of_lt h]

theorem toNatBE_replicate_append (n : Nat) (bytes : Bytes) :
    toNatBE (List.replicate n 0 ++ bytes) = toNatBE bytes := by
  induction n with
  | zero => rfl
  | succ n ih => simp [List.replicate_succ, toNatBE_cons, ih]

/-- The leading byte is what is left of a number without the bytes after it. -/
theorem toNatBE_cons_div (b : UInt8) (rest : Bytes) :
    toNatBE (b :: rest) / 2 ^ (8 * rest.length) = b.toNat := by
  rw [toNatBE_cons, Nat.mul_comm, Nat.mul_add_div (Nat.two_pow_pos _),
    Nat.div_eq_of_lt (toNatBE_lt rest), Nat.add_zero]

end Bytes

namespace DerSignature

open Bytes

-- ═══════════════════════════════════════════════════════════════════════════
-- The encoding
-- ═══════════════════════════════════════════════════════════════════════════

/-- The number of bytes that the bits of a number take. -/
def byteCount (n : Nat) : Nat := (n.size + 7) / 8

/-- A length: one byte below 128, or else the number of its bytes, with the top bit set, and then
its bytes. -/
def lengthBytes (length : Nat) : Bytes :=
  if length < 0x80 then [UInt8.ofNat length]
  else UInt8.ofNat (0x80 + byteCount length) :: ofNatBE (byteCount length) length

/-- A non-negative integer: as many bytes as its bits and a sign bit take. -/
def integerBytes (n : Nat) : Bytes := ofNatBE (n.size / 8 + 1) n

/-- A content with its tag and its length. -/
def tagged (tag : UInt8) (content : Bytes) : Bytes :=
  tag :: (lengthBytes content.length ++ content)

/-- The sequence of two non-negative integers. -/
def encode (r s : Nat) : Bytes :=
  tagged 0x30 (tagged 0x02 (integerBytes r) ++ tagged 0x02 (integerBytes s))

/-- The content of a non-negative integer without a spare byte: its first bit is clear, and its
first nine bits are not. -/
def IsInteger : Bytes → Prop
  | [] => False
  | [b] => b.toNat < 0x80
  | b :: c :: _ => b.toNat < 0x80 ∧ ¬(b.toNat = 0 ∧ c.toNat < 0x80)

-- ═══════════════════════════════════════════════════════════════════════════
-- Lengths
-- ═══════════════════════════════════════════════════════════════════════════

variable {bytes content rest : Bytes} {n length : Nat} {tag : UInt8}

theorem byteCount_le_iff {n k : Nat} : byteCount n ≤ k ↔ n < 2 ^ (8 * k) := by
  rw [← Nat.size_le, byteCount]
  omega

theorem lt_two_pow_byteCount (n : Nat) : n < 2 ^ (8 * byteCount n) :=
  byteCount_le_iff.mp (Nat.le_refl _)

/-- A number has a byte for every eight of its bits exactly if its first byte is not zero. -/
theorem length_eq_byteCount_iff (b : UInt8) (rest : Bytes) :
    (b :: rest).length = byteCount (toNatBE (b :: rest)) ↔ b ≠ 0 := by
  have hupper : byteCount (toNatBE (b :: rest)) ≤ (b :: rest).length :=
    byteCount_le_iff.mpr (toNatBE_lt (b :: rest))
  have hlower : rest.length < byteCount (toNatBE (b :: rest)) ↔ 0 < b.toNat := by
    rw [← toNatBE_cons_div b rest, Nat.div_pos_iff, ← Nat.not_le, byteCount_le_iff, Nat.not_lt]
    simp
  have hzero : b ≠ 0 ↔ 0 < b.toNat := by
    rw [Nat.pos_iff_ne_zero, ne_eq, ne_eq, ← UInt8.toNat_inj]
    rfl
  rw [List.length_cons] at hupper ⊢
  rw [hzero, ← hlower]
  omega

/-- Without a leading zero a positive number is written in just the bytes that its bits take. -/
theorem eq_ofNatBE_byteCount_iff {digits : Bytes} (hn : 0 < n) :
    digits = ofNatBE (byteCount n) n ↔ toNatBE digits = n ∧ digits.head? ≠ some 0 := by
  constructor
  · intro hdigits
    have hvalue : toNatBE digits = n := by
      rw [hdigits, toNatBE_ofNatBE (lt_two_pow_byteCount n)]
    refine ⟨hvalue, ?_⟩
    cases digits with
    | nil => simp
    | cons b digits =>
      have hlength : (b :: digits).length = byteCount n := by rw [hdigits, length_ofNatBE]
      have hlead := (length_eq_byteCount_iff b digits).mp (by rw [hvalue, hlength])
      simpa using hlead
  · rintro ⟨hvalue, hhead⟩
    cases digits with
    | nil =>
      rw [← hvalue] at hn
      exact absurd hn (by decide)
    | cons b digits =>
      have hlength := (length_eq_byteCount_iff b digits).mpr (by simpa using hhead)
      rw [hvalue] at hlength
      rw [← hlength, ← hvalue, ofNatBE_toNatBE]

theorem length?_of_lengthBytes (hlength : length < 2 ^ 32) :
    length? (lengthBytes length ++ rest) = some (length, rest) := by
  rw [lengthBytes]
  by_cases hshort : length < 0x80
  · have hbyte : (UInt8.ofNat length).toNat = length :=
      UInt8.toNat_ofNat_of_lt' (show length < 256 by omega)
    have hlt : UInt8.ofNat length < 0x80 := by
      rw [UInt8.lt_iff_toNat_lt, hbyte]
      exact hshort
    rw [if_pos hshort, List.singleton_append, length?, if_pos hlt, hbyte]
  · have hcount : byteCount length ≤ 4 := byteCount_le_iff.mpr hlength
    have hfirst : (UInt8.ofNat (0x80 + byteCount length)).toNat = 0x80 + byteCount length :=
      UInt8.toNat_ofNat_of_lt' (show 0x80 + byteCount length < 256 by omega)
    have hlong : ¬UInt8.ofNat (0x80 + byteCount length) < 0x80 := by
      rw [UInt8.lt_iff_toNat_lt, hfirst]
      exact Nat.not_lt.mpr (Nat.le_add_right 128 _)
    obtain ⟨hvalue, hhead⟩ := (eq_ofNatBE_byteCount_iff (n := length) (by omega)).mp rfl
    have hdigits := length_ofNatBE (byteCount length) length
    rw [if_neg hshort]
    generalize ofNatBE (byteCount length) length = digits at hvalue hhead hdigits ⊢
    rw [← hdigits] at hcount hfirst hlong ⊢
    have hthere : ¬(digits ++ rest).length < digits.length := by
      rw [List.length_append]
      omega
    rw [List.cons_append, length?, if_neg hlong]
    simp only [hfirst, Nat.add_sub_cancel_left, List.take_left, List.drop_left, hvalue, hhead,
      hshort, hthere, Nat.not_lt.mpr hcount, or_self, if_false]

theorem lengthBytes_of_length? (h : length? bytes = some (length, rest)) :
    length < 2 ^ 32 ∧ bytes = lengthBytes length ++ rest := by
  cases bytes with
  | nil => cases h
  | cons first others =>
    rw [length?] at h
    by_cases hshort : first < 0x80
    · rw [if_pos hshort] at h
      obtain ⟨rfl, rfl⟩ := Prod.mk.inj (Option.some.inj h)
      have hlt : first.toNat < 0x80 := UInt8.lt_iff_toNat_lt.mp hshort
      rw [lengthBytes, if_pos hlt, UInt8.ofNat_toNat]
      exact ⟨by omega, rfl⟩
    · have hfirst : 0x80 ≤ first.toNat := UInt8.le_iff_toNat_le.mp (UInt8.not_lt.mp hshort)
      simp only [if_neg hshort, Option.ite_none_left_eq_some, not_or, Nat.not_lt] at h
      obtain ⟨⟨hfour, hthere⟩, ⟨hhead, hlarge⟩, hsome⟩ := h
      obtain ⟨hlength, rfl⟩ := Prod.mk.inj (Option.some.inj hsome)
      rw [hlength] at hlarge
      have hdigits := (eq_ofNatBE_byteCount_iff (by omega)).mpr ⟨hlength, hhead⟩
      have hcount : first.toNat - 0x80 = byteCount length := by
        have := congrArg List.length hdigits
        rwa [List.length_take_of_le hthere, length_ofNatBE] at this
      have hbyte : UInt8.ofNat (0x80 + byteCount length) = first := by
        rw [← hcount, Nat.add_sub_cancel' hfirst, UInt8.ofNat_toNat]
      constructor
      · exact byteCount_le_iff.mp (show byteCount length ≤ 4 by omega)
      · rw [lengthBytes, if_neg (by omega), hbyte, ← hdigits, List.cons_append,
          List.take_append_drop]

/-- A length is read exactly if it is written in DER and fits four bytes. -/
theorem length?_eq_some : length? bytes = some (length, rest) ↔
    length < 2 ^ 32 ∧ bytes = lengthBytes length ++ rest := by
  constructor
  · exact lengthBytes_of_length?
  · rintro ⟨hlength, rfl⟩
    exact length?_of_lengthBytes hlength

/-- A value is read exactly if it is written in DER, up to its end. -/
theorem value?_eq_some : value? tag bytes = some (content, rest) ↔
    content.length < 2 ^ 32 ∧ bytes = tagged tag content ++ rest := by
  constructor
  · intro h
    cases bytes with
    | nil => cases h
    | cons t others =>
      simp only [value?, Option.bind_eq_bind, ne_eq, Option.bind_none,
        Option.ite_none_left_eq_some, Option.bind_eq_some_iff, Decidable.not_not, Nat.not_lt] at h
      obtain ⟨rfl, ⟨length, after⟩, hlength, hthere, hsome⟩ := h
      obtain ⟨rfl, rfl⟩ := Prod.mk.inj (Option.some.inj hsome)
      obtain ⟨hlt, rfl⟩ := length?_eq_some.mp hlength
      have htake : (after.take length).length = length := List.length_take_of_le hthere
      refine ⟨by rwa [htake], ?_⟩
      rw [tagged, htake, List.cons_append, List.append_assoc, List.take_append_drop]
  · rintro ⟨hlength, rfl⟩
    have hthere : ¬(content ++ rest).length < content.length := by
      rw [List.length_append]
      omega
    rw [tagged, List.cons_append, List.append_assoc, value?]
    simp only [length?_eq_some.mpr ⟨hlength, rfl⟩, ne_eq, not_true_eq_false, if_false, hthere,
      Option.bind_eq_bind, Option.bind_some, List.take_left, List.drop_left]
    rfl

theorem length_tagged_of_short (hshort : content.length < 0x80) :
    (tagged tag content).length = content.length + 2 := by
  rw [tagged, lengthBytes, if_pos hshort, List.length_cons, List.length_append,
    List.length_singleton]
  omega

-- ═══════════════════════════════════════════════════════════════════════════
-- Integers
-- ═══════════════════════════════════════════════════════════════════════════

/-- A content without a spare byte has just the bytes that the bits of its number and a sign bit
take. -/
theorem isInteger_iff : IsInteger content ↔ content.length = (toNatBE content).size / 8 + 1 := by
  match content with
  | [] => simp [IsInteger]
  | [b] =>
    have hbyte : toNatBE [b] = b.toNat := by simp [toNatBE, toNatLE]
    have hbits : b.toNat < 0x80 ↔ b.toNat.size ≤ 7 := by rw [Nat.size_le]
    rw [IsInteger, hbyte, hbits, List.length_singleton]
    omega
  | b :: c :: digits =>
    have hlead : toNatBE (b :: c :: digits) / 2 ^ (8 * digits.length) =
        256 * b.toNat + c.toNat := by
      have hpower : 2 ^ (8 * (c :: digits).length) = 256 * 2 ^ (8 * digits.length) := by
        rw [List.length_cons, Nat.mul_succ, Nat.pow_add, Nat.mul_comm]
      have hsplit : toNatBE (b :: c :: digits) =
          2 ^ (8 * digits.length) * (256 * b.toNat + c.toNat) + toNatBE digits := by
        rw [toNatBE_cons, toNatBE_cons, hpower]
        ring
      rw [hsplit, Nat.mul_add_div (Nat.two_pow_pos _), Nat.div_eq_of_lt (toNatBE_lt digits),
        Nat.add_zero]
    have hlower : 8 * digits.length + 7 < (toNatBE (b :: c :: digits)).size ↔
        0x80 ≤ 256 * b.toNat + c.toNat := by
      rw [Nat.lt_size, ← hlead, Nat.le_div_iff_mul_le (Nat.two_pow_pos _), Nat.pow_add,
        Nat.mul_comm]
    have hupper : (toNatBE (b :: c :: digits)).size ≤ 8 * digits.length + 15 ↔
        256 * b.toNat + c.toNat < 0x8000 := by
      rw [Nat.size_le, ← hlead, Nat.div_lt_iff_lt_mul (Nat.two_pow_pos _), Nat.pow_add,
        Nat.mul_comm]
    have hb := b.toNat_lt
    have hc := c.toNat_lt
    simp only [IsInteger, List.length_cons]
    omega

/-- It is the only content of its number. -/
theorem isInteger_iff_eq : IsInteger content ↔ content = integerBytes (toNatBE content) := by
  rw [isInteger_iff]
  constructor
  · intro hlength
    rw [integerBytes, ← hlength, ofNatBE_toNatBE]
  · intro hcontent
    have hlength := congrArg List.length hcontent
    rwa [integerBytes, length_ofNatBE] at hlength

theorem toNatBE_integerBytes (n : Nat) : toNatBE (integerBytes n) = n := by
  apply toNatBE_ofNatBE
  rw [← Nat.size_le]
  omega

theorem isInteger_integerBytes (n : Nat) : IsInteger (integerBytes n) := by
  rw [isInteger_iff_eq, toNatBE_integerBytes]

theorem length_integerBytes_le (hn : n < 2 ^ 256) : (integerBytes n).length ≤ 33 := by
  have hsize := Nat.size_le.mpr hn
  rw [integerBytes, length_ofNatBE]
  omega

/-- The bytes of a number without its sign; zero has one as well. -/
def magnitudeBytes (n : Nat) : Bytes := ofNatBE (max 1 (byteCount n)) n

theorem toNatBE_magnitudeBytes (n : Nat) : toNatBE (magnitudeBytes n) = n :=
  toNatBE_ofNatBE (byteCount_le_iff.mp (Nat.le_max_right 1 (byteCount n)))

theorem length_magnitudeBytes_le_iff (n : Nat) :
    (magnitudeBytes n).length ≤ 32 ↔ n < 2 ^ 256 := by
  have hfits : byteCount n ≤ 32 ↔ n < 2 ^ 256 := byteCount_le_iff
  rw [magnitudeBytes, length_ofNatBE, ← hfits]
  omega

theorem eq_magnitudeBytes {b : UInt8} (hlead : b ≠ 0 ∨ rest = []) :
    b :: rest = magnitudeBytes (toNatBE (b :: rest)) := by
  have hlength : max 1 (byteCount (toNatBE (b :: rest))) = (b :: rest).length := by
    rcases hlead with hlead | rfl
    · rw [← (length_eq_byteCount_iff b rest).mpr hlead, List.length_cons]
      omega
    · have hone : byteCount (toNatBE [b]) ≤ 1 := byteCount_le_iff.mpr (toNatBE_lt [b])
      rw [List.length_singleton]
      omega
  rw [magnitudeBytes, hlength, ofNatBE_toNatBE]

/-- What is read of the content of an integer is its number; only the sign is left out. -/
theorem magnitude?_eq_some {magnitude : Bytes} : magnitude? content = some magnitude ↔
    IsInteger content ∧ magnitude = magnitudeBytes (toNatBE content) := by
  match content with
  | [] => simp [magnitude?, IsInteger]
  | [b] =>
    rw [magnitude?, IsInteger, Option.ite_none_right_eq_some, Option.some.injEq,
      UInt8.lt_iff_toNat_lt, ← eq_magnitudeBytes (.inr rfl), eq_comm]
    rfl
  | b :: c :: digits =>
    rw [magnitude?]
    by_cases hzero : b = 0
    · subst hzero
      have hvalue : toNatBE (0 :: c :: digits) = toNatBE (c :: digits) :=
        toNatBE_replicate_append 1 (c :: digits)
      have hsign : IsInteger (0 :: c :: digits) ↔ 0x80 ≤ c := by
        simp [IsInteger, UInt8.le_iff_toNat_le]
      rw [if_pos rfl, Option.ite_none_right_eq_some, Option.some.injEq, hsign, hvalue]
      refine and_congr_right fun hlarge => ?_
      have hlead : c ≠ 0 := by
        rintro rfl
        exact absurd hlarge (by decide)
      rw [← eq_magnitudeBytes (.inl hlead), eq_comm]
    · have hpos : b.toNat ≠ 0 := fun h => hzero (UInt8.toNat_inj.mp h)
      have hsign : IsInteger (b :: c :: digits) ↔ b < 0x80 := by
        simp [IsInteger, UInt8.lt_iff_toNat_lt, hpos]
      rw [if_neg hzero, Option.ite_none_right_eq_some, Option.some.injEq, hsign,
        ← eq_magnitudeBytes (.inl hzero), eq_comm]

/-- A magnitude that fits is padded to 32 bytes. -/
theorem component?_eq_some {magnitude field : Bytes} : component? magnitude = some field ↔
    magnitude.length ≤ 32 ∧ field = ofNatBE 32 (toNatBE magnitude) := by
  rw [component?, Option.ite_none_left_eq_some, Nat.not_lt]
  refine and_congr_right fun hfits => ?_
  have hlength : (List.replicate (32 - magnitude.length) 0 ++ magnitude : Bytes).length = 32 := by
    rw [List.length_append, List.length_replicate]
    exact Nat.sub_add_cancel hfits
  have hpadded := ofNatBE_toNatBE (List.replicate (32 - magnitude.length) 0 ++ magnitude)
  rw [hlength, toNatBE_replicate_append] at hpadded
  rw [hpadded, Option.some.injEq, eq_comm]
  rfl

/-- An integer that fits a component is read exactly if it is written in DER. -/
theorem component_eq_some {field : Bytes} :
    (∃ magnitude, integer? bytes = some (magnitude, rest) ∧ component? magnitude = some field) ↔
      ∃ n, n < 2 ^ 256 ∧ bytes = tagged 0x02 (integerBytes n) ++ rest ∧ field = ofNatBE 32 n := by
  simp only [integer?, Option.bind_eq_bind, Option.bind_eq_some_iff, component?_eq_some]
  constructor
  · rintro ⟨magnitude, ⟨⟨content, after⟩, hvalue, found, hmagnitude, hsome⟩, hfits, rfl⟩
    obtain ⟨rfl, rfl⟩ := Prod.mk.inj (Option.some.inj hsome)
    obtain ⟨hinteger, rfl⟩ := magnitude?_eq_some.mp hmagnitude
    refine ⟨toNatBE content, (length_magnitudeBytes_le_iff _).mp hfits, ?_, ?_⟩
    · rw [← isInteger_iff_eq.mp hinteger]
      exact (value?_eq_some.mp hvalue).2
    · rw [toNatBE_magnitudeBytes]
  · rintro ⟨n, hn, rfl, rfl⟩
    refine ⟨magnitudeBytes n, ⟨(integerBytes n, rest), ?_, magnitudeBytes n, ?_, rfl⟩, ?_, ?_⟩
    · refine value?_eq_some.mpr ⟨?_, rfl⟩
      exact Nat.lt_of_le_of_lt (length_integerBytes_le hn) (by decide)
    · exact magnitude?_eq_some.mpr ⟨isInteger_integerBytes n, by rw [toNatBE_integerBytes]⟩
    · exact (length_magnitudeBytes_le_iff n).mpr hn
    · rw [toNatBE_magnitudeBytes]

/-- A sequence is decoded exactly if it is the encoding of two integers of 32 bytes. -/
theorem decode_eq_some {raw : Bytes} : decode bytes = some raw ↔
    ∃ r s, r < 2 ^ 256 ∧ s < 2 ^ 256 ∧ bytes = encode r s ∧
      raw = ofNatBE 32 r ++ ofNatBE 32 s := by
  simp only [decode, Option.bind_eq_bind, ne_eq, Option.bind_none, Option.ite_none_left_eq_some,
    Option.bind_eq_some_iff, Decidable.not_not]
  constructor
  · rintro ⟨⟨body, after⟩, hbody, rfl, ⟨magnitudeR, afterR⟩, hreadR, ⟨magnitudeS, afterS⟩, hreadS,
      rfl, fieldR, hfieldR, fieldS, hfieldS, hraw⟩
    obtain ⟨r, hr, rfl, rfl⟩ := component_eq_some.mp ⟨magnitudeR, hreadR, hfieldR⟩
    obtain ⟨s, hs, rfl, rfl⟩ := component_eq_some.mp ⟨magnitudeS, hreadS, hfieldS⟩
    refine ⟨r, s, hr, hs, ?_, (Option.some.inj hraw).symm⟩
    have hbytes := (value?_eq_some.mp hbody).2
    rwa [List.append_nil, List.append_nil] at hbytes
  · rintro ⟨r, s, hr, hs, rfl, rfl⟩
    obtain ⟨magnitudeR, hreadR, hfieldR⟩ := component_eq_some.mpr
      ⟨r, hr, @rfl _ (tagged 0x02 (integerBytes r) ++ tagged 0x02 (integerBytes s)), rfl⟩
    obtain ⟨magnitudeS, hreadS, hfieldS⟩ := component_eq_some.mpr
      ⟨s, hs, (List.append_nil (tagged 0x02 (integerBytes s))).symm, rfl⟩
    have hlengthR := length_integerBytes_le hr
    have hlengthS := length_integerBytes_le hs
    have hbody : value? sequenceTag (encode r s) =
        some (tagged 0x02 (integerBytes r) ++ tagged 0x02 (integerBytes s), []) := by
      refine value?_eq_some.mpr ⟨?_, (List.append_nil _).symm⟩
      rw [List.length_append, length_tagged_of_short (by omega), length_tagged_of_short (by omega)]
      omega
    exact ⟨_, hbody, rfl, _, hreadR, _, hreadS, rfl, _, hfieldR, _, hfieldS, rfl⟩

/-- The components of a raw signature are read off its halves. -/
theorem toNatBE_halves {r s : Nat} (hr : r < 2 ^ 256) (hs : s < 2 ^ 256) :
    toNatBE ((ofNatBE 32 r ++ ofNatBE 32 s).take 32) = r ∧
      toNatBE ((ofNatBE 32 r ++ ofNatBE 32 s).drop 32) = s := by
  rw [List.take_left' (length_ofNatBE 32 r), List.drop_left' (length_ofNatBE 32 r)]
  exact ⟨toNatBE_ofNatBE hr, toNatBE_ofNatBE hs⟩

/-- A signature of 64 bytes is raw, and any other one is accepted exactly if it is the DER encoding
of two integers below 2 ^ 256, its components. So every encoding but those of 64 bytes is decoded to
what was encoded, and no other byte string is decoded to the same. -/
theorem signature_has_two_forms :
    (∀ bytes raw, rawSignature? bytes = some raw ↔
      bytes.length = 64 ∧ raw = bytes ∨
        bytes.length ≠ 64 ∧ ∃ r s, r < 2 ^ 256 ∧ s < 2 ^ 256 ∧ bytes = encode r s ∧
          raw = ofNatBE 32 r ++ ofNatBE 32 s) ∧
    (∀ r s, r < 2 ^ 256 → s < 2 ^ 256 → (encode r s).length ≠ 64 →
      ∃ raw, rawSignature? (encode r s) = some raw ∧ raw.length = 64 ∧
        toNatBE (raw.take 32) = r ∧ toNatBE (raw.drop 32) = s) ∧
    ∀ bytes bytes' raw, bytes.length ≠ 64 → bytes'.length ≠ 64 →
      rawSignature? bytes = some raw → rawSignature? bytes' = some raw → bytes = bytes' := by
  have hencoded {bytes : Bytes} (hlength : bytes.length ≠ 64) :
      rawSignature? bytes = decode bytes := if_neg hlength
  refine ⟨fun bytes raw => ?_, fun r s hr hs hlength => ?_, ?_⟩
  · by_cases hlength : bytes.length = 64
    · have hraw : rawSignature? bytes = some bytes := if_pos hlength
      rw [hraw, Option.some.injEq, eq_comm]
      simp [hlength]
    · rw [hencoded hlength, decode_eq_some]
      simp [hlength]
  · refine ⟨ofNatBE 32 r ++ ofNatBE 32 s, ?_, ?_, toNatBE_halves hr hs⟩
    · rw [hencoded hlength, decode_eq_some]
      exact ⟨r, s, hr, hs, rfl, rfl⟩
    · rw [List.length_append, length_ofNatBE, length_ofNatBE]
  · intro bytes bytes' raw hlength hlength' hraw hraw'
    rw [hencoded hlength, decode_eq_some] at hraw
    rw [hencoded hlength', decode_eq_some] at hraw'
    obtain ⟨r, s, hr, hs, rfl, rfl⟩ := hraw
    obtain ⟨r', s', hr', hs', rfl, hsame⟩ := hraw'
    have hhalves := toNatBE_halves hr hs
    rw [hsame, (toNatBE_halves hr' hs').1, (toNatBE_halves hr' hs').2] at hhalves
    rw [hhalves.1, hhalves.2]

/-- Zero and the greatest component, which takes 33 bytes for its sign. -/
theorem greatest_component_is_decoded :
    let greatest := 2 ^ 256 - 1
    (encode 0 greatest).length = 40 ∧
      encode 0 greatest = [0x30, 0x26, 0x02, 0x01, 0x00, 0x02, 0x21, 0x00] ++
        List.replicate 32 0xFF ∧
      rawSignature? (encode 0 greatest) =
        some (List.replicate 32 0x00 ++ List.replicate 32 0xFF) := by
  intro greatest
  have hlength : (encode 0 greatest).length = 40 := by decide +kernel
  refine ⟨hlength, by decide +kernel, ?_⟩
  rw [(signature_has_two_forms.1 _ _).mpr (.inr ⟨by omega, 0, greatest, by decide, by decide, rfl,
    rfl⟩)]
  decide +kernel

end DerSignature

end KeyEnclave
