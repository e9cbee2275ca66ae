import KeyEnclave.Store.Basic
import Mathlib.Algebra.Group.Nat.Defs

/-!
# Records read back

What a codec writes it reads again, whatever follows. The property is passed on by the combinators
that records are built with, so a record is read back because its fields are.

## Main definitions

* `Codec.ReadsBack` — the values of a codec that satisfy a property are read back.

## Main results

* `Varint.decode_encode` — numbers of 64 bits are read back.
* `StorageRecord.decode_encode` — so are the records of stored objects.
* `ObjectStore.objectOfRecord_recordOf` — a sound object is found in its own record.
* `ObjectStore.length_recordOf_le` — that record is short enough to be written.
-/

namespace KeyEnclave

namespace Varint

theorem decodeWithin_encode (budget : Nat) {value : Nat} (h : value < 128 ^ (budget + 1))
    (rest : Bytes) :
    decodeWithin (budget + 1) (encode value ++ rest) = .ok (value, rest) := by
  induction budget generalizing value with
  | zero =>
    rw [Nat.zero_add, pow_one] at h
    have hbyte : (UInt8.ofNat value).toNat = value :=
      UInt8.toNat_ofNat_of_lt' (by unfold UInt8.size; omega)
    have hlow : UInt8.ofNat value < 128 := by
      rw [UInt8.lt_iff_toNat_lt, hbyte]
      exact h
    rw [encode, if_pos h]
    simp only [List.cons_append, List.nil_append, decodeWithin, if_pos hlow, hbyte]
  | succ budget ih =>
    rw [encode]
    split
    · next hsmall =>
      have hbyte : (UInt8.ofNat value).toNat = value :=
        UInt8.toNat_ofNat_of_lt' (by unfold UInt8.size; omega)
      have hlow : UInt8.ofNat value < 128 := by
        rw [UInt8.lt_iff_toNat_lt, hbyte]
        exact hsmall
      simp only [List.cons_append, List.nil_append, decodeWithin, if_pos hlow, hbyte]
    · next hlarge =>
      have hbyte : (UInt8.ofNat (value % 128 + 128)).toNat = value % 128 + 128 :=
        UInt8.toNat_ofNat_of_lt' (by unfold UInt8.size; omega)
      have hhigh : ¬UInt8.ofNat (value % 128 + 128) < 128 := by
        rw [UInt8.lt_iff_toNat_lt, hbyte]
        exact Nat.not_lt.mpr (Nat.le_add_left ..)
      rw [pow_succ] at h
      have hrest := ih (Nat.div_lt_of_lt_mul (by omega : value < 128 * _))
      have hvalue : value % 128 + 128 - 128 + 128 * (value / 128) = value := by omega
      simp only [List.cons_append, decodeWithin, if_neg hhigh, hrest, bind, Except.bind, pure,
        Except.pure, hbyte, hvalue]

theorem decode_encode {value : Nat} (h : value < UInt64.size) (rest : Bytes) :
    decode (encode value ++ rest) = .ok (value, rest) := by
  have hwithin : value < 128 ^ (9 + 1) := Nat.lt_trans h (by decide)
  unfold decode maxLength
  rw [decodeWithin_encode 9 hwithin]
  simp only [bind, Except.bind, pure, Except.pure, Nat.mod_eq_of_lt h]

theorem length_encode_le (budget : Nat) {value : Nat} (h : value < 128 ^ (budget + 1)) :
    (encode value).length ≤ budget + 1 := by
  induction budget generalizing value with
  | zero =>
    rw [Nat.zero_add, pow_one] at h
    rw [encode, if_pos h]
    exact Nat.le_refl 1
  | succ budget ih =>
    rw [encode]
    split
    · exact Nat.succ_le_succ (Nat.zero_le _)
    · rw [pow_succ] at h
      exact Nat.succ_le_succ (ih (Nat.div_lt_of_lt_mul (by omega)))

end Varint

namespace Codec

variable {α β : Type} {codec : Codec α} {other : Codec β} {p : α → Prop} {q : β → Prop}

/-- The values with `p` are read back from what is written for them. -/
def ReadsBack (codec : Codec α) (p : α → Prop) : Prop :=
  ∀ value, p value → ∀ rest, codec.decode (codec.encode value ++ rest) = .ok (value, rest)

theorem ReadsBack.pair (h : codec.ReadsBack p) (hother : other.ReadsBack q) :
    (codec.pair other).ReadsBack fun value => p value.1 ∧ q value.2 := by
  rintro ⟨a, b⟩ ⟨ha, hb⟩ rest
  simp only [Codec.pair, List.append_assoc, h a ha, hother b hb, bind, Except.bind, pure,
    Except.pure]

theorem ReadsBack.imap (h : codec.ReadsBack p) {pack : α → β} {unpack : β → α}
    (hpack : ∀ b, pack (unpack b) = b) (hp : ∀ b, q b → p (unpack b)) :
    (codec.imap pack unpack).ReadsBack q := by
  intro b hb rest
  simp only [Codec.imap, h _ (hp b hb), hpack, bind, Except.bind, pure, Except.pure]

theorem take_append (front rest : Bytes) : take front.length (front ++ rest) = .ok (front, rest) := by
  simp [take]

theorem fixedWidth_readsBack (n : Nat) : (fixedWidth n).ReadsBack (· < Bytes.limit n) := by
  intro value hvalue rest
  have htake : take n (Bytes.ofNatLE n value ++ rest) = .ok (Bytes.ofNatLE n value, rest) := by
    have := take_append (Bytes.ofNatLE n value) rest
    rwa [Bytes.length_ofNatLE] at this
  simp only [fixedWidth, htake, bind, Except.bind, pure, Except.pure, Bytes.toNatLE_ofNatLE,
    Nat.mod_eq_of_lt hvalue]

theorem u8_readsBack : u8.ReadsBack fun _ => True :=
  (fixedWidth_readsBack 1).imap (fun _ => UInt8.ofNat_toNat) fun b _ => b.toNat_lt

theorem u32_readsBack : u32.ReadsBack fun _ => True :=
  (fixedWidth_readsBack 4).imap (fun _ => UInt32.ofNat_toNat) fun b _ => b.toNat_lt

theorem bytes_readsBack : bytes.ReadsBack fun value => value.length < UInt64.size := by
  intro value hvalue rest
  simp only [bytes, List.append_assoc, Varint.decode_encode hvalue, bind, Except.bind]
  exact take_append value rest

end Codec

/-- A record is read back, whatever follows it. -/
theorem StorageRecord.decode_encode (record : StorageRecord)
    (hlength : record.blob.length < UInt64.size) (rest : Bytes) :
    StorageRecord.codec.decode (StorageRecord.codec.encode record ++ rest) = .ok (record, rest) :=
  Codec.ReadsBack.imap (Codec.u8_readsBack.pair (Codec.u32_readsBack.pair Codec.bytes_readsBack))
    (fun _ => rfl) (fun _ h => ⟨trivial, trivial, h⟩) record hlength rest

namespace ObjectStore

variable {object : StoredObject}

/-- A sound object is found in its own record. -/
theorem objectOfRecord_recordOf (hlength : object.blob.length ≤ Limits.objectLength)
    (hnamed : (ObjectView.parse? object.blob).map ObjectView.handle = some object.handle) :
    objectOfRecord object.handle (recordOf object) = .ok (some object) := by
  have hdecode := StorageRecord.decode_encode ⟨recordVersion, object.handle, object.blob⟩
    (Nat.lt_of_le_of_lt hlength (by decide)) []
  rw [List.append_nil] at hdecode
  simp only [objectOfRecord, recordOf, hdecode, hnamed, Nat.not_lt.mpr hlength, ne_eq,
    not_true_eq_false, or_self, if_false]

theorem length_recordOf (object : StoredObject) : (recordOf object).length =
    1 + (4 + ((Varint.encode object.blob.length).length + object.blob.length)) := by
  simp [recordOf, StorageRecord.codec, Codec.imap, Codec.pair, Codec.u8, Codec.u32, Codec.bytes,
    Codec.fixedWidth]

/-- The record of a sound object is short enough to be written. -/
theorem length_recordOf_le (hlength : object.blob.length ≤ Limits.objectLength) :
    (recordOf object).length ≤ recordRoom := by
  have hvarint : (Varint.encode object.blob.length).length ≤ 2 :=
    Varint.length_encode_le 1 (Nat.lt_of_le_of_lt hlength (by decide))
  rw [length_recordOf]
  unfold recordRoom
  omega

end ObjectStore

end KeyEnclave
