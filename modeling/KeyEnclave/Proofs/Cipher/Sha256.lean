import KeyEnclave.Cipher.Sha256

/-!
# SHA-256 block by block

A hasher takes bytes as they come and keeps the ones that fill no block yet. The hash is defined
over whole blocks: the message is padded, cut, and compressed block by block. Both are the same.

## Main definitions

* `Sha256.blocks` — the blocks that bytes fill, in order.
* `Sha256.padded` — a message with its padding.
* `Sha256.ofBlocks` — the hash of a message, computed block by block.

## Main results

* `Sha256.length_padded_mod` — the padding fills the last block.
* `Sha256.hash_eq_ofBlocks` — a hasher computes the same hash.
-/

namespace KeyEnclave.Sha256

/-- The blocks that `data` fills, in order; a rest that fills none is left out. -/
def blocks (data : Bytes) : List Bytes :=
  (List.range (data.length / blockLength)).map fun i =>
    (data.drop (i * blockLength)).take blockLength

/-- A message with its padding. -/
def padded (message : Bytes) : Bytes := message ++ padding message.length

/-- The hash of a message: every block of the padded message is compressed into the chaining
value. -/
def ofBlocks (message : Bytes) : Bytes :=
  ((blocks (padded message)).foldl compress initialChain).bytes

-- ═══════════════════════════════════════════════════════════════════════════
-- Padding
-- ═══════════════════════════════════════════════════════════════════════════

theorem length_padding (length : Nat) :
    (padding length).length = 1 + (119 - length % blockLength) % blockLength + 8 := by
  simp only [padding, List.length_cons, List.length_append, List.length_replicate,
    Bytes.length_ofNatBE]
  omega

/-- The padding fills the last block, so that nothing of a padded message is left out. -/
theorem length_padded_mod (message : Bytes) : (padded message).length % blockLength = 0 := by
  rw [padded, List.length_append, length_padding, blockLength]
  omega

-- ═══════════════════════════════════════════════════════════════════════════
-- Blocks
-- ═══════════════════════════════════════════════════════════════════════════

/-- A block that comes after whole blocks is the last one. -/
theorem blocks_append {whole block : Bytes} (hwhole : whole.length % blockLength = 0)
    (hblock : block.length = blockLength) : blocks (whole ++ block) = blocks whole ++ [block] := by
  have hcount : (whole ++ block).length / blockLength = whole.length / blockLength + 1 := by
    rw [List.length_append, hblock, Nat.add_div_right _ (by decide)]
  have hstart : whole.length / blockLength * blockLength = whole.length :=
    Nat.div_mul_cancel (Nat.dvd_of_mod_eq_zero hwhole)
  have hlast : ((whole ++ block).drop whole.length).take blockLength = block := by
    rw [List.drop_left, ← hblock, List.take_length]
  unfold blocks
  rw [hcount, List.range_succ, List.map_append, List.map_singleton, hstart, hlast]
  refine congrArg (· ++ [block]) (List.map_congr_left fun i hi => ?_)
  have hend : (i + 1) * blockLength ≤ whole.length :=
    hstart ▸ Nat.mul_le_mul_right blockLength (List.mem_range.mp hi)
  rw [Nat.succ_mul] at hend
  rw [List.drop_append_of_le_length (by omega), List.take_append_of_le_length]
  rw [List.length_drop]
  omega

-- ═══════════════════════════════════════════════════════════════════════════
-- Hashers
-- ═══════════════════════════════════════════════════════════════════════════

/-- A hasher that compressed the blocks of `whole` and keeps the bytes that came behind them. -/
structure Compressed (hasher : Sha256) (whole : Bytes) : Prop where
  chain_eq : hasher.chain = (blocks whole).foldl compress initialChain
  whole_mod : whole.length % blockLength = 0
  pending_lt : hasher.pending.length < blockLength
  length_eq : hasher.length = (whole ++ hasher.pending).length

variable {hasher : Sha256} {whole : Bytes}

theorem compressed_new : Compressed new [] := ⟨rfl, rfl, by decide, rfl⟩

/-- A byte is kept, or completes a block that is compressed. -/
theorem Compressed.absorb (h : Compressed hasher whole) (b : UInt8) :
    ∃ longer, Compressed (hasher.absorb b) longer ∧
      longer ++ (hasher.absorb b).pending = whole ++ hasher.pending ++ [b] := by
  have hlength : hasher.length + 1 = (whole ++ (hasher.pending ++ [b])).length := by
    simp only [h.length_eq, List.length_append, List.length_singleton, Nat.add_assoc]
  simp only [Sha256.absorb]
  split
  · next hfull =>
    refine ⟨whole ++ (hasher.pending ++ [b]), ⟨?_, ?_, Nat.succ_pos _, ?_⟩, ?_⟩
    · rw [blocks_append h.whole_mod hfull, List.foldl_append, ← h.chain_eq]
      rfl
    · rw [List.length_append, hfull, Nat.add_mod_right, h.whole_mod]
    · rw [hlength, List.append_nil]
    · rw [List.append_nil, List.append_assoc]
  · next hpart =>
    refine ⟨whole, ⟨h.chain_eq, h.whole_mod, ?_, hlength⟩, (List.append_assoc ..).symm⟩
    have hlt := h.pending_lt
    rw [List.length_append, List.length_singleton] at hpart ⊢
    omega

theorem Compressed.update (h : Compressed hasher whole) (data : Bytes) :
    ∃ longer, Compressed (hasher.update data) longer ∧
      longer ++ (hasher.update data).pending = whole ++ hasher.pending ++ data := by
  induction data generalizing hasher whole with
  | nil => exact ⟨whole, h, (List.append_nil _).symm⟩
  | cons b data ih =>
    obtain ⟨next, hnext, hnext_eq⟩ := h.absorb b
    obtain ⟨longer, hlonger, hlonger_eq⟩ := ih hnext
    refine ⟨longer, hlonger, ?_⟩
    show longer ++ ((hasher.absorb b).update data).pending = _
    rw [hlonger_eq, hnext_eq, List.append_assoc, List.singleton_append]

/-- A hasher that absorbed a message byte by byte computes the hash over its blocks. -/
theorem hash_eq_ofBlocks (message : Bytes) : hash message = ofBlocks message := by
  obtain ⟨whole, hwhole, hmessage⟩ := compressed_new.update message
  have hlength : (new.update message).length = message.length := by
    rw [hwhole.length_eq, hmessage]
    rfl
  obtain ⟨filled, hfilled, hpadded⟩ := compressed_new.update (padded message)
  -- the padding leaves nothing behind the last block
  have hpending : (new.update (padded message)).pending = [] := by
    refine List.eq_nil_of_length_eq_zero ?_
    have htotal := length_padded_mod message
    rw [show padded message = filled ++ (new.update (padded message)).pending from hpadded.symm,
      List.length_append, Nat.add_mod, hfilled.whole_mod, Nat.zero_add, Nat.mod_mod,
      Nat.mod_eq_of_lt hfilled.pending_lt] at htotal
    exact htotal
  obtain rfl : filled = padded message := by
    rw [hpending, List.append_nil] at hpadded
    exact hpadded
  rw [hash, digest, hlength, ← update_append]
  exact congrArg Chain.bytes hfilled.chain_eq

/-- The digest of `abc`. -/
example : Bytes.toNatBE (ofBlocks [0x61, 0x62, 0x63]) =
    0xba7816bf8f01cfea414140de5dae2223b00361a396177a9cb410ff61f20015ad := by decide +kernel

@[simp] theorem length_ofBlocks (message : Bytes) : (ofBlocks message).length = digestLength :=
  Chain.length_bytes _

end KeyEnclave.Sha256
