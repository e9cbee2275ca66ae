import KeyEnclave.Firmware.Images

/-!
# State fields

What a state field stands for while its words are being written, and where the fields of the slots
lie.

## Main definitions

* `StateWords.mixed` — a field of which a front was written.
* `ImageState.Follows`, `ImageState.IsFinal` — a step of the lifecycle, and its ends.
* `ImageLayout.InStateField`, `ImageLayout.FieldsDisjoint` — the cells of a field.

## Main results

* `ImageState.ofWords_mixed` — every field on the way along an edge stands for one of its ends.
-/

namespace KeyEnclave

-- ═══════════════════════════════════════════════════════════════════════════
-- Fields that are partly written
-- ═══════════════════════════════════════════════════════════════════════════

theorem StateWords.toList_injective {v w : StateWords} (h : v.toList = w.toList) : v = w := by
  rcases v with ⟨v₁, v₂, v₃⟩
  rcases w with ⟨w₁, w₂, w₃⟩
  simp only [StateWords.toList, List.cons.injEq, and_true] at h
  obtain ⟨rfl, rfl, rfl⟩ := h
  rfl

/-- The field after the first `k` words of `target` were written over `old`. -/
def StateWords.mixed (k : Nat) (target old : StateWords) : StateWords where
  first := if 0 < k then target.first else old.first
  second := if 1 < k then target.second else old.second
  third := if 2 < k then target.third else old.third

theorem StateWords.toList_mixed {k : Nat} (h : k ≤ 3) (target old : StateWords) :
    (mixed k target old).toList = target.toList.take k ++ old.toList.drop k := by
  match k, h with
  | 0, _ => rfl
  | 1, _ => rfl
  | 2, _ => rfl
  | 3, _ => rfl

namespace ImageState

/-- Nothing happens to an image, or it takes an edge of the lifecycle. -/
def Follows (before after : ImageState) : Prop := after = before ∨ before.canBecome after = true

/-- The states with no edge to another. -/
def IsFinal : ImageState → Prop
  | validAll | invalid => True
  | new | selfTest | valid => False

theorem not_isFinal_of_canBecome {state next : ImageState} (h : state.canBecome next = true) :
    ¬state.IsFinal := by
  cases state with
  | validAll | invalid => cases next <;> cases h
  | new | selfTest | valid => exact id

/-- A field that stands for another state than `invalid` is the one that records it. -/
theorem words_ofWords {words : StateWords} (h : ofWords words ≠ invalid) :
    (ofWords words).words = words := by
  unfold ofWords at h ⊢
  cases hfind : [new, selfTest, valid, validAll].find? fun state => state.words = words with
  | none =>
    rw [hfind] at h
    exact absurd rfl h
  | some state =>
    have hfound := List.find?_some hfind
    exact of_decide_eq_true hfound

/-- Along an edge every field on the way stands for one of its ends. -/
theorem ofWords_mixed {state next : ImageState} (h : state.canBecome next = true) (k : Nat) :
    ofWords (StateWords.mixed k next.words state.words) = state ∨
      ofWords (StateWords.mixed k next.words state.words) = next := by
  have hends (k : Nat) (hk : 3 ≤ k) : StateWords.mixed k next.words state.words = next.words := by
    simp only [StateWords.mixed, if_pos (show 0 < k by omega), if_pos (show 1 < k by omega),
      if_pos (show 2 < k by omega)]
  match k with
  | 0 | 1 | 2 =>
    clear hends
    revert h
    cases state <;> cases next <;> decide
  | k + 3 =>
    rw [hends (k + 3) (by omega), ofWords_words]
    exact .inr rfl

end ImageState

-- ═══════════════════════════════════════════════════════════════════════════
-- State fields
-- ═══════════════════════════════════════════════════════════════════════════

namespace ImageLayout

/-- The cell at an address belongs to the state field of a slot. -/
def InStateField (layout : ImageLayout) (slot : SlotConfig) (address : UInt64) : Prop :=
  (address - layout.stateAddress slot).toNat < FirmwareImages.stateLength

/-- No cell belongs to the state fields of two slots. -/
def FieldsDisjoint (layout : ImageLayout) : Prop :=
  layout.slots.Pairwise fun slot other =>
    ∀ address, layout.InStateField slot address → ¬layout.InStateField other address

/-- A field that ends before the address space does is an interval. -/
theorem inStateField_iff {layout : ImageLayout} {slot : SlotConfig}
    (h : (layout.stateAddress slot).toNat + FirmwareImages.stateLength ≤ addressLimit)
    (address : UInt64) : layout.InStateField slot address ↔
      (layout.stateAddress slot).toNat ≤ address.toNat ∧
        address.toNat < (layout.stateAddress slot).toNat + FirmwareImages.stateLength := by
  have hstart := (layout.stateAddress slot).toNat_lt
  have haddress := address.toNat_lt
  rw [InStateField, UInt64.toNat_sub]
  simp only [FirmwareImages.stateLength, addressLimit, UInt64.size] at h ⊢
  omega

variable {layout : ImageLayout} {number : UInt32} {slot other : SlotConfig}

theorem slot_eq_ok : layout.slot number = .ok slot ↔ layout.slots[number.toNat]? = some slot := by
  unfold ImageLayout.slot
  split
  · next found hfound => rw [hfound, Except.ok.injEq, Option.some.injEq]
  · next hfound =>
    rw [hfound]
    constructor <;> intro h <;> cases h

theorem activeSlot_eq_ok : layout.activeSlot number = .ok slot ↔
    layout.slots[number.toNat]? = some slot ∧ slot.kind = .active := by
  unfold activeSlot
  cases hslot : layout.slot number with
  | error e =>
    have hnone : layout.slots[number.toNat]? ≠ some slot := by
      intro h
      rw [slot_eq_ok.mpr h] at hslot
      cases hslot
    constructor
    · intro h
      cases h
    · intro h
      exact absurd h.1 hnone
  | ok found =>
    rw [slot_eq_ok.mp hslot]
    by_cases hkind : found.kind = .active
    · simp only [hkind, bind, Except.bind, ne_eq, not_true_eq_false, if_false]
      constructor
      · intro h
        obtain rfl : found = slot := Except.ok.inj h
        exact ⟨rfl, hkind⟩
      · intro h
        rw [Option.some.inj h.1]
        rfl
    · simp only [bind, Except.bind, ne_eq, hkind, not_false_eq_true, if_true]
      constructor
      · intro h
        cases h
      · intro h
        rw [Option.some.inj h.1] at hkind
        exact absurd h.2 hkind

/-- The fields of slots at different positions have no cell in common. -/
theorem FieldsDisjoint.not_inStateField (h : layout.FieldsDisjoint) {i j : Nat}
    (hi : layout.slots[i]? = some slot) (hj : layout.slots[j]? = some other) (hne : i ≠ j)
    {address : UInt64} (hin : layout.InStateField slot address) :
    ¬layout.InStateField other address := by
  obtain ⟨hilt, rfl⟩ := List.getElem?_eq_some_iff.mp hi
  obtain ⟨hjlt, rfl⟩ := List.getElem?_eq_some_iff.mp hj
  have hpairs := List.pairwise_iff_getElem.mp h
  rcases Nat.lt_or_gt_of_ne hne with hlt | hlt
  · exact hpairs i j hilt hjlt hlt address hin
  · exact fun hother => hpairs j i hjlt hilt hlt address hother hin

end ImageLayout

end KeyEnclave
