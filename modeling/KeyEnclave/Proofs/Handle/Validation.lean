import KeyEnclave.Latches
import KeyEnclave.Proofs.Handle.Layout
import Mathlib.Data.Set.Card

/-!
# What the checks on a layout are worth

The checks compare each range with the later ones only and stop at the first fault. Yet the layouts
that pass are exactly those in which no handle could be taken for another: every range holds some
handles, none of them null, all of them with a latch, no two ranges share one, and the persistent
objects fit the cache.

## Main definitions

* `ObjectLayout.IsWellFormed` — what a layout has to be, said of its handles.
* `ObjectLayout.TellsApart` — what is known of a handle by its provenance.

## Main results

* `HandleRange.disjoint_iff` — the ends of two ranges say whether they share a handle.
* `ObjectLayout.validate_eq_ok_iff` — the layouts that pass are the well-formed ones.
* `ObjectLayout.validation_tells_apart` — in a layout that passes every handle has one provenance,
  in whatever order the ranges are tried, and a latch of its own if it can be used.
-/

namespace KeyEnclave

namespace HandleRange

variable {range other : HandleRange}

theorem exists_contains_iff :
    (∃ handle, range.contains handle = true) ↔ range.first ≤ range.last := by
  rw [UInt32.le_iff_toNat_le]
  constructor
  · rintro ⟨handle, hcontains⟩
    rw [contains_iff] at hcontains
    omega
  · intro hordered
    exact ⟨range.first, contains_iff.mpr ⟨Nat.le_refl _, hordered⟩⟩

/-- Of two ranges that are not empty the later beginning lies in both, unless they share nothing. -/
theorem disjoint_iff (hrange : range.first ≤ range.last) (hother : other.first ≤ other.last) :
    range.Disjoint other ↔
      ∀ handle, range.contains handle = true → other.contains handle = false := by
  constructor
  · intro hdisjoint handle
    exact hdisjoint.not_contains
  · intro hshared
    rw [UInt32.le_iff_toNat_le] at hrange hother
    unfold Disjoint
    rw [Bool.eq_false_iff]
    intro hoverlaps
    simp only [overlaps, Bool.and_eq_true, decide_eq_true_eq, UInt32.le_iff_toNat_le] at hoverlaps
    by_cases hlater : range.first.toNat ≤ other.first.toNat
    · have hinside : range.contains other.first = true := contains_iff.mpr ⟨hlater, hoverlaps.2⟩
      have houtside := hshared other.first hinside
      rw [contains_iff.mpr ⟨Nat.le_refl _, hother⟩] at houtside
      cases houtside
    · have hinside : range.contains range.first = true :=
        contains_iff.mpr ⟨Nat.le_refl _, hrange⟩
      have houtside := hshared range.first hinside
      rw [contains_iff.mpr ⟨by omega, hoverlaps.1⟩] at houtside
      cases houtside

end HandleRange

namespace ObjectLayout

/-- No handle of the layout can be taken for another, and none is out of reach of the latches. -/
structure IsWellFormed (layout : ObjectLayout) : Prop where
  /-- Every range that is configured holds a handle. -/
  nonempty : ∀ provenance range, layout.range? provenance = some range →
    ∃ handle, range.contains handle = true
  /-- No range holds the handle that stands for no object. -/
  withoutNull : ∀ provenance, ¬layout.Has provenance 0
  /-- Every range ends below the last latch. -/
  lockable : ∀ provenance range, layout.range? provenance = some range → range.last.toNat < 512
  /-- No two ranges share a handle. -/
  disjoint : ∀ provenance other, provenance ≠ other → ∀ handle, layout.Has provenance handle →
    ¬layout.Has other handle
  /-- The persistent ranges hold at most 40 handles together. -/
  cacheable : {handle | layout.Has .nvmStatic handle ∨ layout.Has .nvmDynamic handle}.ncard ≤ 40

/-- The provenance of a handle is known, does not depend on the order of the ranges, and is that of
no object where the handle has no latch. -/
structure TellsApart (layout : ObjectLayout) (handle : ObjectHandle) : Prop where
  /-- The provenance of a handle is the one whose range has it. -/
  classified : ∀ provenance, layout.classify handle = provenance ∧ provenance ≠ .unknown ↔
    layout.Has provenance handle
  /-- It is found in whatever order the ranges are tried. -/
  anyOrder : ∀ entries, entries.Perm layout.ranges →
    provenanceAmong entries handle = layout.classify handle
  /-- The null handle and the handles without a latch are those of no object. -/
  outside : handle = 0 ∨ 512 ≤ handle.toNat → layout.classify handle = .unknown
  /-- Every handle of a range can be latched, and no other handle is latched with it. -/
  latched : layout.classify handle ≠ .unknown → ∀ latches : Latches,
    (latches.lockKey handle).isKeyLocked handle = true ∧
      ∀ other, other ≠ handle →
        (latches.lockKey handle).isKeyLocked other = latches.isKeyLocked other

variable {layout : ObjectLayout} {handle : ObjectHandle}

theorem ncard_persistent
    (hdisjoint : (layout.ranges.filterMap Prod.snd).Pairwise HandleRange.Disjoint) :
    {handle | layout.Has .nvmStatic handle ∨ layout.Has .nvmDynamic handle}.ncard =
      layout.nvmCount := by
  have hset : {handle | layout.Has .nvmStatic handle ∨ layout.Has .nvmDynamic handle} =
      (layout.nvmHandles.toFinset : Set ObjectHandle) := by
    ext handle
    simp [mem_nvmHandles_iff_has]
  rw [hset, Set.ncard_coe_finset, List.toFinset_card_of_nodup
    (nodup_nvmHandles_of_disjoint hdisjoint), length_nvmHandles_eq]

/-- The layouts that pass the checks are the well-formed ones. -/
theorem validate_eq_ok_iff (layout : ObjectLayout) :
    layout.validate = .ok () ↔ layout.IsWellFormed := by
  rw [validate_eq_ok, validateRanges_eq_ok]
  constructor
  · rintro ⟨⟨hplaced, hdisjoint⟩, hcount⟩
    have hplaced' {provenance : Provenance} {range : HandleRange}
        (hrange : layout.range? provenance = some range) : range.IsPlaced :=
      hplaced range (mem_filterMap_ranges.mpr ⟨provenance, hrange⟩)
    refine ⟨?_, ?_, ?_, ?_, ?_⟩
    · intro provenance range hrange
      exact HandleRange.exists_contains_iff.mpr (hplaced' hrange).1
    · rintro provenance ⟨range, hrange, hcontains⟩
      rw [(hplaced' hrange).2.1] at hcontains
      cases hcontains
    · intro provenance range hrange
      exact (hplaced' hrange).2.2
    · rintro provenance other hne handle ⟨range, hrange, hcontains⟩ ⟨range', hrange', hcontains'⟩
      have hshared := pairwise_disjoint_iff.mp hdisjoint _ _ hne _ _ hrange hrange'
      rw [hshared.not_contains hcontains] at hcontains'
      cases hcontains'
    · rw [ncard_persistent hdisjoint]
      exact hcount
  · intro h
    have hordered {provenance : Provenance} {range : HandleRange}
        (hrange : layout.range? provenance = some range) : range.first ≤ range.last :=
      HandleRange.exists_contains_iff.mp (h.nonempty provenance range hrange)
    have hdisjoint : (layout.ranges.filterMap Prod.snd).Pairwise HandleRange.Disjoint := by
      rw [pairwise_disjoint_iff]
      intro provenance other hne range range' hrange hrange'
      rw [HandleRange.disjoint_iff (hordered hrange) (hordered hrange')]
      intro handle hcontains
      rw [Bool.eq_false_iff]
      intro hcontains'
      exact h.disjoint provenance other hne handle ⟨range, hrange, hcontains⟩
        ⟨range', hrange', hcontains'⟩
    refine ⟨⟨?_, hdisjoint⟩, ?_⟩
    · intro range hmem
      obtain ⟨provenance, hrange⟩ := mem_filterMap_ranges.mp hmem
      refine ⟨hordered hrange, ?_, h.lockable provenance range hrange⟩
      rw [Bool.eq_false_iff]
      intro hnull
      exact h.withoutNull provenance ⟨range, hrange, hnull⟩
    · have hcacheable := h.cacheable
      rw [ncard_persistent hdisjoint] at hcacheable
      exact hcacheable

/-- A handle that has a latch is latched alone. -/
theorem isKeyLocked_of_lockable (hlockable : handle.toNat < Limits.lockableKeys)
    (latches : Latches) : (latches.lockKey handle).isKeyLocked handle = true ∧
      ∀ other, other ≠ handle →
        (latches.lockKey handle).isKeyLocked other = latches.isKeyLocked other := by
  constructor
  · rw [Latches.isKeyLocked_lockKey]
    simp [hlockable]
  · intro other hne
    rw [Latches.isKeyLocked_lockKey]
    simp [Ne.symm hne]

/-- A layout passes the checks exactly if it is well-formed, and then the provenance of every handle
is unambiguous, in whatever order the ranges are tried. The null handle and the handles without a
latch have none, and every other handle can be latched alone. -/
theorem validation_tells_apart (layout : ObjectLayout) :
    (layout.validate = .ok () ↔ layout.IsWellFormed) ∧
      (layout.validate = .ok () → ∀ handle, layout.TellsApart handle) := by
  refine ⟨validate_eq_ok_iff layout, fun hvalid handle => ?_⟩
  have hknown {provenance : Provenance} (hhas : layout.Has provenance handle) :
      layout.classify handle = provenance :=
    provenanceAmong_of_has hvalid (fun _ => Iff.rfl) hhas
  refine ⟨fun provenance => ⟨?_, ?_⟩, ?_, ?_, ?_⟩
  · rintro ⟨hclass, hprovenance⟩
    exact contains_of_classify hclass hprovenance
  · rintro ⟨range, hrange, hcontains⟩
    refine ⟨hknown ⟨range, hrange, hcontains⟩, ?_⟩
    rintro rfl
    cases hrange
  · intro entries hperm
    by_cases hunknown : provenanceAmong entries handle = .unknown
    · by_contra hne
      have hclass : layout.classify handle ≠ .unknown := fun h => hne (hunknown.trans h.symm)
      rw [provenanceAmong_of_has hvalid (fun _ => hperm.mem_iff)
        (contains_of_classify rfl hclass)] at hunknown
      exact hclass hunknown
    · exact (hknown (has_of_provenanceAmong (fun _ => hperm.mem_iff.mp) rfl hunknown)).symm
  · rintro (rfl | hbeyond)
    · exact classify_null hvalid
    · by_contra hclass
      exact Nat.not_lt.mpr hbeyond (lockable_of_classify hvalid hclass)
  · intro hclass latches
    exact isKeyLocked_of_lockable (lockable_of_classify hvalid hclass) latches

/-- A layout with as many persistent handles as there may be, and with the last handle that has a
latch. -/
def widest : ObjectLayout :=
  { standard with nvmDynamic := some ⟨111, 130⟩, extTokenDynamic := some ⟨131, 511⟩ }

theorem widest_tells_apart :
    widest.validate = .ok () ∧ widest.IsWellFormed ∧ widest.classify 511 = .extTokenDynamic ∧
      (Latches.allOpen.lockKey 511).isKeyLocked 511 = true ∧ widest.classify 512 = .unknown ∧
      provenanceAmong widest.ranges.reverse 130 = .nvmDynamic := by
  have hvalid : widest.validate = .ok () := by decide
  have hwidest := validation_tells_apart widest
  have hapart := hwidest.2 hvalid
  have hlast : widest.classify 511 = .extTokenDynamic := by decide
  refine ⟨hvalid, hwidest.1.mp hvalid, hlast, ?_, (hapart 512).outside (.inr (by decide)), ?_⟩
  · exact ((hapart 511).latched (by rw [hlast]; decide) .allOpen).1
  · rw [(hapart 130).anyOrder _ (List.reverse_perm _)]
    decide

end ObjectLayout

end KeyEnclave
