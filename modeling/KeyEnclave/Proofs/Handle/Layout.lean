import KeyEnclave.Handle.Layout
import Mathlib.Data.List.Nodup
import Mathlib.Data.List.Pairwise

/-!
# Layouts that are accepted

What the checks on a layout say of its ranges, and what follows for the handles: no handle belongs
to two ranges, the null handle belongs to none, and the handles of persistent objects are pairwise
distinct and fit the cache.

## Main definitions

* `HandleRange.IsPlaced` — a range on its own is as it has to be.
* `HandleRange.Disjoint` — two ranges share no handle.
* `ObjectLayout.IsPersistent` — the object of a handle is kept in storage.
* `ObjectLayout.Has` — the range of a provenance has a handle.
* `ObjectLayout.provenanceAmong` — classification by ranges that are tried in any order.

## Main results

* `HandleRange.find?_eq_some` — a search through a range finds the lowest handle.
* `ObjectLayout.validateRanges_eq_ok` — the checks say exactly that.
* `ObjectLayout.pairwise_disjoint_iff` — ranges compared with the later ones only are all disjoint.
* `ObjectLayout.classify_eq_of_contains` — the range with a handle is the one it is classified by.
* `ObjectLayout.mem_nvmHandles`, `ObjectLayout.nodup_nvmHandles`, `ObjectLayout.length_nvmHandles` —
  the handles of persistent objects.
-/

namespace KeyEnclave

namespace HandleRange

/-- A range is not empty, does not hold the null handle, and has a latch for each of its handles. -/
def IsPlaced (range : HandleRange) : Prop :=
  range.first ≤ range.last ∧ range.contains 0 = false ∧ range.last.toNat < Limits.lockableKeys

/-- Two ranges share no handle. -/
def Disjoint (range other : HandleRange) : Prop := range.overlaps other = false

theorem Disjoint.symm {range other : HandleRange} (h : range.Disjoint other) :
    other.Disjoint range := by
  unfold Disjoint overlaps at h ⊢
  rwa [Bool.and_comm]

theorem contains_iff {range : HandleRange} {handle : ObjectHandle} :
    range.contains handle = true ↔
      range.first.toNat ≤ handle.toNat ∧ handle.toNat ≤ range.last.toNat := by
  simp [contains, UInt32.le_iff_toNat_le]

theorem Disjoint.not_contains {range other : HandleRange} (h : range.Disjoint other)
    {handle : ObjectHandle} (hrange : range.contains handle = true) :
    other.contains handle = false := by
  rw [Bool.eq_false_iff]
  intro hother
  rw [contains_iff] at hrange hother
  simp only [Disjoint, overlaps, Bool.and_eq_false_iff, decide_eq_false_iff_not,
    UInt32.le_iff_toNat_le] at h
  omega

/-- The handle at a position of a range, as a number. -/
theorem toNat_handleAt {range : HandleRange} {i : Nat} (hi : i < range.count) :
    (UInt32.ofNat (range.first.toNat + i)).toNat = range.first.toNat + i := by
  have hlast := range.last.toNat_lt
  unfold count at hi
  exact UInt32.toNat_ofNat_of_lt' (by unfold UInt32.size; omega)

theorem mem_handles {range : HandleRange} {handle : ObjectHandle} :
    handle ∈ range.handles ↔ range.contains handle = true := by
  rw [contains_iff]
  simp only [handles, List.mem_map, List.mem_range]
  constructor
  · rintro ⟨i, hi, rfl⟩
    rw [toNat_handleAt hi]
    unfold count at hi
    omega
  · rintro ⟨hfirst, hlast⟩
    refine ⟨handle.toNat - range.first.toNat, by unfold count; omega, ?_⟩
    rw [Nat.add_sub_cancel' hfirst, UInt32.ofNat_toNat]

theorem nodup_handles (range : HandleRange) : range.handles.Nodup := by
  refine List.pairwise_map.mpr (List.nodup_range.imp_of_mem fun hi hj hne heq => hne ?_)
  have hnat := congrArg UInt32.toNat heq
  rw [toNat_handleAt (List.mem_range.mp hi), toNat_handleAt (List.mem_range.mp hj)] at hnat
  omega

theorem length_handles (range : HandleRange) : range.handles.length = range.count := by
  simp [handles]

theorem findFrom_eq (p : ObjectHandle → Bool) (count : Nat) (handle : ObjectHandle) :
    findFrom p count handle =
      ((List.range count).map fun i => UInt32.ofNat (handle.toNat + i)).find? p := by
  induction count generalizing handle with
  | zero => rfl
  | succ count ih =>
    have hlater : ((List.range count).map Nat.succ).map
        (fun i => UInt32.ofNat (handle.toNat + i)) =
          (List.range count).map fun i => UInt32.ofNat ((handle + 1).toNat + i) := by
      rw [List.map_map]
      refine List.map_congr_left fun i _ => UInt32.toNat_inj.mp ?_
      simp only [Function.comp_apply, UInt32.toNat_ofNat', UInt32.toNat_add, UInt32.reduceToNat]
      omega
    have hhead : UInt32.ofNat (handle.toNat + 0) = handle := UInt32.ofNat_toNat
    rw [findFrom, List.range_succ_eq_map, List.map_cons, List.find?_cons, hhead, hlater, ← ih]
    cases p handle <;> rfl

/-- The search tries the handles of the range in order. -/
theorem find?_eq (range : HandleRange) (p : ObjectHandle → Bool) :
    range.find? p = range.handles.find? p := findFrom_eq p range.count range.first

theorem find?_eq_none {range : HandleRange} {p : ObjectHandle → Bool} :
    range.find? p = none ↔ ∀ handle, range.contains handle = true → p handle = false := by
  rw [find?_eq, List.find?_eq_none]
  simp only [mem_handles, Bool.not_eq_true]

/-- What is found is the lowest handle of the range that satisfies the condition. -/
theorem find?_eq_some {range : HandleRange} {p : ObjectHandle → Bool} {handle : ObjectHandle} :
    range.find? p = some handle ↔ range.contains handle = true ∧ p handle = true ∧
      ∀ other, range.contains other = true → other < handle → p other = false := by
  rw [find?_eq, handles, List.find?_map, Option.map_eq_some_iff]
  simp only [List.find?_range_eq_some, Function.comp_apply, List.mem_range, Bool.not_eq_true']
  constructor
  · rintro ⟨i, ⟨hp, hi, hlower⟩, rfl⟩
    refine ⟨mem_handles.mp (List.mem_map_of_mem (List.mem_range.mpr hi)), hp, ?_⟩
    intro other hother hlt
    rw [UInt32.lt_iff_toNat_lt, toNat_handleAt hi] at hlt
    have hfirst := (contains_iff.mp hother).1
    have hbefore := hlower (other.toNat - range.first.toNat) (by omega)
    rwa [Nat.add_sub_cancel' hfirst, UInt32.ofNat_toNat] at hbefore
  · rintro ⟨hcontains, hp, hlower⟩
    obtain ⟨hfirst, hlast⟩ := contains_iff.mp hcontains
    refine ⟨handle.toNat - range.first.toNat, ⟨?_, by unfold count; omega, fun j hj => ?_⟩, ?_⟩
    · rwa [Nat.add_sub_cancel' hfirst, UInt32.ofNat_toNat]
    · have hj' : j < range.count := by unfold count; omega
      refine hlower _ (mem_handles.mp (List.mem_map_of_mem (List.mem_range.mpr hj'))) ?_
      rw [UInt32.lt_iff_toNat_lt, toNat_handleAt hj']
      omega
    · rw [Nat.add_sub_cancel' hfirst, UInt32.ofNat_toNat]

/-- Only the handles of the range matter. -/
theorem find?_congr {range : HandleRange} {p q : ObjectHandle → Bool}
    (h : ∀ handle, range.contains handle = true → p handle = q handle) :
    range.find? p = range.find? q := by
  refine Option.ext fun handle => ?_
  rw [find?_eq_some, find?_eq_some]
  refine and_congr_right fun hcontains => ?_
  rw [h handle hcontains]
  refine and_congr_right fun _ => forall₂_congr fun other hother => ?_
  rw [h other hother]

end HandleRange

namespace ObjectLayout

/-- The object of a handle is kept in storage. -/
def IsPersistent (layout : ObjectLayout) (handle : ObjectHandle) : Prop :=
  layout.classify handle = .nvmStatic ∨ layout.classify handle = .nvmDynamic

instance (layout : ObjectLayout) (handle : ObjectHandle) : Decidable (layout.IsPersistent handle) :=
  inferInstanceAs (Decidable (_ ∨ _))

/-- The range of a provenance has the handle. -/
def Has (layout : ObjectLayout) (provenance : Provenance) (handle : ObjectHandle) : Prop :=
  ∃ range, layout.range? provenance = some range ∧ range.contains handle = true

/-- The provenance of the first of some ranges that has the handle. -/
def provenanceAmong (entries : List (Provenance × Option HandleRange)) (handle : ObjectHandle) :
    Provenance :=
  match entries.find? fun entry => entry.2.any (·.contains handle) with
  | some (provenance, _) => provenance
  | none => .unknown

theorem validateRanges_eq_ok {ranges : List HandleRange} :
    validateRanges ranges = .ok () ↔
      (∀ range ∈ ranges, range.IsPlaced) ∧ ranges.Pairwise HandleRange.Disjoint := by
  induction ranges with
  | nil => simp [validateRanges]
  | cons range later ih =>
    have hlater : later.any (·.overlaps range) = false ↔ ∀ other ∈ later, range.Disjoint other := by
      simp only [List.any_eq_false, Bool.not_eq_true]
      exact forall₂_congr fun other _ => ⟨HandleRange.Disjoint.symm, HandleRange.Disjoint.symm⟩
    unfold validateRanges
    simp only [List.forall_mem_cons, List.pairwise_cons, HandleRange.IsPlaced]
    rw [← hlater]
    split
    · next h => simp [UInt32.not_le.mpr h]
    · next hordered =>
      split
      · next h => simp [h]
      · next hnull =>
        split
        · next h => simp [Nat.not_lt.mpr h]
        · next hlatch =>
          split
          · next h => simp [h]
          · next hdisjoint =>
            rw [ih]
            simp_all [HandleRange.IsPlaced]

theorem validate_eq_ok {layout : ObjectLayout} : layout.validate = .ok () ↔
    validateRanges (layout.ranges.filterMap Prod.snd) = .ok () ∧
      layout.nvmCount ≤ Limits.cachedObjects := by
  unfold validate
  cases validateRanges (layout.ranges.filterMap Prod.snd) with
  | error fault => simp [bind, Except.bind]
  | ok u =>
    by_cases hcount : Limits.cachedObjects < layout.nvmCount
    · simp [bind, Except.bind, hcount]
    · simp [bind, Except.bind, hcount, Nat.not_lt.mp hcount, pure, Except.pure]

variable {layout : ObjectLayout} {provenance : Provenance} {range : HandleRange}
  {handle : ObjectHandle}

theorem mem_ranges : (provenance, some range) ∈ layout.ranges ↔
    layout.range? provenance = some range := by
  cases provenance <;> simp [ranges, range?, eq_comm]

theorem mem_filterMap_ranges : range ∈ layout.ranges.filterMap Prod.snd ↔
    ∃ provenance, layout.range? provenance = some range := by
  rw [List.mem_filterMap]
  constructor
  · rintro ⟨⟨provenance, range?⟩, hmem, rfl⟩
    exact ⟨provenance, mem_ranges.mp hmem⟩
  · rintro ⟨provenance, hrange⟩
    exact ⟨(provenance, some range), mem_ranges.mpr hrange, rfl⟩

/-- Comparing each range with the later ones compares the ranges of any two provenances. -/
theorem pairwise_disjoint_iff :
    (layout.ranges.filterMap Prod.snd).Pairwise HandleRange.Disjoint ↔
      ∀ provenance other, provenance ≠ other → ∀ range range',
        layout.range? provenance = some range → layout.range? other = some range' →
          range.Disjoint range' := by
  have hkeys : layout.ranges.Pairwise fun entry entry' => entry.1 ≠ entry'.1 := by
    simp [ranges]
  rw [List.pairwise_filterMap]
  constructor
  · intro hpairwise provenance other hne range range' hrange hrange'
    have : Std.Symm fun entry entry' : Provenance × Option HandleRange =>
        ∀ range, entry.2 = some range → ∀ range', entry'.2 = some range' →
          range.Disjoint range' :=
      { symm := fun _ _ h range hrange range' hrange' => (h range' hrange' range hrange).symm }
    exact hpairwise.forall (mem_ranges.mpr hrange) (mem_ranges.mpr hrange')
      (fun heq => hne (congrArg Prod.fst heq)) range rfl range' rfl
  · intro hdisjoint
    refine hkeys.imp_of_mem fun {entry entry'} hentry hentry' hne range hrange range' hrange' => ?_
    refine hdisjoint entry.1 entry'.1 hne range range' ?_ ?_
    · rw [← mem_ranges, ← hrange]
      exact hentry
    · rw [← mem_ranges, ← hrange']
      exact hentry'

theorem has_of_provenanceAmong {entries : List (Provenance × Option HandleRange)}
    (hentries : ∀ entry ∈ entries, entry ∈ layout.ranges)
    (h : provenanceAmong entries handle = provenance) (hprovenance : provenance ≠ .unknown) :
    layout.Has provenance handle := by
  unfold provenanceAmong at h
  split at h
  · next found range? hfound =>
    subst h
    have hcontains := List.find?_some hfound
    cases range? with
    | none => cases hcontains
    | some range =>
      exact ⟨range, mem_ranges.mp (hentries _ (List.mem_of_find?_eq_some hfound)), hcontains⟩
  · exact absurd h.symm hprovenance

theorem contains_of_classify (h : layout.classify handle = provenance)
    (hprovenance : provenance ≠ .unknown) : layout.Has provenance handle :=
  has_of_provenanceAmong (fun _ hentry => hentry) h hprovenance

theorem isPlaced_of_range? (hvalid : layout.validate = .ok ())
    (h : layout.range? provenance = some range) : range.IsPlaced := by
  have hplaced := (validateRanges_eq_ok.mp (validate_eq_ok.mp hvalid).1).1
  exact hplaced range (mem_filterMap_ranges.mpr ⟨provenance, h⟩)

/-- Every handle of a range has a latch. -/
theorem lockable_of_classify (hvalid : layout.validate = .ok ())
    (h : layout.classify handle ≠ .unknown) : handle.toNat < Limits.lockableKeys := by
  obtain ⟨range, hrange, hcontains⟩ := contains_of_classify rfl h
  have hlast := (HandleRange.contains_iff.mp hcontains).2
  exact Nat.lt_of_le_of_lt hlast (isPlaced_of_range? hvalid hrange).2.2

/-- Two ranges of an accepted layout that share a handle are the same. -/
theorem provenance_unique (hvalid : layout.validate = .ok ()) {other : Provenance}
    {otherRange : HandleRange} (h : layout.range? provenance = some range)
    (hother : layout.range? other = some otherRange) (hcontains : range.contains handle = true)
    (hcontains' : otherRange.contains handle = true) : provenance = other := by
  have hdisjoint := (validateRanges_eq_ok.mp (validate_eq_ok.mp hvalid).1).2
  by_contra hne
  have hpair := pairwise_disjoint_iff.mp hdisjoint _ _ hne _ _ h hother
  rw [hpair.not_contains hcontains] at hcontains'
  cases hcontains'

/-- The range with a handle is found among the ranges of an accepted layout in whatever order they
are tried. -/
theorem provenanceAmong_of_has (hvalid : layout.validate = .ok ())
    {entries : List (Provenance × Option HandleRange)}
    (hentries : ∀ entry, entry ∈ entries ↔ entry ∈ layout.ranges)
    (h : layout.Has provenance handle) : provenanceAmong entries handle = provenance := by
  obtain ⟨range, hrange, hcontains⟩ := h
  by_cases hunknown : provenanceAmong entries handle = .unknown
  · unfold provenanceAmong at hunknown
    split at hunknown
    · next found range? hfound =>
      subst hunknown
      have hmem := (hentries _).mp (List.mem_of_find?_eq_some hfound)
      simp [ranges] at hmem
    · next hnone =>
      have hall := List.find?_eq_none.mp hnone _ ((hentries _).mpr (mem_ranges.mpr hrange))
      exact absurd hcontains hall
  · obtain ⟨found, hfound, hfoundContains⟩ :=
      has_of_provenanceAmong (fun entry => (hentries entry).mp) rfl hunknown
    exact provenance_unique hvalid hfound hrange hfoundContains hcontains

theorem classify_eq_of_contains (hvalid : layout.validate = .ok ())
    (h : layout.range? provenance = some range) (hcontains : range.contains handle = true) :
    layout.classify handle = provenance :=
  provenanceAmong_of_has hvalid (fun _ => Iff.rfl) ⟨range, h, hcontains⟩

/-- The null handle belongs to no range. -/
theorem classify_null (hvalid : layout.validate = .ok ()) : layout.classify 0 = .unknown := by
  by_contra h
  obtain ⟨range, hrange, hcontains⟩ := contains_of_classify rfl h
  rw [(isPlaced_of_range? hvalid hrange).2.1] at hcontains
  cases hcontains

theorem mem_nvmRanges : range ∈ layout.nvmRanges ↔
    layout.range? .nvmStatic = some range ∨ layout.range? .nvmDynamic = some range := by
  simp [nvmRanges, range?, eq_comm]

theorem mem_nvmHandles_iff_has : handle ∈ layout.nvmHandles ↔
    layout.Has .nvmStatic handle ∨ layout.Has .nvmDynamic handle := by
  simp only [nvmHandles, List.mem_flatMap, HandleRange.mem_handles, mem_nvmRanges, Has,
    or_and_right, exists_or]

theorem mem_nvmHandles (hvalid : layout.validate = .ok ()) :
    handle ∈ layout.nvmHandles ↔ layout.IsPersistent handle := by
  have hclassify (provenance : Provenance) (hprovenance : provenance ≠ .unknown) :
      layout.Has provenance handle ↔ layout.classify handle = provenance :=
    ⟨provenanceAmong_of_has hvalid fun _ => Iff.rfl, fun h => contains_of_classify h hprovenance⟩
  rw [mem_nvmHandles_iff_has, hclassify .nvmStatic (by decide), hclassify .nvmDynamic (by decide)]
  rfl

/-- Ranges that share no handle have no handle twice. -/
theorem nodup_nvmHandles_of_disjoint
    (hdisjoint : (layout.ranges.filterMap Prod.snd).Pairwise HandleRange.Disjoint) :
    layout.nvmHandles.Nodup := by
  have hsublist : layout.nvmRanges.Sublist (layout.ranges.filterMap Prod.snd) := by
    have hpart : [(.nvmStatic, layout.nvmStatic), (.nvmDynamic, layout.nvmDynamic)].Sublist
        layout.ranges := by
      simp [ranges]
    exact hpart.filterMap Prod.snd
  refine List.nodup_flatMap.mpr ⟨fun range _ => range.nodup_handles, ?_⟩
  refine (hdisjoint.sublist hsublist).imp fun h handle hrange hother => ?_
  rw [HandleRange.mem_handles] at hrange hother
  rw [h.not_contains hrange] at hother
  cases hother

theorem nodup_nvmHandles (hvalid : layout.validate = .ok ()) : layout.nvmHandles.Nodup :=
  nodup_nvmHandles_of_disjoint
    (validateRanges_eq_ok.mp (validate_eq_ok.mp hvalid).1).2

theorem length_nvmHandles_eq (layout : ObjectLayout) :
    layout.nvmHandles.length = layout.nvmCount := by
  unfold nvmHandles nvmCount nvmRanges
  cases layout.nvmStatic <;> cases layout.nvmDynamic <;> simp [HandleRange.length_handles]

theorem length_nvmHandles (hvalid : layout.validate = .ok ()) :
    layout.nvmHandles.length ≤ Limits.cachedObjects := by
  rw [length_nvmHandles_eq]
  exact (validate_eq_ok.mp hvalid).2

end ObjectLayout

end KeyEnclave
