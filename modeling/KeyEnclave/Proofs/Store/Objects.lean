import KeyEnclave.Store.Basic
import Mathlib.Data.List.Nodup

/-!
# Objects in RAM

The cache and the volatile store are both lists of objects with distinct handles. Each change of such
a list is described by what is found in it afterwards.

## Main definitions

* `StoredObject.IsSound` — an object is small enough and carries its own handle.
* `StoredObject.IsTable` — a list of sound objects with distinct handles, bounded in length.

## Main results

* `StoredObject.find?_append_single`, `find?_set`, `find?_removeSwapping` — what is found after a
  change.
* `StoredObject.IsTable.append`, `IsTable.set`, `IsTable.removeSwapping` — changes leave a table.
-/

namespace KeyEnclave.StoredObject

/-- An object is no longer than it may be and serialises an object with its handle. -/
def IsSound (object : StoredObject) : Prop :=
  object.blob.length ≤ Limits.objectLength ∧
    (ObjectView.parse? object.blob).map ObjectView.handle = some object.handle

instance (object : StoredObject) : Decidable object.IsSound := inferInstanceAs (Decidable (_ ∧ _))

/-- The handles of objects. -/
def handles (objects : List StoredObject) : List ObjectHandle := objects.map handle

variable {objects : List StoredObject} {object other : StoredObject} {handle : ObjectHandle}

-- ═══════════════════════════════════════════════════════════════════════════
-- Looking up
-- ═══════════════════════════════════════════════════════════════════════════

theorem mem_of_find? (h : find? objects handle = some object) :
    object ∈ objects ∧ object.handle = handle := by
  refine ⟨List.mem_of_find?_eq_some h, ?_⟩
  simpa using List.find?_some h

theorem find?_eq_none : find? objects handle = none ↔ handle ∉ handles objects := by
  simp [find?, handles]

theorem holds_iff : holds objects handle = true ↔ handle ∈ handles objects := by
  simp [holds, handles]

theorem holds_congr {objects' : List StoredObject} (h : handles objects' = handles objects)
    (handle : ObjectHandle) : holds objects' handle = holds objects handle := by
  rw [Bool.eq_iff_iff, holds_iff, holds_iff, h]

theorem find?_of_mem (hnodup : (handles objects).Nodup) (hmem : object ∈ objects) :
    find? objects object.handle = some object := by
  cases hfind : find? objects object.handle with
  | none => exact absurd (List.mem_map_of_mem hmem) (find?_eq_none.mp hfind)
  | some found =>
    obtain ⟨hfound, hhandle⟩ := mem_of_find? hfind
    exact congrArg some (List.inj_on_of_nodup_map hnodup hfound hmem hhandle)

theorem find?_append_single :
    find? (objects ++ [object]) handle =
      (find? objects handle).or (if object.handle = handle then some object else none) := by
  unfold find?
  rw [List.find?_append]
  by_cases h : object.handle = handle <;> simp [h]

/-- An object whose handle is not taken is found at the end. -/
theorem find?_append_new (hnew : find? objects object.handle = none) :
    find? (objects ++ [object]) handle =
      if handle = object.handle then some object else find? objects handle := by
  rw [find?_append_single]
  by_cases heq : handle = object.handle
  · rw [heq, hnew]
    simp
  · simp [heq, Ne.symm heq]

/-- In lists with distinct handles the order does not matter. -/
theorem find?_of_perm {objects' : List StoredObject} (hperm : objects.Perm objects')
    (hnodup : (handles objects').Nodup) : find? objects handle = find? objects' handle := by
  have hnodup' : (handles objects).Nodup := (hperm.map _).nodup_iff.mpr hnodup
  cases hfind : find? objects' handle with
  | none =>
    rw [find?_eq_none] at hfind ⊢
    exact fun h => hfind ((hperm.map _).mem_iff.mp h)
  | some found =>
    obtain ⟨hmem, rfl⟩ := mem_of_find? hfind
    exact find?_of_mem hnodup' (hperm.mem_iff.mpr hmem)

-- ═══════════════════════════════════════════════════════════════════════════
-- Replacing an object
-- ═══════════════════════════════════════════════════════════════════════════

theorem handles_set {i : Nat} (hi : objects.findIdx? (fun o => o.handle == object.handle) = some i) :
    handles (objects.set i object) = handles objects := by
  obtain ⟨hlt, hfound, -⟩ := List.findIdx?_eq_some_iff_getElem.mp hi
  unfold handles
  rw [List.map_set]
  refine List.ext_getElem (by simp) fun j hj _ => ?_
  rw [List.getElem_set]
  split
  · next heq =>
    subst heq
    simpa using (beq_iff_eq.mp hfound).symm
  · rfl

theorem find?_set {i : Nat} (hnodup : (handles objects).Nodup)
    (hi : objects.findIdx? (fun o => o.handle == object.handle) = some i) :
    find? (objects.set i object) handle =
      if handle = object.handle then some object else find? objects handle := by
  obtain ⟨hlt, hfound, -⟩ := List.findIdx?_eq_some_iff_getElem.mp hi
  have hnodup' : (handles (objects.set i object)).Nodup := by rwa [handles_set hi]
  split
  · next heq =>
    subst heq
    exact find?_of_mem hnodup' (List.mem_set hlt object)
  · next hne =>
    cases hfind : find? objects handle with
    | none =>
      rw [find?_eq_none] at hfind ⊢
      rwa [handles_set hi]
    | some found =>
      obtain ⟨hmem, rfl⟩ := mem_of_find? hfind
      refine find?_of_mem hnodup' ?_
      obtain ⟨j, hj, rfl⟩ := List.getElem_of_mem hmem
      refine List.mem_iff_getElem.mpr ⟨j, by simpa using hj, ?_⟩
      rw [List.getElem_set_of_ne]
      rintro rfl
      exact hne (beq_iff_eq.mp hfound)

-- ═══════════════════════════════════════════════════════════════════════════
-- Removing an object
-- ═══════════════════════════════════════════════════════════════════════════

/-- An entry that the last one takes the place of is erased, up to the order. -/
theorem set_dropLast_perm {α : Type} {xs : List α} {i : Nat} {last : α} (hi : i < xs.length)
    (hlast : xs.getLast? = some last) : (xs.set i last).dropLast.Perm (xs.eraseIdx i) := by
  induction xs generalizing i with
  | nil => cases hi
  | cons x xs ih =>
    cases xs with
    | nil =>
      obtain rfl : i = 0 := by simpa using hi
      exact .nil
    | cons y ys =>
      rw [List.getLast?_cons_cons] at hlast
      cases i with
      | zero =>
        obtain ⟨front, hfront⟩ : ∃ front, y :: ys = front ++ [last] :=
          List.getLast?_eq_some_iff.mp hlast
        rw [List.set_cons_zero, List.eraseIdx_cons_zero, hfront, ← List.cons_append,
          List.dropLast_concat]
        exact List.perm_append_singleton last front |>.symm
      | succ i =>
        have hrest := ih (Nat.lt_of_succ_lt_succ hi) hlast
        rw [List.set_cons_succ, List.eraseIdx_cons_succ,
          List.dropLast_cons_of_ne_nil (by simp [List.set_eq_nil_iff])]
        exact hrest.cons x

theorem eraseIdx_eq_filter (hnodup : (handles objects).Nodup) {i : Nat}
    (hi : objects.findIdx? (fun o => o.handle == handle) = some i) :
    objects.eraseIdx i = objects.filter fun o => o.handle != handle := by
  induction objects generalizing i with
  | nil => cases hi
  | cons first rest ih =>
    simp only [handles, List.map_cons, List.nodup_cons] at hnodup
    rw [List.findIdx?_cons] at hi
    by_cases hfirst : first.handle = handle
    · have hother : ∀ o ∈ rest, (o.handle != handle) = true := fun o ho =>
        bne_iff_ne.mpr fun heq => hnodup.1 (by
          rw [hfirst, ← heq]
          exact List.mem_map_of_mem ho)
      simp only [hfirst, beq_self_eq_true, if_true, Option.some.injEq] at hi
      subst hi
      simp [hfirst, List.filter_eq_self.mpr hother]
    · simp only [beq_iff_eq, hfirst, if_false, Option.map_eq_some_iff] at hi
      obtain ⟨j, hj, rfl⟩ := hi
      simp [hfirst, ih hnodup.2 hj]

/-- Removing an object leaves the others, in some order. -/
theorem removeSwapping_perm (hnodup : (handles objects).Nodup) (handle : ObjectHandle) :
    (removeSwapping objects handle).Perm (objects.filter fun o => o.handle != handle) := by
  unfold removeSwapping
  split
  · next i last hi hlast =>
    rw [← eraseIdx_eq_filter hnodup hi]
    exact set_dropLast_perm (List.findIdx?_eq_some_iff_getElem.mp hi).1 hlast
  · next hnone =>
    have hall : ∀ o ∈ objects, (o.handle != handle) = true := by
      intro o ho
      cases hi : objects.findIdx? (fun o => o.handle == handle) with
      | none => simpa [bne] using List.findIdx?_eq_none_iff.mp hi o ho
      | some i =>
        cases hlast : objects.getLast? with
        | none =>
          rw [List.getLast?_eq_none_iff.mp hlast] at ho
          cases ho
        | some last => exact absurd hlast (hnone i last hi)
    rw [List.filter_eq_self.mpr hall]

theorem find?_removeSwapping (hnodup : (handles objects).Nodup) {other : ObjectHandle} :
    find? (removeSwapping objects handle) other =
      if other = handle then none else find? objects other := by
  have hsublist : (handles (objects.filter fun o => o.handle != handle)).Nodup :=
    hnodup.sublist (List.filter_sublist.map _)
  rw [find?_of_perm (removeSwapping_perm hnodup handle) hsublist]
  split
  · next heq =>
    subst heq
    rw [find?_eq_none]
    simp [handles]
  · next hne =>
    unfold find?
    rw [List.find?_filter]
    congr 1
    funext o
    by_cases ho : o.handle = other
    · simp [ho, hne]
    · simp [ho]

/-- Removing an object right after it was added. -/
theorem removeSwapping_append (hnew : object.handle ∉ handles objects) :
    removeSwapping (objects ++ [object]) object.handle = objects := by
  have hnone : objects.findIdx? (fun o => o.handle == object.handle) = none := by
    rw [List.findIdx?_eq_none_iff]
    intro o ho
    exact beq_eq_false_iff_ne.mpr fun heq => hnew (heq ▸ List.mem_map_of_mem ho)
  have hindex : (objects ++ [object]).findIdx? (fun o => o.handle == object.handle) =
      some objects.length := by
    simp [List.findIdx?_append, hnone]
  simp [removeSwapping, hindex]

-- ═══════════════════════════════════════════════════════════════════════════
-- Tables
-- ═══════════════════════════════════════════════════════════════════════════

/-- At most `capacity` sound objects with distinct handles that all satisfy `p`. -/
structure IsTable (p : ObjectHandle → Prop) (capacity : Nat) (objects : List StoredObject) :
    Prop where
  nodup : (handles objects).Nodup
  placed : ∀ object ∈ objects, p object.handle
  sound : ∀ object ∈ objects, object.IsSound
  length_le : objects.length ≤ capacity

namespace IsTable

variable {p : ObjectHandle → Prop} {capacity : Nat}

theorem nil : IsTable p capacity [] where
  nodup := List.nodup_nil
  placed _ h := by cases h
  sound _ h := by cases h
  length_le := Nat.zero_le _

theorem append (h : IsTable p capacity objects) (hnew : object.handle ∉ handles objects)
    (hplaced : p object.handle) (hsound : object.IsSound) (hroom : objects.length < capacity) :
    IsTable p capacity (objects ++ [object]) where
  nodup := by
    unfold handles
    rw [List.map_append]
    refine List.Nodup.append h.nodup (List.nodup_singleton _) fun handle hmem hsingle => ?_
    rw [List.mem_singleton.mp hsingle] at hmem
    exact hnew hmem
  placed o ho := by
    rcases List.mem_append.mp ho with ho | ho
    · exact h.placed o ho
    · rwa [List.mem_singleton.mp ho]
  sound o ho := by
    rcases List.mem_append.mp ho with ho | ho
    · exact h.sound o ho
    · rwa [List.mem_singleton.mp ho]
  length_le := by
    rw [List.length_append, List.length_singleton]
    omega

theorem set (h : IsTable p capacity objects) (hplaced : p object.handle) (hsound : object.IsSound)
    {i : Nat} (hi : objects.findIdx? (fun o => o.handle == object.handle) = some i) :
    IsTable p capacity (objects.set i object) where
  nodup := by rw [handles_set hi]; exact h.nodup
  placed o ho := by
    rcases List.mem_or_eq_of_mem_set ho with ho | rfl
    · exact h.placed o ho
    · exact hplaced
  sound o ho := by
    rcases List.mem_or_eq_of_mem_set ho with ho | rfl
    · exact h.sound o ho
    · exact hsound
  length_le := by rw [List.length_set]; exact h.length_le

theorem removeSwapping (h : IsTable p capacity objects) (handle : ObjectHandle) :
    IsTable p capacity (removeSwapping objects handle) := by
  have hperm := removeSwapping_perm h.nodup handle
  have hmem : ∀ o ∈ StoredObject.removeSwapping objects handle, o ∈ objects := fun o ho =>
    List.mem_of_mem_filter (hperm.mem_iff.mp ho)
  refine ⟨?_, fun o ho => h.placed o (hmem o ho), fun o ho => h.sound o (hmem o ho), ?_⟩
  · exact (hperm.map _).nodup_iff.mpr (h.nodup.sublist (List.filter_sublist.map _))
  · rw [hperm.length_eq]
    exact Nat.le_trans (List.length_filter_le ..) h.length_le

/-- What is found under a handle is the serialisation of an object with that handle. -/
theorem handle_of_find? (h : IsTable p capacity objects) {view : ObjectView}
    (hfind : (find? objects handle).bind (fun o => ObjectView.parse? o.blob) = some view) :
    view.handle = handle := by
  obtain ⟨found, hfound, hview⟩ := Option.bind_eq_some_iff.mp hfind
  obtain ⟨hmem, rfl⟩ := mem_of_find? hfound
  have hnamed := (h.sound found hmem).2
  rw [hview] at hnamed
  exact Option.some.inj hnamed

end IsTable

end KeyEnclave.StoredObject
