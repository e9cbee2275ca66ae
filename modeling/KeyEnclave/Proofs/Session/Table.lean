import KeyEnclave.Session.Table

/-!
# Changes of the session table

Every change of the table replaces one record, or all of them when the library comes up or goes
down. The lemmas here say which record a session has afterwards.

## Main definitions

* `SessionTable.put` — the table with another record for a session.
* `SessionTable.drop` — the table without the record of a session.
-/

namespace KeyEnclave

namespace PerSession

variable {α : Type}

theorem index?_isSome_of_get? {table : PerSession α} {handle : SessionHandle} {entry : α}
    (h : table.get? handle = some entry) : handle.index?.isSome := by
  unfold get? at h
  split at h
  · next i hi => rw [hi]; rfl
  · cases h

theorem get?_set (table : PerSession α) (handle other : SessionHandle) (entry : Option α)
    (h : handle.index?.isSome) :
    (table.set handle entry).get? other = if other = handle then entry else table.get? other := by
  by_cases heq : other = handle
  · subst heq
    rw [if_pos rfl, get?_set_self table other entry h]
  · rw [if_neg heq, get?_set_other table entry (Ne.symm heq)]

/-- Removing the entry of any handle, one of a session or not. -/
theorem get?_set_none (table : PerSession α) (handle other : SessionHandle) :
    (table.set handle none).get? other = if other = handle then none else table.get? other := by
  cases hi : handle.index? with
  | some i => exact get?_set table handle other none (by rw [hi]; rfl)
  | none =>
    have hset : table.set handle none = table := by rw [set, hi]
    rw [hset]
    split
    · next heq => subst heq; rw [get?, hi]
    · rfl

theorem set_set (table : PerSession α) (handle : SessionHandle) (first second : Option α) :
    (table.set handle first).set handle second = table.set handle second := by
  unfold set
  cases handle.index? with
  | none => rfl
  | some i => simp

theorem set_get? (table : PerSession α) (handle : SessionHandle) :
    table.set handle (table.get? handle) = table := by
  unfold set get?
  cases handle.index? with
  | none => rfl
  | some i => simp

theorem get?_firstFree? {table : PerSession α} {handle : SessionHandle}
    (h : table.firstFree? = some handle) : table.get? handle = none := by
  simpa using List.find?_some h

theorem index?_isSome_of_mem_all {handle : SessionHandle} (h : handle ∈ SessionHandle.all) :
    handle.index?.isSome :=
  List.all_eq_true.mp (by decide : SessionHandle.all.all fun handle => handle.index?.isSome) handle h

theorem get?_of_not_mem_all {table : PerSession α} {handle : SessionHandle}
    (h : handle ∉ SessionHandle.all) : table.get? handle = none := by
  unfold get?
  split
  · next i hi =>
    refine absurd ?_ h
    unfold SessionHandle.index? at hi
    split at hi
    · next hrange =>
      refine List.mem_map.mpr ⟨handle.toNat - 1, List.mem_range.mpr (by omega), ?_⟩
      rw [Nat.sub_add_cancel hrange.1]
      exact UInt32.ofNat_toNat
    · cases hi
  · rfl

theorem index?_isSome_of_firstFree? {table : PerSession α} {handle : SessionHandle}
    (h : table.firstFree? = some handle) : handle.index?.isSome :=
  index?_isSome_of_mem_all (List.mem_of_find?_eq_some h)

theorem any_of_find? {table : PerSession α} {p : α → Bool} {handle : SessionHandle}
    (h : table.find? p = some handle) : ∃ entry, table.get? handle = some entry ∧ p entry = true := by
  have hany := List.find?_some h
  cases hget : table.get? handle with
  | none =>
    rw [hget] at hany
    cases hany
  | some entry =>
    rw [hget] at hany
    exact ⟨entry, rfl, hany⟩

/-- An entry that is the only one to satisfy a condition is found. -/
theorem find?_of_unique {table : PerSession α} {p : α → Bool} {handle : SessionHandle} {entry : α}
    (hget : table.get? handle = some entry) (hp : p entry = true)
    (hunique : ∀ other found, table.get? other = some found → p found = true → other = handle) :
    table.find? p = some handle := by
  have hmem : handle ∈ SessionHandle.all := by
    refine Decidable.byContradiction fun hout => ?_
    rw [get?_of_not_mem_all hout] at hget
    cases hget
  cases hfind : table.find? p with
  | none =>
    have hnot := List.find?_eq_none.mp hfind handle hmem
    rw [hget] at hnot
    exact absurd hp hnot
  | some found =>
    obtain ⟨other, hother, hsatisfied⟩ := any_of_find? hfind
    rw [hunique found other hother hsatisfied]

end PerSession

namespace SessionTable

/-- The table with another record for a session. -/
def put (table : SessionTable) (handle : SessionHandle) (session : Session) : SessionTable :=
  { table with sessions := table.sessions.set handle (some session) }

/-- The table without the record of a session. -/
def drop (table : SessionTable) (handle : SessionHandle) : SessionTable :=
  { table with sessions := table.sessions.set handle none }

variable {table : SessionTable} {handle other : SessionHandle} {session : Session}

theorem get_eq_ok : table.get handle = .ok session ↔ table.sessions.get? handle = some session := by
  unfold get
  cases table.sessions.get? handle with
  | none => simp
  | some found => simp

@[simp] theorem isUp_put : (table.put handle session).isUp = table.isUp := rfl

@[simp] theorem isUp_drop : (table.drop handle).isUp = table.isUp := rfl

theorem get?_put_of_index (h : handle.index?.isSome) :
    (table.put handle session).sessions.get? other =
      if other = handle then some session else table.sessions.get? other :=
  PerSession.get?_set _ _ _ _ h

theorem get?_put {record : Session} (h : table.sessions.get? handle = some record) :
    (table.put handle session).sessions.get? other =
      if other = handle then some session else table.sessions.get? other :=
  get?_put_of_index (PerSession.index?_isSome_of_get? h)

theorem get?_drop :
    (table.drop handle).sessions.get? other =
      if other = handle then none else table.sessions.get? other :=
  PerSession.get?_set_none _ _ _

theorem update_eq_put (f : Session → Session) (h : table.sessions.get? handle = some session) :
    table.update handle f = .ok (table.put handle (f session)) := by
  unfold update
  rw [get_eq_ok.mpr h]
  rfl

theorem update_eq_error (f : Session → Session) (h : table.sessions.get? handle = none) :
    table.update handle f = .error .sessionHandleInvalid := by
  unfold update get
  rw [h]
  rfl

theorem close_eq_drop (h : table.sessions.get? handle = some session) :
    table.close handle = .ok (table.drop handle) := by
  unfold close
  rw [get_eq_ok.mpr h]
  rfl

theorem close_eq_error (h : table.sessions.get? handle = none) :
    table.close handle = .error .sessionHandleInvalid := by
  unfold close get
  rw [h]
  rfl

theorem reset_eq_put (h : table.sessions.get? handle = some session) :
    table.reset handle = table.put handle session.reset := by
  unfold reset
  rw [update_eq_put _ h]

@[simp] theorem nesting_reset : (table.reset handle).nesting = table.nesting := by
  cases h : table.sessions.get? handle with
  | some session =>
    rw [reset_eq_put h]
    rfl
  | none => simp [reset, update, get, h, bind, Except.bind]

@[simp] theorem isUp_reset : (table.reset handle).isUp = table.isUp := by
  rw [isUp, nesting_reset, isUp]

theorem get?_reset :
    (table.reset handle).sessions.get? other =
      if other = handle then (table.sessions.get? handle).map Session.reset
      else table.sessions.get? other := by
  cases h : table.sessions.get? handle with
  | some session => rw [reset_eq_put h, get?_put h]; rfl
  | none =>
    have hsame : table.reset handle = table := by
      simp [reset, update, get, h, bind, Except.bind]
    rw [hsame]
    split
    · next heq => rw [heq, h]; rfl
    · rfl

/-- A session that is opened and closed again leaves the table as it was. -/
theorem drop_put (h : table.sessions.get? handle = none) :
    (table.put handle session).drop handle = table := by
  have hset : (table.sessions.set handle (some session)).set handle none = table.sessions := by
    rw [PerSession.set_set]
    conv => rhs; rw [← PerSession.set_get? table.sessions handle, h]
  unfold put drop
  rw [hset]

theorem put_put (session session' : Session) :
    (table.put handle session).put handle session' = table.put handle session' := by
  unfold put
  rw [PerSession.set_set]

theorem openSession_eq_ok {slot : UInt32} {flags : Flags} {notify : Option Notify}
    {opened : SessionTable} (h : table.openSession slot flags notify = .ok (handle, opened)) :
    table.isUp = true ∧ table.sessions.firstFree? = some handle ∧
      opened = table.put handle (Session.fresh slot flags notify) := by
  unfold openSession at h
  split at h
  · cases h
  · next hup =>
    split at h
    · cases h
    · cases hfree : table.sessions.firstFree? with
      | none => rw [hfree] at h; cases h
      | some found =>
        rw [hfree] at h
        simp only [Except.ok.injEq, Prod.mk.injEq] at h
        obtain ⟨rfl, rfl⟩ := h
        exact ⟨by simpa using hup, rfl, rfl⟩

/-- The bits of a counter say what they count. -/
theorem nesting_eq_iff {nesting : UInt8} :
    table.nesting = nesting ↔ table.nesting.toNat = nesting.toNat := UInt8.toNat_inj.symm

theorem isUp_iff : table.isUp = true ↔ 0 < table.nesting.toNat := by
  rw [isUp, bne_iff_ne, ne_eq, nesting_eq_iff]
  exact Nat.pos_iff_ne_zero.symm

theorem nesting_pos (h : table.isUp = true) : 0 < table.nesting := by
  rw [UInt8.lt_iff_toNat_lt]
  exact isUp_iff.mp h

theorem bringUp_of_isUp (h : table.isUp = true) : table.bringUp.1 ≠ .ok := by
  have hpos := nesting_pos h
  unfold bringUp
  by_cases hdeepest : table.nesting = maxNesting
  · rw [if_pos hdeepest]
    exact fun h => by cases h
  · rw [if_neg hdeepest, if_pos hpos]
    exact fun h => by cases h

theorem bringUp_of_full (h : table.nesting = maxNesting) :
    table.bringUp = (.functionFailed, table) := if_pos h

theorem bringUp_of_nested (h : table.isUp = true) (hroom : table.nesting ≠ maxNesting) :
    table.bringUp =
      (.cryptokiAlreadyInitialised, { table with nesting := table.nesting + 1 }) := by
  unfold bringUp
  rw [if_neg hroom, if_pos (nesting_pos h)]

theorem bringUp_of_isDown (h : table.isUp = false) : table.bringUp = (.ok, ⟨1, .empty⟩) := by
  have hzero : table.nesting = 0 := by simpa [isUp] using h
  unfold bringUp
  rw [hzero]
  rfl

theorem bringDown_of_one (h : table.nesting = 1) : table.bringDown = (.ok, true, .down) := by
  unfold bringDown
  rw [h]
  rfl

theorem bringDown_of_ne_one (h : table.nesting ≠ 1) : table.bringDown.2.1 = false := by
  unfold bringDown
  rw [if_neg h]
  split <;> rfl

theorem bringDown_of_isDown (h : table.isUp = false) :
    table.bringDown = (.cryptokiNotInitialised, false, table) :=
  if_pos (by simpa [isUp] using h)

theorem bringDown_of_nested (h : table.isUp = true) (hnesting : table.nesting ≠ 1) :
    table.bringDown = (.ok, false, { table with nesting := table.nesting - 1 }) := by
  have hne : table.nesting ≠ 0 := by simpa [isUp] using h
  unfold bringDown
  rw [if_neg hne, if_neg hnesting]

theorem isUp_of_nesting (h : table.nesting = 1) : table.isUp = true := by
  unfold isUp
  rw [h]
  rfl

/-- The library stays up when it is brought up once more. -/
theorem isUp_bringUp (h : table.isUp = true) : table.bringUp.2.isUp = true := by
  have hne : table.nesting ≠ 0 := by simpa [isUp] using h
  unfold bringUp
  split
  · exact h
  · next hdeepest =>
    split
    · simp only [isUp, bne_iff_ne, ne_eq]
      intro hzero
      exact hdeepest (UInt8.add_left_inj 1 |>.mp hzero)
    · rfl

/-- The library stays up or down when it is brought down, but for the last time. -/
theorem isUp_bringDown (h : table.nesting ≠ 1) : table.bringDown.2.2.isUp = table.isUp := by
  unfold bringDown
  split
  · rfl
  · next hzero =>
    have hpred : table.nesting - 1 ≠ 0 := fun heq => h (UInt8.sub_left_inj 1 |>.mp heq)
    show (table.nesting - 1 != 0) = (table.nesting != 0)
    rw [bne_iff_ne.mpr hpred, bne_iff_ne.mpr hzero]

theorem sessions_bringUp (h : table.isUp = true) :
    table.bringUp.2.sessions = table.sessions := by
  unfold bringUp
  split
  · rfl
  · rw [if_pos (nesting_pos h)]

theorem sessions_bringDown (h : table.nesting ≠ 1) :
    table.bringDown.2.2.sessions = table.sessions := by
  unfold bringDown
  rw [if_neg h]
  split <;> rfl

theorem nextFound_eq {capacity : Nat} (hget : table.sessions.get? handle = some session) :
    table.nextFound handle capacity =
      if session.state ≠ .searching then .error .operationNotInitialised
      else .ok (session.pending.take capacity, table.put handle
        { session with cursor := session.cursor + (session.pending.take capacity).length }) := by
  unfold nextFound
  rw [get_eq_ok.mpr hget]
  simp only [update_eq_put _ hget, bind, Except.bind]
  split <;> rfl

theorem nextFound_eq_ok {capacity : Nat} {page : List ObjectHandle} {turned : SessionTable}
    (hget : table.sessions.get? handle = some session)
    (h : table.nextFound handle capacity = .ok (page, turned)) :
    session.state = .searching ∧ page = session.pending.take capacity ∧
      turned = table.put handle { session with cursor := session.cursor + page.length } := by
  rw [nextFound_eq hget] at h
  split at h
  · cases h
  · next hstate =>
    simp only [Except.ok.injEq, Prod.mk.injEq] at h
    obtain ⟨rfl, rfl⟩ := h
    exact ⟨Decidable.not_not.mp hstate, rfl, rfl⟩

end SessionTable

end KeyEnclave
