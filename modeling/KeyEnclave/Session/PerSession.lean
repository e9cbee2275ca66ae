import KeyEnclave.Cryptoki
import KeyEnclave.Limits

/-!
# One entry per session

Session handles count from 1 to the number of sessions. Tables indexed by them hold at most one
entry for each.

## Main definitions

* `SessionHandle.index?` — the position of a handle's entry.
* `PerSession` — a table; `PerSession.get?` reads and `PerSession.set` replaces an entry.
* `PerSession.firstFree?` — the lowest handle without an entry.
-/

namespace KeyEnclave

/-- The position of a session's entry, if the handle is one of a session at all. -/
def SessionHandle.index? (handle : SessionHandle) : Option (Fin Limits.sessions) :=
  if h : 1 ≤ handle.toNat ∧ handle.toNat ≤ Limits.sessions then
    some ⟨handle.toNat - 1, by omega⟩
  else none

/-- Every session handle in ascending order. -/
def SessionHandle.all : List SessionHandle :=
  (List.range Limits.sessions).map fun i => UInt32.ofNat (i + 1)

/-- At most one entry for each session handle. -/
structure PerSession (α : Type) where
  entries : Vector (Option α) Limits.sessions
  deriving DecidableEq, Repr

namespace PerSession

variable {α : Type}

/-- A table without entries. -/
def empty : PerSession α := ⟨Vector.replicate _ none⟩

instance : Inhabited (PerSession α) := ⟨empty⟩

/-- The entry of a session. -/
def get? (table : PerSession α) (handle : SessionHandle) : Option α :=
  match handle.index? with
  | some i => table.entries[i]
  | none => none

/-- Replace the entry of a session; a handle of no session has none to replace. -/
def set (table : PerSession α) (handle : SessionHandle) (entry : Option α) : PerSession α :=
  match handle.index? with
  | some i => ⟨table.entries.set i entry⟩
  | none => table

/-- The entries that are present, in the order of their handles. -/
def present (table : PerSession α) : List α := table.entries.toList.filterMap id

/-- The lowest handle without an entry. -/
def firstFree? (table : PerSession α) : Option SessionHandle :=
  SessionHandle.all.find? fun handle => (table.get? handle).isNone

/-- The lowest handle whose entry satisfies `p`. -/
def find? (table : PerSession α) (p : α → Bool) : Option SessionHandle :=
  SessionHandle.all.find? fun handle => (table.get? handle).any p

theorem index?_injective {h₁ h₂ : SessionHandle} {i : Fin Limits.sessions}
    (e₁ : h₁.index? = some i) (e₂ : h₂.index? = some i) : h₁ = h₂ := by
  unfold SessionHandle.index? at e₁ e₂
  split at e₁
  · split at e₂
    · next ha hb =>
      simp only [Option.some.injEq] at e₁ e₂
      have hval := congrArg Fin.val (e₁.trans e₂.symm)
      simp only at hval
      exact UInt32.toNat_inj.mp (by omega)
    · simp at e₂
  · simp at e₁

@[simp] theorem get?_empty (handle : SessionHandle) :
    (empty : PerSession α).get? handle = none := by
  unfold get? empty
  split <;> simp

theorem get?_set_self (table : PerSession α) (handle : SessionHandle) (entry : Option α)
    (h : handle.index?.isSome) : (table.set handle entry).get? handle = entry := by
  obtain ⟨i, hi⟩ := Option.isSome_iff_exists.mp h
  simp [get?, set, hi]

theorem get?_set_other (table : PerSession α) {handle other : SessionHandle} (entry : Option α)
    (h : handle ≠ other) : (table.set handle entry).get? other = table.get? other := by
  unfold get? set
  split
  · next j hj =>
    split
    · next i hi =>
      have hne : i ≠ j := fun e => h (index?_injective (e ▸ hi) hj)
      have : (i : Nat) ≠ (j : Nat) := fun e => hne (Fin.ext e)
      simp [this]
    · rfl
  · rfl

end PerSession

end KeyEnclave
