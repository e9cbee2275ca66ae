import KeyEnclave.Cryptoki
import KeyEnclave.Limits

/-!
# Latches

One-way latches that disable functions and keys until the next reset. An identifier beyond the
latches can not be latched; it never dispatches and never belongs to a range, so there is nothing
to protect.

## Main definitions

* `Latches` — one latch per function word and one per object handle.
* `Latches.lockFunction`, `Latches.lockKey` — set a latch.
* `Latches.isFunctionLocked`, `Latches.isKeyLocked` — read a latch.
-/

namespace KeyEnclave

/-- The latches of the enclave, all open after a reset. -/
structure Latches where
  functions : BitVec Limits.lockableFunctions
  keys : BitVec Limits.lockableKeys
  deriving DecidableEq, Repr

namespace Latches

/-- Every latch open. -/
def allOpen : Latches := ⟨0, 0⟩

instance : Inhabited Latches := ⟨allOpen⟩

/-- Set the latch of a function. -/
def lockFunction (latches : Latches) (id : UInt32) : Latches :=
  if id.toNat < Limits.lockableFunctions then
    { latches with functions := latches.functions ||| BitVec.twoPow _ id.toNat }
  else latches

/-- Whether a function is latched. -/
def isFunctionLocked (latches : Latches) (id : UInt32) : Bool :=
  latches.functions.getLsbD id.toNat

/-- Set the latch of a key. -/
def lockKey (latches : Latches) (handle : ObjectHandle) : Latches :=
  if handle.toNat < Limits.lockableKeys then
    { latches with keys := latches.keys ||| BitVec.twoPow _ handle.toNat }
  else latches

/-- Whether a key is latched. -/
def isKeyLocked (latches : Latches) (handle : ObjectHandle) : Bool :=
  latches.keys.getLsbD handle.toNat

theorem isFunctionLocked_lockFunction (latches : Latches) (id other : UInt32) :
    (latches.lockFunction id).isFunctionLocked other =
      (latches.isFunctionLocked other ||
        (decide (other.toNat < Limits.lockableFunctions) && id == other)) := by
  unfold lockFunction isFunctionLocked
  by_cases h : id = other
  · subst h
    split <;> simp [*]
  · have hne : id.toNat ≠ other.toNat := fun he => h (UInt32.toNat_inj.mp he)
    split <;> simp [h, hne, BitVec.getLsbD_twoPow]

theorem isKeyLocked_lockKey (latches : Latches) (handle other : ObjectHandle) :
    (latches.lockKey handle).isKeyLocked other =
      (latches.isKeyLocked other ||
        (decide (other.toNat < Limits.lockableKeys) && handle == other)) := by
  unfold lockKey isKeyLocked
  by_cases h : handle = other
  · subst h
    split <;> simp [*]
  · have hne : handle.toNat ≠ other.toNat := fun he => h (UInt32.toNat_inj.mp he)
    split <;> simp [h, hne, BitVec.getLsbD_twoPow]

@[simp] theorem isKeyLocked_lockFunction (latches : Latches) (id : UInt32) (handle : ObjectHandle) :
    (latches.lockFunction id).isKeyLocked handle = latches.isKeyLocked handle := by
  unfold lockFunction
  split <;> rfl

@[simp] theorem isFunctionLocked_lockKey (latches : Latches) (handle : ObjectHandle) (id : UInt32) :
    (latches.lockKey handle).isFunctionLocked id = latches.isFunctionLocked id := by
  unfold lockKey
  split <;> rfl

end Latches

end KeyEnclave
