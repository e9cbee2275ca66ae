import KeyEnclave.Store.Nvm

/-!
# Simulated storage

Persistent storage kept in memory, with the faults it is told to have.

## Main definitions

* `NvmFaults` — which operations fail.
* `SimulatedNvm` — the records and the faults.
* `SimulatedNvm.put` — replace a record without asking whether that fails.
-/

namespace KeyEnclave

/-- The faults of storage: the keys on which each operation fails. -/
structure NvmFaults where
  read : List UInt32 := []
  write : List UInt32 := []
  remove : List UInt32 := []
  /-- The write, counted from 1, from which on every write fails. -/
  writesFrom : Option Nat := none
  deriving DecidableEq, Repr, Inhabited

/-- Whether an operation fails, given the number of writes up to and with it. -/
def NvmFaults.hits (faults : NvmFaults) (writes : Nat) : NvmOp → Bool
  | .read key _ => faults.read.contains key
  | .write key _ => faults.write.contains key || faults.writesFrom.any (· ≤ writes)
  | .remove key => faults.remove.contains key

/-- Storage in memory. -/
structure SimulatedNvm where
  /-- At most one record for each key. -/
  records : List (UInt32 × Bytes) := []
  /-- The number of writes so far. -/
  writes : Nat := 0
  faults : NvmFaults := {}
  deriving DecidableEq, Repr, Inhabited

namespace SimulatedNvm

/-- Forget the record of a key. -/
def drop (nvm : SimulatedNvm) (key : UInt32) : SimulatedNvm :=
  { nvm with records := nvm.records.filter fun record => record.1 != key }

/-- Keep data under a key. -/
def put (nvm : SimulatedNvm) (key : UInt32) (data : Bytes) : SimulatedNvm :=
  { nvm with records := (key, data) :: (nvm.drop key).records }

/-- Read what is kept under a key; a record longer than the buffer can not be read. -/
def read (nvm : SimulatedNvm) (key : UInt32) (room : Nat) : Except NvmError (Option Bytes) :=
  match nvm.records.lookup key with
  | none => .ok none
  | some data => if room < data.length then .error .failed else .ok (some data)

instance : NvmStorage SimulatedNvm where
  serve
    | .read key room, nvm =>
      if nvm.faults.hits nvm.writes (.read key room) then (.error .failed, nvm)
      else (nvm.read key room, nvm)
    | .write key data, nvm =>
      let nvm := { nvm with writes := nvm.writes + 1 }
      if nvm.faults.hits nvm.writes (.write key data) then (.error .failed, nvm)
      else (.ok (), nvm.put key data)
    | .remove key, nvm =>
      if nvm.faults.hits nvm.writes (.remove key) then (.error .failed, nvm)
      else (.ok (), nvm.drop key)

end SimulatedNvm

end KeyEnclave
