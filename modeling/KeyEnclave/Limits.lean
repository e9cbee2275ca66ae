/-!
# Limits

The capacities of the enclave's tables, fixed when it is built.
-/

namespace KeyEnclave.Limits

/-- Sessions open at the same time. -/
def sessions : Nat := 5

/-- Handles that one search collects. -/
def search : Nat := 32

/-- Bytes of the largest serialised object. -/
def objectLength : Nat := 512

/-- Objects in the cache of persistent storage. -/
def cachedObjects : Nat := 40

/-- Objects in the volatile store. -/
def volatileObjects : Nat := 20

/-- Bytes of the largest blob that can be imported. -/
def blobLength : Nat := 2048

/-- Function words covered by a latch. -/
def lockableFunctions : Nat := 128

/-- Object handles covered by a latch. -/
def lockableKeys : Nat := 512

end KeyEnclave.Limits
