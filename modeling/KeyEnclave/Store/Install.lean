import KeyEnclave.Store.Basic

/-!
# Installing objects

A list of installed objects is stored as a whole or not at all: capacity is checked before the
first write, and the records written before a failed write are taken back.

## Main definitions

* `ObjectStore.checkInstall` — the objects of a list of blobs, if all may be installed.
* `ObjectStore.addedCount` — how many of them the cache does not have yet.
* `ObjectStore.rollBack` — take back the records of objects that were written.
* `ObjectStore.installAll` — store the objects, replacing those with the same handles.
-/

namespace KeyEnclave.ObjectStore

variable {N : Type}

/-- The objects of the blobs, each of which has to be an object of the installed range that fits
the cache. -/
def checkInstall (layout : ObjectLayout) : List Bytes → Except StoreError (List StoredObject)
  | [] => .ok []
  | blob :: blobs => do
    let handle ← handleOf blob
    if layout.classify handle ≠ .nvmStatic then throw .wrongRange
    let object ← checkSize handle blob
    let objects ← checkInstall layout blobs
    pure (object :: objects)

/-- The number of distinct handles of `objects` that are neither in `seen` nor cached. -/
def addedCount (cached : List StoredObject) (seen : List ObjectHandle) :
    List StoredObject → Nat
  | [] => 0
  | object :: objects =>
    let isNew := !seen.contains object.handle && !StoredObject.holds cached object.handle
    (if isNew then 1 else 0) + addedCount cached (object.handle :: seen) objects

variable [NvmStorage N]

/-- Take back the record of an object that was written: restore the cached object with its handle,
or remove the record. A failure is passed over. -/
def rollBackOne (object : StoredObject) : Step N Unit := do
  match StoredObject.find? (← get).cached object.handle with
  | some previous => let _ ← Action.attempt (persist previous)
  | none => let _ ← askNvm (.remove object.handle)

/-- Take back the records of objects that were written. -/
def rollBack (written : List StoredObject) : Step N Unit := written.forM rollBackOne

/-- Write the records of objects, after those of `written`; on a failure take all of them back. -/
def persistAll (written : List StoredObject) : List StoredObject → Step N Unit
  | [] => pure ()
  | object :: objects => do
    match ← Action.attempt (persist object) with
    | .ok () => persistAll (written ++ [object]) objects
    | .error e =>
      rollBack written
      throw e

/-- Put an object into the cache, in the place of one with the same handle if there is one. -/
def cacheObject (object : StoredObject) : Step N Unit := do
  let store ← get
  match store.cached.findIdx? fun o => o.handle == object.handle with
  | some i => set { store with cached := store.cached.set i object }
  | none => pushCached object

/-- Store all objects of a list of blobs, the last of several with one handle, or none. -/
def installAll (blobs : List Bytes) : Step N Unit := do
  let store ← get
  let objects ← Action.ofExcept (checkInstall store.layout blobs)
  if Limits.cachedObjects < store.cached.length + addedCount store.cached [] objects then
    throw .full
  persistAll [] objects
  objects.forM cacheObject

end KeyEnclave.ObjectStore
