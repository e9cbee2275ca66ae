import KeyEnclave.Action
import KeyEnclave.Handle.Layout
import KeyEnclave.Identifier.ReturnCode
import KeyEnclave.Object.View
import KeyEnclave.Record.Codec
import KeyEnclave.Store.Nvm

/-!
# The object store

Embedded objects are read straight from the firmware. Persistent objects are kept in storage and
cached in RAM while the library is up. Volatile objects live in RAM only.

## Main definitions

* `StoreError` — why the store refuses, and the return code of each reason.
* `ObjectStore` — the store over a kind of storage.
* `ObjectStore.get?`, `ObjectStore.handles` — the object under a handle, the handles in use.
* `ObjectStore.load`, `ObjectStore.release` — fill the cache from storage, empty the RAM.
* `ObjectStore.insert`, `ObjectStore.remove` — store and remove one object.
-/

namespace KeyEnclave

/-- Why the store refuses. -/
inductive StoreError
  | notFound
  | full
  | exists
  | wrongRange
  | malformed
  | readFailed
  | writeFailed
  | serializationFailed
  | deserializationFailed
  deriving DecidableEq, Repr, Inhabited

/-- The return code that reports a refusal. -/
def StoreError.code : StoreError → ReturnCode
  | .notFound => .objectHandleInvalid
  | .full => .hostMemory
  | .exists => .actionProhibited
  | .wrongRange => .objectHandleInvalid
  | .malformed => .dataInvalid
  | .readFailed | .writeFailed => .deviceMemory
  | .serializationFailed | .deserializationFailed => .generalError

/-- A serialised object in RAM, with its handle. -/
structure StoredObject where
  handle : ObjectHandle
  blob : Bytes
  deriving DecidableEq, Repr, Inhabited

namespace StoredObject

/-- The first object with a handle. -/
def find? (objects : List StoredObject) (handle : ObjectHandle) : Option StoredObject :=
  List.find? (fun o => o.handle == handle) objects

/-- Whether an object has a handle. -/
def holds (objects : List StoredObject) (handle : ObjectHandle) : Bool :=
  objects.any fun o => o.handle == handle

/-- Remove the first object with a handle; the last object takes its place. -/
def removeSwapping (objects : List StoredObject) (handle : ObjectHandle) : List StoredObject :=
  match objects.findIdx? (fun o => o.handle == handle), objects.getLast? with
  | some i, some last => (objects.set i last).dropLast
  | _, _ => objects

end StoredObject

/-- The objects of the enclave, over storage with states in `N`. -/
structure ObjectStore (N : Type) where
  layout : ObjectLayout
  /-- Serialised objects baked into the firmware. -/
  embedded : List Bytes
  nvm : N
  /-- Persistent objects, as far as they are cached. -/
  cached : List StoredObject
  volatile : List StoredObject
  deriving DecidableEq

namespace ObjectStore

variable {N : Type}

/-- A store with nothing in RAM. -/
def new (layout : ObjectLayout) (embedded : List Bytes) (nvm : N) : ObjectStore N :=
  ⟨layout, embedded, nvm, [], []⟩

/-- The embedded objects. -/
def embeddedViews (store : ObjectStore N) : List ObjectView :=
  store.embedded.filterMap ObjectView.parse?

/-- Whether every embedded blob is an object of the embedded range. -/
def embeddedValid (store : ObjectStore N) : Bool :=
  store.embedded.all fun blob =>
    match ObjectView.parse? blob with
    | some view => store.layout.classify view.handle == .embedded
    | none => false

/-- Drop the cache and the volatile objects. -/
def release (store : ObjectStore N) : ObjectStore N := { store with cached := [], volatile := [] }

/-- The object under a handle. -/
def get? (store : ObjectStore N) (handle : ObjectHandle) : Option ObjectView :=
  match store.layout.classify handle with
  | .embedded => store.embeddedViews.find? fun view => view.handle == handle
  | .nvmStatic | .nvmDynamic =>
    (StoredObject.find? store.cached handle).bind fun o => ObjectView.parse? o.blob
  | .vmDynamic =>
    (StoredObject.find? store.volatile handle).bind fun o => ObjectView.parse? o.blob
  | .extTokenStatic | .extTokenDynamic | .unknown => none

/-- The handles of the cached objects of one provenance. -/
def cachedHandles (store : ObjectStore N) (provenance : Provenance) : List ObjectHandle :=
  (store.cached.map StoredObject.handle).filter fun h => store.layout.classify h == provenance

/-- The handles of all objects, range by range. -/
def handles (store : ObjectStore N) : List ObjectHandle :=
  store.embeddedViews.map ObjectView.handle ++ store.cachedHandles .nvmStatic ++
    store.cachedHandles .nvmDynamic ++ store.volatile.map StoredObject.handle

/-- The lowest handle of a writable range that no object has. -/
def freeHandle (store : ObjectStore N) (provenance : Provenance) :
    Except StoreError ObjectHandle := do
  let objects ← match provenance with
    | .nvmStatic | .nvmDynamic => pure store.cached
    | .vmDynamic => pure store.volatile
    | .embedded | .extTokenStatic | .extTokenDynamic | .unknown => throw .wrongRange
  match store.layout.range? provenance with
  | none => throw .wrongRange
  | some range =>
    match range.find? fun handle => !StoredObject.holds objects handle with
    | some handle => pure handle
    | none => throw .full

/-- The layout version of the records the store writes and reads. -/
def recordVersion : UInt8 := 1

/-- The longest record: the largest object and what a record adds to it. -/
def recordRoom : Nat := Limits.objectLength + 16

/-- The object that a record read under a handle holds; a record of another version, for another
handle or without an object of that handle is passed over. -/
def objectOfRecord (handle : ObjectHandle) (data : Bytes) :
    Except StoreError (Option StoredObject) :=
  match StorageRecord.codec.decode data with
  | .error _ => .error .deserializationFailed
  | .ok (record, _) =>
    if record.version ≠ recordVersion ∨ record.handle ≠ handle then .ok none
    else if (ObjectView.parse? record.blob).map ObjectView.handle ≠ some handle then .ok none
    else if Limits.objectLength < record.blob.length then .error .full
    else .ok (some ⟨handle, record.blob⟩)

/-- The record under which an object is kept. -/
def recordOf (object : StoredObject) : Bytes :=
  StorageRecord.codec.encode ⟨recordVersion, object.handle, object.blob⟩

/-- What the store does, with its exchanges with storage. -/
abbrev Step (N α : Type) := Action (ObjectStore N) NvmExchange StoreError α

variable [NvmStorage N]

/-- One exchange with storage. -/
def askNvm (op : NvmOp) : Step N op.Reply :=
  Action.ask ObjectStore.nvm (fun store nvm => { store with nvm := nvm }) NvmStorage.serve
    id op

/-- Add an object to the cache. -/
def pushCached (object : StoredObject) : Step N Unit := do
  let store ← get
  if Limits.cachedObjects ≤ store.cached.length then throw .full
  set { store with cached := store.cached ++ [object] }

/-- Add an object to the volatile ones. -/
def pushVolatile (object : StoredObject) : Step N Unit := do
  let store ← get
  if Limits.volatileObjects ≤ store.volatile.length then throw .full
  set { store with volatile := store.volatile ++ [object] }

/-- Read the record of a handle and cache its object. -/
def loadHandle (handle : ObjectHandle) : Step N Unit := do
  match ← askNvm (.read handle recordRoom) with
  | .error _ => throw .readFailed
  | .ok none => pure ()
  | .ok (some data) =>
    match ← Action.ofExcept (objectOfRecord handle data) with
    | none => pure ()
    | some object => pushCached object

/-- Fill the cache from storage. A failure leaves what was loaded before it. -/
def load : Step N Unit := do
  modify fun store => { store with cached := [] }
  (← get).layout.nvmHandles.forM loadHandle

/-- Write the record of an object. -/
def persist (object : StoredObject) : Step N Unit := do
  let record := recordOf object
  if recordRoom < record.length then throw .serializationFailed
  match ← askNvm (.write object.handle record) with
  | .ok () => pure ()
  | .error _ => throw .writeFailed

/-- The object a blob holds, ready to be kept in RAM. -/
def checkSize (handle : ObjectHandle) (blob : Bytes) : Except StoreError StoredObject :=
  if Limits.objectLength < blob.length then .error .full else .ok ⟨handle, blob⟩

/-- The handle of the object a blob holds. -/
def handleOf (blob : Bytes) : Except StoreError ObjectHandle :=
  match ObjectView.parse? blob with
  | some view => .ok view.handle
  | none => .error .malformed

/-- Store a new object under the handle it carries. -/
def insert (blob : Bytes) : Step N ObjectHandle := do
  let handle ← Action.ofExcept (handleOf blob)
  let store ← get
  if (store.get? handle).isSome then throw .exists
  match store.layout.classify handle with
  | .nvmStatic | .nvmDynamic =>
    let object ← Action.ofExcept (checkSize handle blob)
    if Limits.cachedObjects ≤ store.cached.length then throw .full
    persist object
    pushCached object
  | .vmDynamic =>
    let object ← Action.ofExcept (checkSize handle blob)
    pushVolatile object
  | .embedded | .extTokenStatic | .extTokenDynamic | .unknown => throw .wrongRange
  pure handle

/-- Remove an object that was created at run time. -/
def remove (handle : ObjectHandle) : Step N Unit := do
  let store ← get
  match store.layout.classify handle with
  | .nvmDynamic =>
    if !StoredObject.holds store.cached handle then throw .notFound
    match ← askNvm (.remove handle) with
    | .error _ => throw .writeFailed
    | .ok () =>
      modify fun store =>
        { store with cached := StoredObject.removeSwapping store.cached handle }
  | .vmDynamic =>
    if !StoredObject.holds store.volatile handle then throw .notFound
    modify fun store =>
      { store with volatile := StoredObject.removeSwapping store.volatile handle }
  | .embedded | .nvmStatic | .extTokenStatic | .extTokenDynamic | .unknown => throw .wrongRange

end ObjectStore

end KeyEnclave
