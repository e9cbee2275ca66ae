import KeyEnclave.Cryptoki
import KeyEnclave.Limits

/-!
# Handle layout

Every object handle belongs to at most one range, and the range says where the object lives.

## Main definitions

* `Provenance` — where an object lives.
* `HandleRange` — consecutive handles.
* `ObjectLayout` — a range for each provenance, with `ObjectLayout.classify`.
* `ObjectLayout.validate` — the first fault of a layout, if it has one.
* `ConfigError` — why a configuration is refused.
-/

namespace KeyEnclave

/-- Why a configuration is refused. -/
inductive ConfigError
  /-- A range ends before it starts. -/
  | emptyRange
  /-- A range holds the handle that stands for no object. -/
  | nullHandle
  /-- Two ranges share a handle. -/
  | overlap
  /-- A range reaches handles that have no latch. -/
  | beyondLockCapacity
  /-- The persistent ranges hold more handles than the cache. -/
  | beyondStoreCapacity
  /-- An embedded object is malformed or outside of its range. -/
  | embeddedObjectInvalid
  /-- A key for blobs is no embedded object. -/
  | blobKeyNotEmbedded
  deriving DecidableEq, Repr, Inhabited

/-- Where the object designated by a handle lives. -/
inductive Provenance
  /-- Baked into the firmware, immutable. -/
  | embedded
  /-- Installed into persistent storage by blob import, immutable otherwise. -/
  | nvmStatic
  /-- Created at run time and kept in persistent storage. -/
  | nvmDynamic
  /-- Created at run time and lost when the library goes down. -/
  | vmDynamic
  /-- Permanent object of the external token. -/
  | extTokenStatic
  /-- Object created on the external token. -/
  | extTokenDynamic
  /-- No range has the handle. -/
  | unknown
  deriving DecidableEq, Repr, Inhabited

namespace Provenance

/-- Every provenance, in the order in which handles are classified. -/
def all : List Provenance :=
  [embedded, nvmStatic, nvmDynamic, vmDynamic, extTokenStatic, extTokenDynamic, unknown]

/-- Whether the enclave itself holds the object. -/
def isLocal : Provenance → Bool
  | embedded | nvmStatic | nvmDynamic | vmDynamic => true
  | extTokenStatic | extTokenDynamic | unknown => false

/-- Whether the external token holds the object. -/
def isExternal : Provenance → Bool
  | extTokenStatic | extTokenDynamic => true
  | embedded | nvmStatic | nvmDynamic | vmDynamic | unknown => false

end Provenance

/-- The handles from `first` to `last`, both included. -/
structure HandleRange where
  first : ObjectHandle
  last : ObjectHandle
  deriving DecidableEq, Repr, Inhabited

namespace HandleRange

/-- Whether a handle lies in the range. -/
def contains (range : HandleRange) (handle : ObjectHandle) : Bool :=
  range.first ≤ handle && handle ≤ range.last

/-- Whether two non-empty ranges share a handle. -/
def overlaps (range other : HandleRange) : Bool :=
  range.first ≤ other.last && other.first ≤ range.last

/-- The number of handles in the range. -/
def count (range : HandleRange) : Nat := range.last.toNat + 1 - range.first.toNat

/-- The handles of the range in ascending order. -/
def handles (range : HandleRange) : List ObjectHandle :=
  (List.range range.count).map fun i => UInt32.ofNat (range.first.toNat + i)

/-- The lowest of `count` handles from `handle` on that satisfies `p`. -/
def findFrom (p : ObjectHandle → Bool) : Nat → ObjectHandle → Option ObjectHandle
  | 0, _ => none
  | count + 1, handle => if p handle then some handle else findFrom p count (handle + 1)

/-- The lowest handle of the range that satisfies `p`. -/
def find? (range : HandleRange) (p : ObjectHandle → Bool) : Option ObjectHandle :=
  findFrom p range.count range.first

end HandleRange

/-- The handle range of each provenance; a provenance without a range has no objects. -/
structure ObjectLayout where
  embedded : Option HandleRange
  nvmStatic : Option HandleRange
  nvmDynamic : Option HandleRange
  vmDynamic : Option HandleRange
  extTokenStatic : Option HandleRange
  extTokenDynamic : Option HandleRange
  deriving DecidableEq, Repr

namespace ObjectLayout

/-- The layout of an enclave that is configured no other way. -/
def standard : ObjectLayout where
  embedded := some ⟨1, 29⟩
  nvmStatic := some ⟨30, 49⟩
  nvmDynamic := none
  vmDynamic := some ⟨50, 69⟩
  extTokenStatic := some ⟨70, 89⟩
  extTokenDynamic := some ⟨90, 110⟩

instance : Inhabited ObjectLayout := ⟨standard⟩

/-- Each provenance with its range, in the order in which handles are classified. -/
def ranges (layout : ObjectLayout) : List (Provenance × Option HandleRange) :=
  [(.embedded, layout.embedded), (.nvmStatic, layout.nvmStatic), (.nvmDynamic, layout.nvmDynamic),
    (.vmDynamic, layout.vmDynamic), (.extTokenStatic, layout.extTokenStatic),
    (.extTokenDynamic, layout.extTokenDynamic)]

/-- The provenance of the first range that has the handle. -/
def classify (layout : ObjectLayout) (handle : ObjectHandle) : Provenance :=
  match layout.ranges.find? fun entry => entry.2.any (·.contains handle) with
  | some (provenance, _) => provenance
  | none => .unknown

/-- The range of a provenance. -/
def range? (layout : ObjectLayout) : Provenance → Option HandleRange
  | .embedded => layout.embedded
  | .nvmStatic => layout.nvmStatic
  | .nvmDynamic => layout.nvmDynamic
  | .vmDynamic => layout.vmDynamic
  | .extTokenStatic => layout.extTokenStatic
  | .extTokenDynamic => layout.extTokenDynamic
  | .unknown => none

/-- The ranges of persistent objects. -/
def nvmRanges (layout : ObjectLayout) : List HandleRange :=
  [layout.nvmStatic, layout.nvmDynamic].filterMap id

/-- The handles of persistent objects, installed ones first. -/
def nvmHandles (layout : ObjectLayout) : List ObjectHandle :=
  layout.nvmRanges.flatMap HandleRange.handles

/-- The number of handles of persistent objects. -/
def nvmCount (layout : ObjectLayout) : Nat :=
  layout.nvmRanges.foldl (fun count range => count + range.count) 0

/-- Check each range on its own and against those after it. -/
def validateRanges : List HandleRange → Except ConfigError Unit
  | [] => .ok ()
  | range :: later =>
    if range.last < range.first then .error .emptyRange
    else if range.contains 0 then .error .nullHandle
    else if Limits.lockableKeys ≤ range.last.toNat then .error .beyondLockCapacity
    else if later.any (·.overlaps range) then .error .overlap
    else validateRanges later

/-- The first fault of a layout: its ranges are non-empty, without the null handle, below the end
of the latches and disjoint, and the persistent ones fit the cache together. -/
def validate (layout : ObjectLayout) : Except ConfigError Unit := do
  validateRanges (layout.ranges.filterMap Prod.snd)
  if Limits.cachedObjects < layout.nvmCount then .error .beyondStoreCapacity

end ObjectLayout

end KeyEnclave
