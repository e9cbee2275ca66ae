import KeyEnclave.Action
import KeyEnclave.Firmware.Flash
import KeyEnclave.Firmware.ImageState
import KeyEnclave.Record.Basic
import KeyEnclave.Region

/-!
# Firmware images

Slots hold firmware images behind headers in flash. The header of a slot has the state field of its
image and is open to access as far as it is a header of an active slot.

## Main definitions

* `ImageLayout` — the slots and the places of fields in their headers.
* `FirmwareImages` — the slots over a kind of flash.
* `FirmwareImages.state`, `FirmwareImages.setState` — read the state of an image, move it along an
  edge of the lifecycle.
* `FirmwareImages.read`, `write`, `erase` — access to the headers of active slots.

## Design notes

A state is changed by writing only the words of the field that differ. The field is read twice
first, and nothing is written unless both readings agree and every write clears bits only.
-/

namespace KeyEnclave

/-- Why an operation on images is refused. -/
inductive ImageError
  | unknownSlot
  | notActive
  | outsideHeader
  | illegalTransition
  /-- Two readings of the state field disagree. -/
  | inconsistent
  | wouldSetBits
  | flash
  deriving DecidableEq, Repr, Inhabited

/-- What a slot is for. -/
inductive SlotKind
  /-- The slot executes firmware. -/
  | active
  /-- The slot receives an update. -/
  | download
  deriving DecidableEq, Repr, Inhabited

/-- A slot, with the flash address of its header. -/
structure SlotConfig where
  kind : SlotKind
  header : UInt64
  deriving DecidableEq, Repr, Inhabited

/-- The slots, numbered by their position, and the places in their headers. -/
structure ImageLayout where
  slots : List SlotConfig
  /-- The slot that records validation of all slots. -/
  masterSlot : UInt32
  /-- Where the state field lies in a header. -/
  stateOffset : UInt64
  /-- Where the image lies behind its header: the length of the header area. -/
  imageOffset : UInt64
  deriving DecidableEq, Repr, Inhabited

namespace ImageLayout

/-- A slot by its number. -/
def slot (layout : ImageLayout) (number : UInt32) : Except ImageError SlotConfig :=
  match layout.slots[number.toNat]? with
  | some slot => .ok slot
  | none => .error .unknownSlot

/-- An active slot by its number. -/
def activeSlot (layout : ImageLayout) (number : UInt32) : Except ImageError SlotConfig := do
  let slot ← layout.slot number
  if slot.kind ≠ .active then throw .notActive
  pure slot

/-- Where the state field of a slot lies. -/
def stateAddress (layout : ImageLayout) (slot : SlotConfig) : UInt64 :=
  slot.header + layout.stateOffset

/-- Whether the `len` bytes at `address` lie in the header area of one active slot. -/
def inActiveHeader (layout : ImageLayout) (address : UInt64) (len : Nat) : Bool :=
  address.toNat + len < addressLimit &&
    (layout.slots.filter fun slot => slot.kind == .active).any fun slot =>
      slot.header ≤ address &&
        address.toNat + len ≤ Region.saturatedEnd slot.header layout.imageOffset.toNat

/-- Refuse what is empty or not in a header area. -/
def checkHeaderArea (layout : ImageLayout) (address : UInt64) (len : Nat) :
    Except ImageError Unit :=
  if len = 0 ∨ !layout.inActiveHeader address len then .error .outsideHeader else .ok ()

end ImageLayout

/-- The images of an enclave, over flash with states in `F`. -/
structure FirmwareImages (F : Type) where
  flash : F
  layout : ImageLayout

namespace FirmwareImages

/-- What is done to images, with the exchanges with flash. -/
abbrev Step (F α : Type) := Action (FirmwareImages F) FlashExchange ImageError α

/-- The length of a state field. -/
def stateLength : Nat := 12

/-- The length of the part of a header that has version and size of the image. -/
def infoLength : Nat := 12

/-- The state field in the bytes read from it. -/
def stateWords (bytes : Bytes) : StateWords :=
  let word (position : Nat) : UInt32 := ((bytes.drop position).take 4 |> Bytes.asWord?).getD 0
  ⟨word 0, word 4, word 8⟩

variable {F : Type} [Flash F]

/-- One exchange with flash. -/
def askFlash (op : FlashOp) : Step F op.Reply :=
  Action.ask FirmwareImages.flash (fun images flash => { images with flash := flash }) Flash.serve
    id op

/-- Fail when flash failed. -/
def flashed {α : Type} : Except FlashError α → Except ImageError α
  | .ok a => .ok a
  | .error _ => .error .flash

/-- Read flash. -/
def readFlash (address : UInt64) (len : Nat) : Step F Bytes := do
  let reply ← askFlash (.read address len)
  Action.ofExcept (flashed reply)

/-- Program flash. -/
def writeFlash (address : UInt64) (data : Bytes) : Step F Unit := do
  let reply ← askFlash (.write address data)
  Action.ofExcept (flashed reply)

/-- Read the state field of a slot. -/
def readStateWords (slot : SlotConfig) : Step F StateWords := do
  let layout := (← get).layout
  let bytes ← readFlash (layout.stateAddress slot) stateLength
  pure (stateWords bytes)

/-- The state of the image in a slot. -/
def state (number : UInt32) : Step F ImageState := do
  let slot ← Action.ofExcept ((← get).layout.slot number)
  let words ← readStateWords slot
  pure (ImageState.ofWords words)

/-- Write the words of `next` that differ from those of `now`, the first of which lies at
`address`. -/
def writeChanged (address : UInt64) : List UInt32 → List UInt32 → Step F Unit
  | now :: nows, next :: nexts => do
    if now ≠ next then writeFlash address (Bytes.ofWord next)
    writeChanged (address + 4) nows nexts
  | _, _ => pure ()

/-- Move the image in an active slot to another state along an edge of the lifecycle. -/
def setState (number : UInt32) (requested : ImageState) : Step F Unit := do
  let layout := (← get).layout
  let slot ← Action.ofExcept (layout.activeSlot number)
  let first ← readStateWords slot
  let second ← readStateWords slot
  if first ≠ second then throw .inconsistent
  if !(ImageState.ofWords first).canBecome requested then throw .illegalTransition
  let target := requested.words
  if (first.toList.zip target.toList).any fun (now, next) => next &&& ~~~now != 0 then
    throw .wouldSetBits
  writeChanged (layout.stateAddress slot) first.toList target.toList

/-- Read from a header area. -/
def read (address : UInt64) (len : Nat) : Step F Bytes := do
  Action.ofExcept ((← get).layout.checkHeaderArea address len)
  readFlash address len

/-- Program a header area. -/
def write (address : UInt64) (data : Bytes) : Step F Unit := do
  Action.ofExcept ((← get).layout.checkHeaderArea address data.length)
  writeFlash address data

/-- Erase in a header area. -/
def erase (address : UInt64) (len : Nat) : Step F Unit := do
  Action.ofExcept ((← get).layout.checkHeaderArea address len)
  let reply ← askFlash (.erase address len)
  Action.ofExcept (flashed reply)

/-- Version and size of the firmware in an active slot. -/
def activeInfo (number : UInt32) : Step F ActiveImageInfo := do
  let slot ← Action.ofExcept ((← get).layout.activeSlot number)
  let bytes ← readFlash slot.header infoLength
  pure ⟨UInt16.ofNat (Bytes.toNatLE ((bytes.drop 6).take 2)),
    UInt32.ofNat (Bytes.toNatLE ((bytes.drop 8).take 4))⟩

end FirmwareImages

end KeyEnclave
