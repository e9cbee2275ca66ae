import KeyEnclave.Proofs.Firmware.Rules
import KeyEnclave.Simulation.Flash
import Mathlib.Algebra.Group.Nat.Defs

/-!
# Access to headers

Reading, programming and erasing a header are one check in front of one operation on flash. The check
adds with saturation in one place and refuses what leaves the address space in another; together they
say what exact integers say. The flash may be any at all.

## Main definitions

* `ImageLayout.Opens` — the bytes from an address on lie in the header area of one active slot.
* `FirmwareImages.access` — the three kinds of access as one.
* `FirmwareImages.accessed` — what accesses one after the other exchange with flash.

## Main results

* `FirmwareImages.header_access_is_confined` — flash is asked for what the header areas open, and for
  nothing else.
-/

namespace KeyEnclave

open KeyEnclave.Action

namespace FlashOp

/-- Where the bytes of an operation start. -/
def address : FlashOp → UInt64
  | .read address _ | .write address _ | .erase address _ => address

/-- How many bytes an operation is about. -/
def length : FlashOp → Nat
  | .read _ len | .erase _ len => len
  | .write _ data => data.length

/-- The byte at an address is one that the operation is about. -/
def Touches (op : FlashOp) (a : UInt64) : Prop :=
  op.address.toNat ≤ a.toNat ∧ a.toNat < op.address.toNat + op.length

/-- What whoever asked for an operation is given. -/
abbrev Result : FlashOp → Type
  | .read .. => Bytes
  | .write .. | .erase .. => Unit

/-- The reply of flash, as it is handed on. -/
def handOn : (op : FlashOp) → op.Reply → Except ImageError op.Result
  | .read .., reply => FirmwareImages.flashed reply
  | .write .., reply => FirmwareImages.flashed reply
  | .erase .., reply => FirmwareImages.flashed reply

end FlashOp

-- ═══════════════════════════════════════════════════════════════════════════
-- Header areas
-- ═══════════════════════════════════════════════════════════════════════════

namespace ImageLayout

variable {layout : ImageLayout} {slot low high : SlotConfig} {address a : UInt64} {len : Nat}

/-- The `len` bytes at `address` lie in the header area of a slot. The area may reach past the top
of the address space. -/
structure InHeader (layout : ImageLayout) (slot : SlotConfig) (address : UInt64) (len : Nat) :
    Prop where
  starts : slot.header.toNat ≤ address.toNat
  stops : address.toNat + len ≤ slot.header.toNat + layout.imageOffset.toNat

instance : Decidable (layout.InHeader slot address len) :=
  decidable_of_iff (slot.header.toNat ≤ address.toNat ∧
      address.toNat + len ≤ slot.header.toNat + layout.imageOffset.toNat)
    ⟨fun h => ⟨h.1, h.2⟩, fun h => ⟨h.starts, h.stops⟩⟩

/-- The `len` bytes at `address` are some, end in the address space and lie in the header area of
one active slot. -/
structure Opens (layout : ImageLayout) (address : UInt64) (len : Nat) : Prop where
  nonempty : 0 < len
  addressable : address.toNat + len < 2 ^ 64
  inHeader : ∃ slot ∈ layout.slots, slot.kind = .active ∧ layout.InHeader slot address len

instance : Decidable (layout.Opens address len) :=
  decidable_of_iff (0 < len ∧ address.toNat + len < 2 ^ 64 ∧
      ∃ slot ∈ layout.slots, slot.kind = .active ∧ layout.InHeader slot address len)
    ⟨fun h => ⟨h.1, h.2.1, h.2.2⟩, fun h => ⟨h.nonempty, h.addressable, h.inHeader⟩⟩

/-- Nothing is lost by saturation: what ends in the address space ends in a header area exactly if
it ends before the area does as an integer. -/
theorem le_saturatedEnd_iff {start : UInt64} {offset stop : Nat} (h : stop < addressLimit) :
    stop ≤ Region.saturatedEnd start offset ↔ stop ≤ start.toNat + offset := by
  unfold Region.saturatedEnd
  omega

theorem inActiveHeader_iff : layout.inActiveHeader address len = true ↔
    address.toNat + len < 2 ^ 64 ∧
      ∃ slot ∈ layout.slots, slot.kind = .active ∧ layout.InHeader slot address len := by
  unfold inActiveHeader
  rw [Bool.and_eq_true, decide_eq_true_iff]
  refine and_congr_right fun hstop => ?_
  rw [List.any_eq_true]
  refine exists_congr fun slot => ?_
  rw [List.mem_filter, Bool.and_eq_true, decide_eq_true_iff, decide_eq_true_iff, beq_iff_eq,
    le_saturatedEnd_iff hstop, and_assoc, UInt64.le_iff_toNat_le]
  exact and_congr_right fun _ => and_congr_right fun _ =>
    ⟨fun h => ⟨h.1, h.2⟩, fun h => ⟨h.starts, h.stops⟩⟩

theorem checkHeaderArea_of_opens (h : layout.Opens address len) :
    layout.checkHeaderArea address len = .ok () := by
  have hin := inActiveHeader_iff.mpr ⟨h.addressable, h.inHeader⟩
  have hpos := h.nonempty
  refine if_neg ?_
  rw [hin]
  simp only [Bool.not_true, Bool.false_eq_true, or_false]
  omega

theorem checkHeaderArea_of_not_opens (h : ¬layout.Opens address len) :
    layout.checkHeaderArea address len = .error .outsideHeader := by
  refine if_pos ?_
  by_cases hin : layout.inActiveHeader address len = true
  · obtain ⟨hstop, hslot⟩ := inActiveHeader_iff.mp hin
    refine .inl (Nat.eq_zero_of_not_pos fun hpos => h ⟨hpos, hstop, hslot⟩)
  · exact .inr (by simpa using hin)

/-- The header area of `high` comes after that of `low`, and no active slot starts its own between
the two. -/
structure Adjacent (layout : ImageLayout) (low high : SlotConfig) : Prop where
  apart : low.header.toNat + layout.imageOffset.toNat ≤ high.header.toNat
  next : ∀ slot ∈ layout.slots, slot.kind = .active →
    slot.header.toNat ≤ low.header.toNat ∨ high.header.toNat ≤ slot.header.toNat

/-- Bytes on both sides of the start of a header area are not opened by the area before it, nor by
any other. -/
theorem Adjacent.not_opens (h : layout.Adjacent low high)
    (hbefore : address.toNat < high.header.toNat)
    (hbehind : high.header.toNat < address.toNat + len) : ¬layout.Opens address len := by
  intro hopens
  obtain ⟨slot, hmem, hactive, hstarts, hstops⟩ := hopens.inHeader
  have hapart := h.apart
  rcases h.next slot hmem hactive with hlow | hhigh
  · omega
  · omega

end ImageLayout

-- ═══════════════════════════════════════════════════════════════════════════
-- One access
-- ═══════════════════════════════════════════════════════════════════════════

namespace FirmwareImages

variable {F : Type} {images : FirmwareImages F}

/-- What stands behind a check that passes is what is done. -/
theorem run_checked {α : Type} {address : UInt64} {len : Nat} {action : Step F α}
    (h : images.layout.checkHeaderArea address len = .ok ()) :
    (do Action.ofExcept ((← get).layout.checkHeaderArea address len)
        action : Step F α).run images = action.run images := by
  show Action.run
    (Action.ofExcept (images.layout.checkHeaderArea address len) >>= fun _ => action) images
    = _
  rw [h]
  rfl

theorem run_refused {α : Type} {address : UInt64} {len : Nat} {action : Step F α} {e : ImageError}
    (h : images.layout.checkHeaderArea address len = .error e) :
    (do Action.ofExcept ((← get).layout.checkHeaderArea address len)
        action : Step F α).run images = ⟨.error e, images, []⟩ := by
  show Action.run
    (Action.ofExcept (images.layout.checkHeaderArea address len) >>= fun _ => action) images
    = _
  rw [h]
  rfl

variable [Flash F] {op : FlashOp}

/-- Access to the headers of active slots: an operation on flash behind the check. -/
def access : (op : FlashOp) → Step F op.Result
  | .read address len => read address len
  | .write address data => write address data
  | .erase address len => erase address len

/-- What flash replies to an operation on the images. -/
abbrev reply (images : FirmwareImages F) (op : FlashOp) : op.Reply :=
  (Flash.serve op images.flash).1

/-- What the header areas open is asked of flash once, as it is, and the reply is handed on. -/
theorem access_of_opens (h : images.layout.Opens op.address op.length) :
    (access op).run images =
      ⟨op.handOn (images.reply op), images.afterFlash op, [⟨op, images.reply op⟩]⟩ := by
  have hcheck := ImageLayout.checkHeaderArea_of_opens h
  cases op with
  | read address len => exact (run_checked hcheck).trans (readFlash_run address len images)
  | write address data => exact (run_checked hcheck).trans (writeFlash_run address data images)
  | erase address len =>
    exact (run_checked hcheck).trans (askFlash_run (.erase address len) flashed images)

/-- Everything else is refused, and flash is not asked for anything. -/
theorem access_of_not_opens (h : ¬images.layout.Opens op.address op.length) :
    (access op).run images = ⟨.error .outsideHeader, images, []⟩ := by
  have hcheck := ImageLayout.checkHeaderArea_of_not_opens h
  cases op with
  | read address len => exact run_refused hcheck
  | write address data => exact run_refused hcheck
  | erase address len => exact run_refused hcheck

/-- An access asks flash for nothing but what the header areas open. -/
theorem access_confined (images : FirmwareImages F) (op : FlashOp) :
    ((access op).run images).state.layout = images.layout ∧
      ∀ exchange ∈ ((access op).run images).journal,
        images.layout.Opens exchange.1.address exchange.1.length := by
  by_cases h : images.layout.Opens op.address op.length
  · rw [access_of_opens h]
    exact ⟨rfl, List.forall_mem_singleton.mpr h⟩
  · rw [access_of_not_opens h]
    exact ⟨rfl, List.forall_mem_nil _⟩

-- ═══════════════════════════════════════════════════════════════════════════
-- Accesses in a row
-- ═══════════════════════════════════════════════════════════════════════════

/-- The exchanges with flash in a run of accesses, whether they are refused or not. -/
def accessed (images : FirmwareImages F) : List FlashOp → List FlashExchange
  | [] => []
  | op :: ops =>
    ((access op).run images).journal ++ accessed ((access op).run images).state ops

theorem accessed_confined (images : FirmwareImages F) (ops : List FlashOp) :
    ∀ exchange ∈ images.accessed ops,
      images.layout.Opens exchange.1.address exchange.1.length := by
  induction ops generalizing images with
  | nil => exact List.forall_mem_nil _
  | cons op ops ih =>
    obtain ⟨hlayout, hfirst⟩ := access_confined images op
    have hrest := ih ((access op).run images).state
    rw [hlayout] at hrest
    exact List.forall_mem_append.mpr ⟨hfirst, hrest⟩

/-- Flash is asked for an operation exactly if its bytes are some, end in the address space and lie
in the header area of one active slot, and then it is asked once and its reply handed on. All else is
refused without touching flash: so are bytes that reach from a header area into the next, and no run
of accesses comes near a byte that no active header area has, whatever other slot has it. -/
theorem header_access_is_confined (images : FirmwareImages F) :
    (∀ op : FlashOp,
      (((access op).run images).journal ≠ [] ↔ images.layout.Opens op.address op.length) ∧
      (images.layout.Opens op.address op.length → (access op).run images =
        ⟨op.handOn (images.reply op), images.afterFlash op, [⟨op, images.reply op⟩]⟩) ∧
      (¬images.layout.Opens op.address op.length →
        (access op).run images = ⟨.error .outsideHeader, images, []⟩)) ∧
    (∀ (low high : SlotConfig) (op : FlashOp), images.layout.Adjacent low high →
      op.address.toNat < high.header.toNat →
      high.header.toNat < op.address.toNat + op.length →
        (access op).run images = ⟨.error .outsideHeader, images, []⟩) ∧
    ∀ (ops : List FlashOp) (a : UInt64),
      (∀ slot ∈ images.layout.slots, slot.kind = .active → ¬images.layout.InHeader slot a 1) →
        ∀ exchange ∈ images.accessed ops, ¬exchange.1.Touches a := by
  refine ⟨fun op => ⟨⟨fun hjournal => ?_, fun hopens => ?_⟩, access_of_opens, access_of_not_opens⟩,
    fun low high op hadjacent hbefore hbehind => ?_, fun ops a hout exchange hmem htouches => ?_⟩
  · refine Decidable.byContradiction fun hopens => hjournal ?_
    rw [access_of_not_opens hopens]
  · rw [access_of_opens hopens]
    exact List.cons_ne_nil _ _
  · exact access_of_not_opens (hadjacent.not_opens hbefore hbehind)
  · obtain ⟨slot, hslot, hactive, hstarts, hstops⟩ :=
      (accessed_confined images ops exchange hmem).inHeader
    obtain ⟨hafter, hbefore⟩ := htouches
    exact hout slot hslot hactive ⟨by omega, by omega⟩

/-- Two active slots with adjacent header areas, the second of which reaches past the top of the
address space, and a slot that receives an update. -/
def topLayout : ImageLayout where
  slots := [⟨.active, 0xFFFFFFFFFFFFF800⟩, ⟨.download, 0x2000⟩, ⟨.active, 0xFFFFFFFFFFFFFC00⟩]
  masterSlot := 0
  stateOffset := 0x30
  imageOffset := 0x400

/-- The last bytes but one of the address space can be erased, while the update can not be read and
what lies across the two headers can not be programmed. -/
theorem top_header_access :
    let images := FirmwareImages.mk ({} : SimulatedFlash) topLayout
    (images.layout.Opens 0xFFFFFFFFFFFFFC00 0x3FF ∧
      (access (.erase 0xFFFFFFFFFFFFFC00 0x3FF)).run images =
        ⟨.ok (), images.afterFlash (.erase 0xFFFFFFFFFFFFFC00 0x3FF),
          [⟨.erase 0xFFFFFFFFFFFFFC00 0x3FF, .ok ()⟩]⟩) ∧
    (¬images.layout.Opens 0x2000 12 ∧
      (access (.read 0x2000 12)).run images = ⟨.error .outsideHeader, images, []⟩) ∧
    (images.layout.Adjacent ⟨.active, 0xFFFFFFFFFFFFF800⟩ ⟨.active, 0xFFFFFFFFFFFFFC00⟩ ∧
      (access (.write 0xFFFFFFFFFFFFFBFF [0, 0])).run images =
        ⟨.error .outsideHeader, images, []⟩) ∧
    ∀ ops, ∀ exchange ∈ images.accessed ops, ¬exchange.1.Touches 0x2000 := by
  intro images
  have hconfined := header_access_is_confined images
  have hopens : images.layout.Opens 0xFFFFFFFFFFFFFC00 0x3FF := by decide
  have hclosed : ¬images.layout.Opens 0x2000 12 := by decide
  have hadjacent : images.layout.Adjacent ⟨.active, 0xFFFFFFFFFFFFF800⟩
      ⟨.active, 0xFFFFFFFFFFFFFC00⟩ := ⟨by decide, by decide⟩
  refine ⟨⟨hopens, (hconfined.1 (.erase 0xFFFFFFFFFFFFFC00 0x3FF)).2.1 hopens⟩,
    ⟨hclosed, (hconfined.1 (.read 0x2000 12)).2.2 hclosed⟩,
    ⟨hadjacent, hconfined.2.1 _ _ (.write 0xFFFFFFFFFFFFFBFF [0, 0]) hadjacent (by decide)
      (by decide)⟩,
    fun ops => hconfined.2.2 ops 0x2000 (by decide)⟩

end FirmwareImages

end KeyEnclave
