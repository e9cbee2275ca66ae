/-!
# Memory regions

Address ranges over 64-bit addresses and the questions the call gate asks about them. A region may
end at, or reach past, the top of the address space: membership then fails, and overlap sees the
region cut at the top.

## Main definitions

* `Region` — `len` bytes from `start`.
* `Region.contains`, `Region.overlaps` — whether a range lies inside a region, or meets it.
* `MemoryMap` — the regions the call gate knows.
-/

namespace KeyEnclave

/-- One past the highest address. -/
def addressLimit : Nat := UInt64.size

/-- The addresses from `start` on, `len` of them. -/
structure Region where
  start : UInt64
  len : UInt64
  deriving DecidableEq, Repr, Inhabited

namespace Region

/-- Whether the `len` bytes at `address` all lie in the region. A range or region whose end is not
an address fails. -/
def contains (region : Region) (address : UInt64) (len : Nat) : Bool :=
  let stop := address.toNat + len
  let regionStop := region.start.toNat + region.len.toNat
  stop < addressLimit && regionStop < addressLimit &&
    region.start.toNat ≤ address.toNat && stop ≤ regionStop

/-- The end of `len` bytes from `start`, or the highest address if that is lower. -/
def saturatedEnd (start : UInt64) (len : Nat) : Nat := min (start.toNat + len) (addressLimit - 1)

/-- Whether one of the `len` bytes at `address` lies in the region. -/
def overlaps (region : Region) (address : UInt64) (len : Nat) : Bool :=
  len != 0 && region.len != 0 &&
    address.toNat < saturatedEnd region.start region.len.toNat &&
    region.start.toNat < saturatedEnd address len

end Region

/-- The memory areas that caller supplied addresses are checked against. -/
structure MemoryMap where
  /-- Code of the call gate, the only legal origin of a call. -/
  interfaceRom : Region
  /-- The whole RAM. -/
  ram : Region
  /-- RAM private to the enclave. -/
  enclaveRam : Region
  /-- RAM owned by the bootloader. -/
  bootloaderRam : Region
  deriving Repr, Inhabited

namespace MemoryMap

/-- Whether the `len` bytes at `address` lie in RAM and clear of the enclave's. -/
def inCallerRam (memory : MemoryMap) (address : UInt64) (len : Nat) : Bool :=
  memory.ram.contains address len && !memory.enclaveRam.overlaps address len

/-- Whether the `len` bytes at `address` lie in the bootloader's RAM and clear of the enclave's. -/
def inBootloaderRam (memory : MemoryMap) (address : UInt64) (len : Nat) : Bool :=
  memory.bootloaderRam.contains address len && !memory.enclaveRam.overlaps address len

end MemoryMap

end KeyEnclave
