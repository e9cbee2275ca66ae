import KeyEnclave.Firmware.Flash

/-!
# Simulated flash

Flash kept in memory, with the faults it is told to have.

## Main definitions

* `FlashFaults` — which operations fail, and which reads go wrong unnoticed.
* `SimulatedFlash` — the cells and the faults.
* `SimulatedFlash.program` — overwrite cells without asking whether flash could do it.
-/

namespace KeyEnclave

/-- The faults of flash: the addresses at which each operation fails. -/
structure FlashFaults where
  read : List UInt64 := []
  write : List UInt64 := []
  erase : List UInt64 := []
  /-- The reads, counted from 1, that have a bit of their last byte flipped. -/
  glitches : List Nat := []
  deriving DecidableEq, Repr, Inhabited

/-- Whether an operation fails. -/
def FlashFaults.hits (faults : FlashFaults) : FlashOp → Bool
  | .read address _ => faults.read.contains address
  | .write address _ => faults.write.contains address
  | .erase address _ => faults.erase.contains address

/-- The value of an erased cell. -/
def erasedCell : UInt8 := 0xFF

/-- Flash in memory. -/
structure SimulatedFlash where
  cell : UInt64 → UInt8 := fun _ => erasedCell
  /-- The number of reads so far. -/
  reads : Nat := 0
  faults : FlashFaults := {}
  deriving Inhabited

namespace SimulatedFlash

/-- The cells from `address` on, `len` of them. -/
def content (flash : SimulatedFlash) (address : UInt64) (len : Nat) : Bytes :=
  (List.range len).map fun i => flash.cell (address + UInt64.ofNat i)

/-- Overwrite the cells from `address` on. -/
def program (flash : SimulatedFlash) (address : UInt64) (data : Bytes) : SimulatedFlash :=
  { flash with cell := fun a => (data[(a - address).toNat]?).getD (flash.cell a) }

/-- Erase the cells from `address` on, `len` of them. -/
def clear (flash : SimulatedFlash) (address : UInt64) (len : Nat) : SimulatedFlash :=
  { flash with cell := fun a => if (a - address).toNat < len then erasedCell else flash.cell a }

/-- Whether every bit that is set in `data` is set in `old`. -/
def clearsOnly (old data : Bytes) : Bool := (old.zip data).all fun (o, d) => d &&& ~~~o == 0

/-- Flip the lowest bit of the last byte. -/
def flipLast (bytes : Bytes) : Bytes :=
  bytes.dropLast ++ bytes.getLast?.toList.map (· ^^^ 1)

instance : Flash SimulatedFlash where
  serve
    | .read address len, flash =>
      let flash := { flash with reads := flash.reads + 1 }
      if flash.faults.hits (.read address len) then (.error .failed, flash)
      else
        let content := flash.content address len
        let isWrong := flash.faults.glitches.contains flash.reads
        (.ok (if isWrong then flipLast content else content), flash)
    | .write address data, flash =>
      let old := flash.content address data.length
      let isRefused := flash.faults.hits (.write address data) || !clearsOnly old data
      if isRefused then (.error .failed, flash)
      else (.ok (), flash.program address data)
    | .erase address len, flash =>
      if flash.faults.hits (.erase address len) then (.error .failed, flash)
      else (.ok (), flash.clear address len)

end SimulatedFlash

end KeyEnclave
