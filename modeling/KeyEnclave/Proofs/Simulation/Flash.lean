import KeyEnclave.Proofs.Firmware.Cells
import KeyEnclave.Simulation.Flash

/-!
# Simulated flash is honest

Whatever operations simulated flash is told to fail, it is honest as long as it is not told to read
something wrong.

## Main definitions

* `SteadyFlash` — simulated flash that reads nothing wrong.
-/

namespace KeyEnclave

/-- Simulated flash whose reads fail or return the content. -/
def SteadyFlash : Type := { flash : SimulatedFlash // flash.faults.glitches = [] }

namespace SimulatedFlash

variable {flash : SimulatedFlash}

theorem faults_serve (op : FlashOp) (flash : SimulatedFlash) :
    (Flash.serve op flash).2.faults = flash.faults := by
  cases op with
  | read address len =>
    simp only [Flash.serve]
    split <;> rfl
  | write address data =>
    simp only [Flash.serve]
    split <;> rfl
  | erase address len =>
    simp only [Flash.serve]
    split <;> rfl

theorem cell_serve_read (address : UInt64) (len : Nat) (flash : SimulatedFlash) :
    (Flash.serve (.read address len) flash).2.cell = flash.cell := by
  simp only [Flash.serve]
  split <;> rfl

theorem serve_read_eq {address : UInt64} {len : Nat} {bytes : Bytes}
    (hsteady : flash.faults.glitches = [])
    (h : (Flash.serve (.read address len) flash).1 = .ok bytes) :
    bytes = Cells.read flash.cell address len := by
  simp only [Flash.serve] at h
  split at h
  · cases h
  · obtain rfl := Except.ok.inj h
    simp only [hsteady, List.contains_nil, Bool.false_eq_true, if_false]
    rfl

theorem cell_of_failedWrite {address : UInt64} {data : Bytes} {e : FlashError}
    (h : (Flash.serve (.write address data) flash).1 = .error e) :
    (Flash.serve (.write address data) flash).2.cell = flash.cell := by
  simp only [Flash.serve] at h ⊢
  split at h
  · next hrefused => rw [if_pos hrefused]
  · cases h

theorem cell_of_write {address : UInt64} {data : Bytes}
    (h : (Flash.serve (.write address data) flash).1 = .ok ()) :
    (Flash.serve (.write address data) flash).2.cell = Cells.program flash.cell address data := by
  simp only [Flash.serve] at h ⊢
  split at h
  · cases h
  · next haccepted =>
    rw [if_neg haccepted]
    rfl

end SimulatedFlash

instance : HonestFlash SteadyFlash where
  serve op flash := ((Flash.serve op flash.1).1,
    ⟨(Flash.serve op flash.1).2, by rw [SimulatedFlash.faults_serve, flash.2]⟩)
  cells flash := flash.1.cell
  cells_of_read address len flash := SimulatedFlash.cell_serve_read address len flash.1
  read_eq _ _ flash _ h := SimulatedFlash.serve_read_eq flash.2 h
  cells_of_failedWrite _ _ _ _ h := SimulatedFlash.cell_of_failedWrite h
  cells_of_write _ _ _ h _ := SimulatedFlash.cell_of_write h

end KeyEnclave
