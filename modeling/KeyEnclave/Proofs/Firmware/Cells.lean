import KeyEnclave.Proofs.Action.Ends
import KeyEnclave.Firmware.Images

/-!
# The cells of flash

Flash that is honest has a content: it returns that content when it is read, and a write that fails
leaves it alone. Addresses wrap around, so a range of cells is given by the distance from its start.

## Main definitions

* `Cells.read`, `Cells.program` — the bytes from an address on, and the cells with other bytes there.
* `Cells.SetsNone` — no bit is set that was clear.
* `HonestFlash` — flash with a content.
* `Cells.word`, `Cells.words` — the words from an address on.
* `FlashAlong` — what each operation of a journal does to the flash that it finds.
-/

namespace KeyEnclave

theorem Bytes.ofNatLE_and (n x y : Nat) :
    ofNatLE n (x &&& y) = List.zipWith (· &&& ·) (ofNatLE n x) (ofNatLE n y) := by
  induction n generalizing x y with
  | zero => rfl
  | succ n ih =>
    have hbyte : UInt8.ofNat (x &&& y) = UInt8.ofNat x &&& UInt8.ofNat y := by
      apply UInt8.toNat_inj.mp
      rw [UInt8.toNat_and, UInt8.toNat_ofNat', UInt8.toNat_ofNat', UInt8.toNat_ofNat',
        Nat.and_mod_two_pow]
    have hrest : (x &&& y) / 256 = x / 256 &&& y / 256 := Nat.and_div_two_pow (n := 8)
    rw [ofNatLE, ofNatLE, ofNatLE, hbyte, hrest, ih, List.zipWith_cons_cons]

theorem Bytes.ofWord_and (x y : UInt32) :
    ofWord (x &&& y) = List.zipWith (· &&& ·) (ofWord x) (ofWord y) := by
  rw [ofWord, UInt32.toNat_and, ofNatLE_and]
  rfl

/-- A word that sets none of the bits that are clear in another has its bits among the other's. -/
theorem and_eq_left_of_and_not {x y : UInt32} (h : x &&& ~~~y = 0) : x &&& y = x := by
  apply UInt32.toBitVec_inj.mp
  have hbits : x.toBitVec &&& ~~~y.toBitVec = 0#32 := congrArg UInt32.toBitVec h
  ext i hi
  have hbit := congrArg (fun bits : BitVec 32 => bits[i]) hbits
  simp only [BitVec.getElem_and, BitVec.getElem_not, BitVec.getElem_zero, Bool.and_eq_false_iff,
    Bool.not_eq_false'] at hbit
  show (x.toBitVec &&& y.toBitVec)[i] = x.toBitVec[i]
  rw [BitVec.getElem_and]
  rcases hbit with hbit | hbit
  · rw [hbit, Bool.false_and]
  · rw [hbit, Bool.and_true]

/-- The bytes of flash by their addresses. -/
abbrev Cells := UInt64 → UInt8

namespace Cells

/-- The `len` bytes from `address` on. -/
def read (cells : Cells) (address : UInt64) (len : Nat) : Bytes :=
  (List.range len).map fun i => cells (address + UInt64.ofNat i)

/-- The cells with `data` from `address` on. -/
def program (cells : Cells) (address : UInt64) (data : Bytes) : Cells := fun a =>
  (data[(a - address).toNat]?).getD (cells a)

/-- Every bit that is set afterwards was set before. -/
def SetsNone (before after : Cells) : Prop := ∀ a, after a &&& before a = after a

/-- The word at an address. -/
def word (cells : Cells) (address : UInt64) : UInt32 :=
  UInt32.ofNat (Bytes.toNatLE (cells.read address 4))

/-- The words from an address on. -/
def words (cells : Cells) (address : UInt64) : Nat → List UInt32
  | 0 => []
  | n + 1 => cells.word address :: cells.words (address + 4) n

theorem SetsNone.refl (cells : Cells) : SetsNone cells cells := fun _ => UInt8.and_self

theorem SetsNone.trans {cells between after : Cells} (h : SetsNone cells between)
    (hrest : SetsNone between after) : SetsNone cells after := by
  intro a
  rw [← hrest a, UInt8.and_assoc, h a]

variable {cells other : Cells} {address a : UInt64} {data : Bytes}

-- ═══════════════════════════════════════════════════════════════════════════
-- Distances
-- ═══════════════════════════════════════════════════════════════════════════

theorem distance_add (address : UInt64) {i : Nat} (h : i < UInt64.size) :
    (address + UInt64.ofNat i - address).toNat = i := by
  rw [UInt64.add_comm, UInt64.add_sub_cancel, UInt64.toNat_ofNat']
  exact Nat.mod_eq_of_lt h

theorem add_distance (address a : UInt64) : address + UInt64.ofNat (a - address).toNat = a := by
  rw [UInt64.ofNat_toNat, UInt64.add_comm, UInt64.sub_add_cancel]

theorem add_ofNat_add (address : UInt64) (m n : Nat) :
    address + UInt64.ofNat m + UInt64.ofNat n = address + UInt64.ofNat (m + n) := by
  rw [UInt64.add_assoc, UInt64.ofNat_add]

-- ═══════════════════════════════════════════════════════════════════════════
-- Reading and programming
-- ═══════════════════════════════════════════════════════════════════════════

@[simp] theorem length_read (cells : Cells) (address : UInt64) (len : Nat) :
    (cells.read address len).length = len := by
  simp [read]

theorem read_congr {len : Nat}
    (h : ∀ a, (a - address).toNat < len → other a = cells a) (hlen : len ≤ UInt64.size) :
    other.read address len = cells.read address len := by
  refine List.map_congr_left fun i hi => h _ ?_
  have hlt := List.mem_range.mp hi
  rwa [distance_add address (by omega)]

theorem read_add (cells : Cells) (address : UInt64) (m n : Nat) :
    cells.read address (m + n) =
      cells.read address m ++ cells.read (address + UInt64.ofNat m) n := by
  simp only [read, List.range_add, List.map_append, List.map_map]
  congr 1
  refine List.map_congr_left fun i _ => ?_
  rw [add_ofNat_add]
  rfl

theorem program_of_le (h : data.length ≤ (a - address).toNat) :
    cells.program address data a = cells a := by
  rw [program, List.getElem?_eq_none h]
  rfl

theorem program_of_lt (h : (a - address).toNat < data.length) :
    cells.program address data a = data[(a - address).toNat] := by
  rw [program, List.getElem?_eq_getElem h]
  rfl

theorem read_program_self (hlen : data.length ≤ UInt64.size) :
    (cells.program address data).read address data.length = data := by
  refine List.ext_getElem (length_read ..) fun i hi hdata => ?_
  have hdistance := distance_add address (i := i) (by omega)
  simp only [read, List.getElem_map, List.getElem_range]
  rw [program_of_lt (by rwa [hdistance])]
  simp only [hdistance]

-- ═══════════════════════════════════════════════════════════════════════════
-- Words
-- ═══════════════════════════════════════════════════════════════════════════

theorem ofWord_word (cells : Cells) (address : UInt64) :
    Bytes.ofWord (cells.word address) = cells.read address 4 := by
  have hlength := length_read cells address 4
  have hlt : Bytes.toNatLE (cells.read address 4) < 2 ^ 32 := by
    have h := Bytes.toNatLE_lt (cells.read address 4)
    rwa [hlength] at h
  have hround := Bytes.ofNatLE_toNatLE (cells.read address 4)
  rw [hlength] at hround
  rw [word, Bytes.ofWord, UInt32.toNat_ofNat', Nat.mod_eq_of_lt hlt, hround]

theorem word_congr (h : ∀ a, (a - address).toNat < 4 → other a = cells a) :
    other.word address = cells.word address := by
  rw [word, word, read_congr h (by decide)]

theorem word_program_self (word : UInt32) :
    (cells.program address (Bytes.ofWord word)).word address = word := by
  have hself : (cells.program address (Bytes.ofWord word)).read address (Bytes.ofWord word).length =
      Bytes.ofWord word := by
    refine read_program_self ?_
    rw [Bytes.length_ofWord]
    decide
  rw [Bytes.length_ofWord] at hself
  have hmod : word.toNat % Bytes.limit 4 = word.toNat := Nat.mod_eq_of_lt word.toNat_lt
  rw [Cells.word, hself, Bytes.ofWord, Bytes.toNatLE_ofNatLE, hmod, UInt32.ofNat_toNat]

/-- A cell behind the first word lies four further from the start. -/
theorem distance_next (h : (a - (address + 4)).toNat < UInt64.size - 4) :
    (a - address).toNat = (a - (address + 4)).toNat + 4 := by
  have hsum : address + 4 + UInt64.ofNat (a - (address + 4)).toNat =
      address + UInt64.ofNat (4 + (a - (address + 4)).toNat) := add_ofNat_add address 4 _
  rw [add_distance] at hsum
  have hdistance := distance_add address (i := 4 + (a - (address + 4)).toNat) (by omega)
  rw [← hsum] at hdistance
  omega

theorem words_congr {n : Nat} (h : ∀ a, (a - address).toNat < 4 * n → other a = cells a)
    (hn : 4 * n < UInt64.size) : other.words address n = cells.words address n := by
  induction n generalizing address with
  | zero => rfl
  | succ n ih =>
    have hfirst : other.word address = cells.word address :=
      word_congr fun a ha => h a (by omega)
    have hrest : other.words (address + 4) n = cells.words (address + 4) n := by
      refine ih (fun a ha => h a ?_) (by omega)
      rw [distance_next (by omega)]
      omega
    rw [words, words, hfirst, hrest]

/-- Programming a word sets no bit if the word has none set that was clear. -/
theorem setsNone_program {next : UInt32} (h : next &&& cells.word address = next) :
    SetsNone cells (cells.program address (Bytes.ofWord next)) := by
  intro a
  by_cases hin : (a - address).toNat < (Bytes.ofWord next).length
  · have hbytes : Bytes.ofWord next =
        List.zipWith (· &&& ·) (Bytes.ofWord next) (cells.read address 4) := by
      rw [← ofWord_word, ← Bytes.ofWord_and, h]
    have hcell : (Bytes.ofWord next)[(a - address).toNat] =
        (Bytes.ofWord next)[(a - address).toNat] &&& cells a := by
      refine (List.getElem_of_eq hbytes hin).trans ?_
      simp only [List.getElem_zipWith, read, List.getElem_map, List.getElem_range, add_distance]
    rw [program_of_lt hin]
    exact hcell.symm
  · rw [program_of_le (Nat.not_lt.mp hin)]
    exact UInt8.and_self

end Cells

-- ═══════════════════════════════════════════════════════════════════════════
-- Honest flash
-- ═══════════════════════════════════════════════════════════════════════════

/-- Flash that reads nothing but its content, and on which a write that fails has no effect. Any
operation may fail, and what erasing leaves is open. -/
class HonestFlash (F : Type) extends Flash F where
  cells : F → Cells
  cells_of_read : ∀ (address : UInt64) (len : Nat) (flash : F),
    cells (serve (.read address len) flash).2 = cells flash
  read_eq : ∀ (address : UInt64) (len : Nat) (flash : F) (bytes : Bytes),
    (serve (.read address len) flash).1 = .ok bytes → bytes = (cells flash).read address len
  cells_of_failedWrite : ∀ (address : UInt64) (data : Bytes) (flash : F) (e : FlashError),
    (serve (.write address data) flash).1 = .error e →
      cells (serve (.write address data) flash).2 = cells flash
  cells_of_write : ∀ (address : UInt64) (data : Bytes) (flash : F),
    (serve (.write address data) flash).1 = .ok () →
      Cells.SetsNone (cells flash) ((cells flash).program address data) →
      cells (serve (.write address data) flash).2 = (cells flash).program address data

/-- Every operation of a journal is one that `P` allows on the flash that the ones before it left. -/
inductive FlashAlong {F : Type} [Flash F] (P : FlashOp → F → Prop) :
    F → List FlashExchange → F → Prop
  | nil {flash : F} : FlashAlong P flash [] flash
  | cons {flash last : F} {op : FlashOp} {journal : List FlashExchange} (hop : P op flash)
      (hrest : FlashAlong P (Flash.serve op flash).2 journal last) :
      FlashAlong P flash (⟨op, (Flash.serve op flash).1⟩ :: journal) last

namespace FlashAlong

variable {F : Type} [Flash F] {P Q : FlashOp → F → Prop} {flash between last : F}
  {journal rest : List FlashExchange}

theorem single {op : FlashOp} (hop : P op flash) :
    FlashAlong P flash [⟨op, (Flash.serve op flash).1⟩] (Flash.serve op flash).2 :=
  .cons hop .nil

theorem mono (h : FlashAlong P flash journal last) (hpq : ∀ op flash, P op flash → Q op flash) :
    FlashAlong Q flash journal last := by
  induction h with
  | nil => exact .nil
  | cons hop _ ih => exact .cons (hpq _ _ hop) ih

theorem append (h : FlashAlong P flash journal between) (hrest : FlashAlong P between rest last) :
    FlashAlong P flash (journal ++ rest) last := by
  induction h with
  | nil => exact hrest
  | cons hop _ ih => exact .cons hop (ih hrest)

/-- What is allowed wherever it is done is what was done. -/
theorem op_of_mem {p : FlashOp → Prop} (h : FlashAlong (fun op _ => p op) flash journal last)
    {exchange : FlashExchange} (hmem : exchange ∈ journal) : p exchange.1 := by
  induction h with
  | nil => cases hmem
  | cons hop _ ih =>
    cases hmem with
    | head => exact hop
    | tail _ hmem => exact ih hmem

end FlashAlong

end KeyEnclave
