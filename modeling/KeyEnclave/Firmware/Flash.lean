import KeyEnclave.Bytes

/-!
# Flash

The flash that holds the headers of firmware images. A write can only clear bits.

## Main definitions

* `FlashOp` — the operations, and `FlashOp.Reply` — what each answers with.
* `Flash` — a kind of flash that serves them.
-/

namespace KeyEnclave

/-- An operation on flash. -/
inductive FlashOp
  | read (address : UInt64) (len : Nat)
  /-- Program data; bits that are set in it have to be set already. -/
  | write (address : UInt64) (data : Bytes)
  | erase (address : UInt64) (len : Nat)
  deriving DecidableEq, Repr

/-- The flash failed. -/
inductive FlashError
  | failed
  deriving DecidableEq, Repr, Inhabited

/-- What each operation answers with. -/
abbrev FlashOp.Reply : FlashOp → Type
  | .read .. => Except FlashError Bytes
  | .write .. => Except FlashError Unit
  | .erase .. => Except FlashError Unit

/-- An operation on flash with its reply. -/
abbrev FlashExchange := (op : FlashOp) × op.Reply

/-- A kind of flash with states in `F`. -/
class Flash (F : Type) where
  serve : (op : FlashOp) → F → op.Reply × F

end KeyEnclave
