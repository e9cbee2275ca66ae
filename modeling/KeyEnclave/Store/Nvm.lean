import KeyEnclave.Bytes

/-!
# Persistent storage

Storage that keeps one byte string per key over a reset, as the object store sees it.

## Main definitions

* `NvmOp` — the operations, and `NvmOp.Reply` — what each answers with.
* `NvmStorage` — a kind of storage that serves them.
* `NoNvm` — storage of an enclave without any.
-/

namespace KeyEnclave

/-- An operation on persistent storage. -/
inductive NvmOp
  /-- Read what is kept under a key into a buffer of `room` bytes. -/
  | read (key : UInt32) (room : Nat)
  | write (key : UInt32) (data : Bytes)
  | remove (key : UInt32)
  deriving DecidableEq, Repr

/-- The storage failed. -/
inductive NvmError
  | failed
  deriving DecidableEq, Repr, Inhabited

/-- What each operation answers with; there may be nothing under a key that is read. -/
abbrev NvmOp.Reply : NvmOp → Type
  | .read .. => Except NvmError (Option Bytes)
  | .write .. => Except NvmError Unit
  | .remove .. => Except NvmError Unit

/-- An operation on persistent storage with its reply. -/
abbrev NvmExchange := (op : NvmOp) × op.Reply

/-- A kind of persistent storage with states in `N`. -/
class NvmStorage (N : Type) where
  serve : (op : NvmOp) → N → op.Reply × N

/-- Storage of an enclave without any: nothing is ever there and nothing can be kept. -/
structure NoNvm where
  deriving DecidableEq, Repr, Inhabited

instance : NvmStorage NoNvm where
  serve
    | .read _ _, n => (.ok none, n)
    | .write _ _, n => (.error .failed, n)
    | .remove _, n => (.ok (), n)

/-- Storage that may be missing. -/
instance {N : Type} [NvmStorage N] : NvmStorage (Option N) where
  serve
    | op, some n => (NvmStorage.serve op n).map id some
    | op, none => ((NvmStorage.serve op NoNvm.mk).1, none)

end KeyEnclave
