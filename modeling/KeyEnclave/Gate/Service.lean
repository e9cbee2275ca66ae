import KeyEnclave.Firmware.ImageState
import KeyEnclave.Identifier.ServiceId
import KeyEnclave.Request.Answer

/-!
# Service calls

The arguments a service call may come with and what it leaves with its caller.

## Main definitions

* `ServiceArgs` — arguments, with the addresses of what they hand over.
* `ServiceOutputs` — what was written to that memory.
* `Status`, `Response` — the status word, and all that a call answers.
-/

namespace KeyEnclave

/-- The arguments of a service call. Addresses are those of single output values. -/
inductive ServiceArgs
  | empty
  | imageHeader (header : Placed Bytes) (kind : ImageKind)
  | append (input : Placed Bytes) (output : Buffer) (outputLen : Address)
  | finish (output : Buffer) (outputLen : Address)
  | header (header : Placed Bytes)
  | imageInfo (slot : UInt32) (info : Address)
  | slot (slot : UInt32)
  | getState (slot : UInt32) (state : Address)
  | setState (slot : UInt32) (state : ImageState)
  | saveIrq (state : Buffer)
  | restoreIrq (state : Placed (List UInt32))
  | read (address : Address) (buffer : Buffer)
  | write (address : Address) (data : Placed Bytes)
  | erase (address : Address) (len : Nat)
  | kms (request : Request)

/-- What a service call wrote to the memory handed over with it. -/
inductive ServiceOutputs
  | nothing
  | bytes (length : Option Nat) (written : Bytes)
  | imageInfo (info : Option ActiveImageInfo)
  | state (state : Option ImageState)
  | irq (written : List UInt32)
  | read (written : Bytes)
  | kms (outputs : Outputs)
  deriving DecidableEq, Repr

/-- The outputs of a call that writes none. -/
def ServiceArgs.untouched : ServiceArgs → ServiceOutputs
  | .append .. | .finish .. => .bytes none []
  | .imageInfo .. => .imageInfo none
  | .getState .. => .state none
  | .saveIrq _ => .irq []
  | .read .. => .read []
  | .kms request => .kms request.untouched
  | .empty | .imageHeader .. | .header _ | .slot _ | .setState .. | .restoreIrq _ | .write ..
  | .erase .. => .nothing

/-- The room in the buffer that a call hands over for bytes or words. -/
def ServiceArgs.room? : ServiceArgs → Option Nat
  | .append _ output _ | .finish output _ => some output.room
  | .saveIrq buffer | .read _ buffer => some buffer.room
  | .kms request => request.room?
  | _ => none

/-- The status word written back to the caller. -/
inductive Status
  | engine (status : EngineStatus)
  /-- The result of a forwarded request. -/
  | kms (code : ReturnCode)
  deriving DecidableEq, Repr, Inhabited

/-- What a call that returns answers. -/
structure Response where
  result : GateResult
  status : Status
  outputs : ServiceOutputs
  deriving DecidableEq, Repr

/-- A failure that the engine gave no reason for has a reason of its own. -/
def Response.explained (response : Response) : Response :=
  if response.result = .error ∧ response.status = .engine .ok then
    { response with status := .engine .ko }
  else response

end KeyEnclave
