import KeyEnclave.Request.Basic

/-!
# Answers

What a request leaves with its caller: a code and its outputs. An output that is absent was not
written.

## Main definitions

* `Outputs` — the outputs of each kind of request.
* `Answer` — a code with outputs.
* `Request.untouched` — the outputs of a request that writes none.
* `Request.room?`, `Request.queries` — what a request has room for in its answer.
-/

namespace KeyEnclave

/-- What a request wrote to the memory handed over with it. -/
inductive Outputs
  | nothing
  | info (info : Option Info)
  | slots (count : Option Nat) (written : List UInt32)
  | slotInfo (info : Option SlotInfo)
  | tokenInfo (info : Option TokenInfo)
  | mechanismInfo (info : Option MechanismInfo)
  | session (handle : Option SessionHandle)
  | sessionInfo (info : Option SessionInfo)
  | object (handle : Option ObjectHandle)
  | values (replies : List AttributeReply)
  | objects (count : Option Nat) (written : List ObjectHandle)
  | bytes (length : Option Nat) (written : Bytes)
  | key (handle : Option ObjectHandle)
  | keyPair (handles : Option (ObjectHandle × ObjectHandle))
  | random (written : Bytes)
  deriving DecidableEq, Repr

instance : Inhabited Outputs := ⟨.nothing⟩

/-- A code with outputs. -/
structure Answer where
  code : ReturnCode
  outputs : Outputs
  deriving DecidableEq, Repr, Inhabited

/-- The answer that a delivery of bytes makes. -/
def Delivery.answer (delivery : Delivery) : Answer :=
  ⟨delivery.code, .bytes delivery.length delivery.written⟩

namespace Request

/-- The outputs of a request that writes none. -/
def untouched : Request → Outputs
  | getInfo _ => .info none
  | getSlotList .. => .slots none []
  | getSlotInfo .. => .slotInfo none
  | getTokenInfo .. => .tokenInfo none
  | getMechanismInfo .. => .mechanismInfo none
  | openSession .. => .session none
  | getSessionInfo .. => .sessionInfo none
  | createObject .. => .object none
  | getAttributeValue _ _ values => .values (values.queries.map AttributeQuery.untouched)
  | findObjects .. => .objects none []
  | encrypt .. | encryptUpdate .. | encryptFinal .. | decrypt .. | decryptUpdate ..
  | decryptFinal .. | digest .. | digestFinal .. | sign .. => .bytes none []
  | deriveKey .. => .key none
  | generateKeyPair .. => .keyPair none
  | generateRandom .. => .random []
  | initialise | finalise | closeSession _ | destroyObject .. | setAttributeValue ..
  | findObjectsInit .. | findObjectsFinal _ | encryptInit .. | decryptInit .. | digestInit ..
  | digestUpdate .. | signInit .. | verifyInit .. | verify .. | importBlob .. | lockKeys _
  | lockServices _ | other _ => .nothing

/-- The room in the buffer that a request hands over for bytes or words. -/
def room? : Request → Option Nat
  | encrypt _ _ output _ | encryptUpdate _ _ output _ | encryptFinal _ output _
  | decrypt _ _ output _ | decryptUpdate _ _ output _ | decryptFinal _ output _
  | digest _ _ output _ | digestFinal _ output _ | sign _ _ output _ => output.map Buffer.room
  | getSlotList _ slots _ => slots.map Buffer.room
  | generateRandom _ output => some output.room
  | findObjects _ objects _ => some objects.room
  | _ => none

/-- The queries for attribute values in a request. -/
def queries : Request → List AttributeQuery
  | getAttributeValue _ _ values => values.queries
  | _ => []

end Request

end KeyEnclave
