import KeyEnclave.Kms.Operations

/-!
# The operations of a provider

What the exchanges with a provider have in common: the object an operation takes its key from, the
session it begins or goes on in, and what is to be read off the reply.

## Main definitions

* `ProviderOp.key?` — the object that an operation takes its key from.
* `ProviderOp.begins?`, `ProviderOp.continues?` — the session an operation begins or goes on in.
* `ProviderOp.code` — the code in a reply; `ProviderOp.ends` — whether a reply to a step ends the
  operation.
-/

namespace KeyEnclave

namespace ProviderOp

/-- The object that an operation takes its key from. -/
def key? : ProviderOp → Option ObjectView
  | encryptInit _ _ key | decryptInit _ _ key | signInit _ _ key | verifyInit _ _ key => some key
  | deriveKey _ base _ => some base
  | encrypt .. | encryptUpdate .. | encryptFinal .. | decrypt .. | decryptUpdate ..
  | decryptFinal .. | digestInit .. | digest .. | digestUpdate .. | digestFinal .. | sign ..
  | verify .. | generateKeyPair .. | release _ => none

/-- The session whose operation begins, and the state it is to be in. -/
def begins? : ProviderOp → Option (SessionHandle × SessionState)
  | encryptInit session .. => some (session, .encrypting)
  | decryptInit session .. => some (session, .decrypting)
  | digestInit session _ => some (session, .digesting)
  | signInit session .. => some (session, .signing)
  | verifyInit session .. => some (session, .verifying)
  | _ => none

/-- The session whose operation goes on, and the state it has to be in. -/
def continues? : ProviderOp → Option (SessionHandle × SessionState)
  | encrypt session .. | encryptUpdate session .. | encryptFinal session _ =>
    some (session, .encrypting)
  | decrypt session .. | decryptUpdate session .. | decryptFinal session _ =>
    some (session, .decrypting)
  | digest session .. | digestUpdate session _ | digestFinal session _ =>
    some (session, .digesting)
  | sign session .. => some (session, .signing)
  | verify session .. => some (session, .verifying)
  | _ => none

/-- The code in a reply. -/
def code : (op : ProviderOp) → op.Reply → ReturnCode
  | encryptInit .., code | decryptInit .., code | digestInit .., code | signInit .., code
  | verifyInit .., code | digestUpdate .., code | verify .., code => code
  | encrypt .., delivery | encryptUpdate .., delivery | encryptFinal .., delivery
  | decrypt .., delivery | decryptUpdate .., delivery | decryptFinal .., delivery
  | digest .., delivery | digestFinal .., delivery | sign .., delivery => delivery.code
  | deriveKey .., .ok _ | generateKeyPair .., .ok _ | release _, () => .ok
  | deriveKey .., .error code | generateKeyPair .., .error code => code

/-- Whether a reply to a step ends the operation of the session. -/
def ends : (op : ProviderOp) → op.Reply → Bool
  | encrypt _ _ room, delivery | encryptFinal _ room, delivery | decrypt _ _ room, delivery
  | decryptFinal _ room, delivery | digest _ _ room, delivery | digestFinal _ room, delivery
  | sign _ _ room, delivery => Kms.terminates delivery.code room.isSome true
  | encryptUpdate _ _ room, delivery | decryptUpdate _ _ room, delivery =>
    Kms.terminates delivery.code room.isSome false
  | digestUpdate .., code => Kms.terminates code true false
  | verify .., _ => true
  | _, _ => false

end ProviderOp

end KeyEnclave
