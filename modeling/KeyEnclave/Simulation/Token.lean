import KeyEnclave.Token.Basic

/-!
# Simulated token

A token that answers every operation with the code and the values it is told to answer with.

## Main definitions

* `TokenScript` — the values that a token answers with.
* `TokenTable` — which functions it says it has, and the code of each.
* `SimulatedToken` — a token that plays some functions. Its table may be exchanged at any time;
  the functions that it plays and the sessions opened so far stay.
-/

namespace KeyEnclave

/-- The values that a token answers with when an operation goes well. -/
structure TokenScript where
  mechanism : MechanismInfo
  created : ObjectHandle
  found : List ObjectHandle
  derived : ObjectHandle
  pair : ObjectHandle × ObjectHandle
  /-- The value of every attribute. -/
  value : Bytes
  signature : Bytes
  /-- Every random byte. -/
  random : UInt8
  deriving Repr

/-- How a token presents itself. -/
structure TokenTable where
  /-- The functions the token says it has. -/
  implemented : FunctionId → Bool
  code : FunctionId → ReturnCode
  /-- The first session that is opened. -/
  base : UInt32

/-- A token that plays a script. -/
structure SimulatedToken where
  script : TokenScript
  /-- The functions that do something; the others are unsupported, whatever the table says. -/
  played : FunctionId → Bool
  table : TokenTable
  /-- The number of sessions opened so far. -/
  opened : UInt32

namespace SimulatedToken

/-- The value of a function that goes well. -/
def ifOk {α : Type} (token : SimulatedToken) (function : FunctionId) (value : α) :
    Except ReturnCode α :=
  (token.table.code function).toExcept.map fun () => value

/-- What one query learns. -/
def replyTo (value : Bytes) (query : AttributeQuery) : AttributeReply :=
  ⟨some value.length, if value.length ≤ query.room.getD 0 then value else []⟩

/-- The reply to an operation that is played. -/
def play (token : SimulatedToken) : (op : TokenOp) → op.Reply
  | .initialise => token.table.code .initialise
  | .finalise => token.table.code .finalise
  | .getMechanismInfo .. => token.ifOk .getMechanismInfo token.script.mechanism
  | .openSession .. => token.ifOk .openSession (token.table.base + token.opened)
  | .closeSession _ => token.table.code .closeSession
  | .createObject .. => token.ifOk .createObject token.script.created
  | .destroyObject .. => token.table.code .destroyObject
  | .getAttributeValue _ _ queries =>
    (token.table.code .getAttributeValue, queries.map (replyTo token.script.value))
  | .setAttributeValue .. => token.table.code .setAttributeValue
  | .findObjectsInit .. => token.table.code .findObjectsInit
  | .findObjects _ capacity => token.ifOk .findObjects (token.script.found.take capacity)
  | .findObjectsFinal _ => token.table.code .findObjectsFinal
  | .signInit .. => token.table.code .signInit
  | .sign _ _ room =>
    match token.table.code .sign with
    | .ok => deliver token.script.signature room
    | code => .refused code
  | .verifyInit .. => token.table.code .verifyInit
  | .verify .. => token.table.code .verify
  | .deriveKey .. => token.ifOk .deriveKey token.script.derived
  | .generateKeyPair .. => token.ifOk .generateKeyPair token.script.pair
  | .generateRandom _ length =>
    (token.table.code .generateRandom, List.replicate length token.script.random)

/-- The token after an operation that is played: opened sessions are numbered in turn. -/
def after (token : SimulatedToken) : TokenOp → SimulatedToken
  | .openSession .. =>
    if token.table.code .openSession = .ok then { token with opened := token.opened + 1 } else token
  | _ => token

instance : ExternalToken SimulatedToken where
  implements token function := token.table.implemented function
  serve op token :=
    if token.played op.function then (token.play op, token.after op) else (op.unsupported, token)

end SimulatedToken

end KeyEnclave
