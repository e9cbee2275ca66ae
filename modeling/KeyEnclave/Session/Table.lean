import KeyEnclave.Identifier.ReturnCode
import KeyEnclave.Session.PerSession

/-!
# The session table

Whether the library is up, and what each open session is doing.

## Main definitions

* `SessionState`, `Session` — the operation a session is in, and everything remembered about it.
* `SessionTable` — how often the library was brought up, and the open sessions.
* `SessionTable.bringUp`, `SessionTable.bringDown` — the nested life cycle of the library.
* `SessionTable.startSearch`, `SessionTable.nextFound` — the pages of a search.
* `SessionTable.notify` — deliver an event to a session's callback.
-/

namespace KeyEnclave

/-- A callback for events reported for a session. -/
abbrev Notify := SessionHandle → UInt32 → ReturnCode

/-- The operation a session is in. -/
inductive SessionState
  | idle
  | digesting
  | encrypting
  | decrypting
  | signing
  | verifying
  | searching
  deriving DecidableEq, Repr, Inhabited

/-- Every state. -/
def SessionState.all : List SessionState :=
  [.idle, .digesting, .encrypting, .decrypting, .signing, .verifying, .searching]

/-- The key of a session whose operation has none. -/
def noKey : ObjectHandle := 0

/-- The token's session of a session that has none there. -/
def noExternalSession : UInt32 := 0xFFFF

/-- An open session. -/
structure Session where
  slot : UInt32
  flags : Flags
  state : SessionState
  /-- The key of the operation in progress. -/
  key : ObjectHandle
  /-- The session on the external token that belongs to this one. -/
  external : UInt32
  notify : Option Notify
  /-- What the search in progress found. -/
  found : List ObjectHandle
  /-- How many of them were handed out. -/
  cursor : Nat

namespace Session

/-- A session that was just opened. -/
def fresh (slot : UInt32) (flags : Flags) (notify : Option Notify) : Session where
  slot := slot
  flags := flags
  state := .idle
  key := noKey
  external := noExternalSession
  notify := notify
  found := []
  cursor := 0

/-- Back to idle, without key and search. -/
def reset (session : Session) : Session :=
  { session with state := .idle, key := noKey, found := [], cursor := 0 }

/-- What is found and not handed out yet. -/
def pending (session : Session) : List ObjectHandle := session.found.drop session.cursor

end Session

/-- The sessions of the library. -/
structure SessionTable where
  /-- How many times the library was brought up and not down again. -/
  nesting : UInt8
  sessions : PerSession Session

/-- What became of an event: the code, and the call of the callback if there was one. -/
structure Notification where
  code : ReturnCode
  /-- The session and the event the callback was run with. -/
  call : Option (SessionHandle × UInt32)
  deriving DecidableEq, Repr

namespace SessionTable

/-- The table after a reset. -/
def down : SessionTable := ⟨0, .empty⟩

instance : Inhabited SessionTable := ⟨down⟩

/-- The deepest nesting. -/
def maxNesting : UInt8 := 0xFF

/-- Whether the library is up. -/
def isUp (table : SessionTable) : Bool := table.nesting != 0

/-- Bring the library up, or note that it was brought up once more. -/
def bringUp (table : SessionTable) : ReturnCode × SessionTable :=
  if table.nesting = maxNesting then (.functionFailed, table)
  else if 0 < table.nesting then
    (.cryptokiAlreadyInitialised, { table with nesting := table.nesting + 1 })
  else (.ok, ⟨1, .empty⟩)

/-- Take back one `bringUp`; the flag says that the library went down. -/
def bringDown (table : SessionTable) : ReturnCode × Bool × SessionTable :=
  if table.nesting = 0 then (.cryptokiNotInitialised, false, table)
  else if table.nesting = 1 then (.ok, true, down)
  else (.ok, false, { table with nesting := table.nesting - 1 })

/-- The record of an open session. -/
def get (table : SessionTable) (handle : SessionHandle) : Except ReturnCode Session :=
  match table.sessions.get? handle with
  | some session => .ok session
  | none => .error .sessionHandleInvalid

/-- Change the record of an open session. -/
def update (table : SessionTable) (handle : SessionHandle) (f : Session → Session) :
    Except ReturnCode SessionTable := do
  let session ← table.get handle
  pure { table with sessions := table.sessions.set handle (some (f session)) }

/-- Open a session under the lowest free handle. -/
def openSession (table : SessionTable) (slot : UInt32) (flags : Flags) (notify : Option Notify) :
    Except ReturnCode (SessionHandle × SessionTable) :=
  if !table.isUp then .error .cryptokiNotInitialised
  else if !flags.contains SessionFlags.serialSession then .error .sessionParallelNotSupported
  else match table.sessions.firstFree? with
    | none => .error .sessionCount
    | some handle =>
      let session := Session.fresh slot flags notify
      .ok (handle, { table with sessions := table.sessions.set handle (some session) })

/-- Close a session. -/
def close (table : SessionTable) (handle : SessionHandle) : Except ReturnCode SessionTable := do
  let _ ← table.get handle
  pure { table with sessions := table.sessions.set handle none }

/-- Put a session into a state with a key. -/
def setState (table : SessionTable) (handle : SessionHandle) (state : SessionState)
    (key : ObjectHandle) : Except ReturnCode SessionTable :=
  table.update handle fun session => { session with state := state, key := key }

/-- Put a session back to idle; nothing happens to a session that is not open. -/
def reset (table : SessionTable) (handle : SessionHandle) : SessionTable :=
  match table.update handle Session.reset with
  | .ok table => table
  | .error _ => table

/-- Remember the token's session that belongs to a session. -/
def setExternal (table : SessionTable) (handle : SessionHandle) (external : UInt32) :
    Except ReturnCode SessionTable :=
  table.update handle fun session => { session with external := external }

/-- The token's session that belongs to a session, or `noExternalSession`. -/
def external (table : SessionTable) (handle : SessionHandle) : UInt32 :=
  match table.sessions.get? handle with
  | some session => session.external
  | none => noExternalSession

/-- The lowest session to which a session of the token belongs. -/
def ofExternal? (table : SessionTable) (external : UInt32) : Option SessionHandle :=
  if external = noExternalSession then none
  else table.sessions.find? fun session => session.external == external

/-- The number of open sessions. -/
def openCount (table : SessionTable) : Nat := table.sessions.present.length

/-- The number of open sessions that may write. -/
def rwCount (table : SessionTable) : Nat :=
  (table.sessions.present.filter fun s => s.flags.contains SessionFlags.rwSession).length

/-- Deliver an event to the callback of a session; a session without callback takes it quietly. -/
def notify (table : SessionTable) (handle : SessionHandle) (event : UInt32) : Notification :=
  match table.sessions.get? handle with
  | none => ⟨.sessionHandleInvalid, none⟩
  | some session =>
    match session.notify with
    | none => ⟨.ok, none⟩
    | some callback => ⟨callback handle event, some (handle, event)⟩

/-- Put a session into a search that found `found`, of which the first `Limits.search` count. -/
def startSearch (table : SessionTable) (handle : SessionHandle) (found : List ObjectHandle) :
    Except ReturnCode SessionTable :=
  table.update handle fun session =>
    { session.reset with state := .searching, found := found.take Limits.search }

/-- The next results of a search, at most `capacity` of them. -/
def nextFound (table : SessionTable) (handle : SessionHandle) (capacity : Nat) :
    Except ReturnCode (List ObjectHandle × SessionTable) := do
  let session ← table.get handle
  if session.state ≠ .searching then throw .operationNotInitialised
  let page := session.pending.take capacity
  let table ← table.update handle fun s => { s with cursor := s.cursor + page.length }
  pure (page, table)

end SessionTable

end KeyEnclave
