import KeyEnclave.Kms.Basic

/-!
# Library and sessions

Bringing the library up and down, what is known of it, and opening and closing sessions.

## Main definitions

* `Kms.bringUp`, `Kms.bringDown` — the life cycle of the library.
* `Kms.getInfo`, `getSlotList`, `getSlotInfo`, `getTokenInfo`, `getMechanismInfo` — information.
* `Kms.openSession`, `closeSession`, `getSessionInfo` — sessions.
* `Kms.notifyFromToken` — an event that the token reports for one of its sessions.
-/

namespace KeyEnclave.Kms

variable {C T N : Type} [CryptoProvider C] [ExternalToken T] [NvmStorage N]

/-- The only slot. -/
def slotId : UInt32 := 0

def cryptokiVersion : Version := ⟨2, 40⟩

def libraryVersion : Version := ⟨0, 1⟩

def manufacturer : String := "Secure Engine"

/-- Bring the library up; when it comes up from below, the persistent objects are loaded. -/
def bringUp : Step C T N ReturnCode := do
  let kms ← get
  let external ← if kms.tokenImplements .initialise then
      some <$> askToken (C := C) (N := N) .initialise
    else pure none
  let (own, sessions) := kms.sessions.bringUp
  modify fun kms => { kms with sessions := sessions }
  if own = .ok then
    match ← Action.attempt (onStore (C := C) (T := T) ObjectStore.load) with
    | .ok () => pure (merge .ok external)
    | .error _ =>
      modify fun kms => { kms with sessions := kms.sessions.bringDown.2.2 }
      pure (merge .deviceMemory external)
  else pure (merge own external)

/-- Drop the provider's contexts of sessions. -/
def releaseContexts (sessions : List SessionHandle) : Step C T N Unit :=
  sessions.forM fun session => askProvider (.release session)

/-- Bring the library down; when it goes down for good, nothing is kept in RAM. -/
def bringDown : Step C T N ReturnCode := do
  let kms ← get
  let external ← if kms.tokenImplements .finalise then
      some <$> askToken (C := C) (N := N) .finalise
    else pure none
  let (own, wentDown, sessions) := kms.sessions.bringDown
  modify fun kms => { kms with sessions := sessions }
  if wentDown then
    releaseContexts SessionHandle.all
    modify fun kms => { kms with store := kms.store.release }
  pure (merge own external)

/-- What is known of the library. -/
def libraryInfo : Info where
  cryptokiVersion := cryptokiVersion
  manufacturerId := blankPadded 32 manufacturer
  flags := 0
  libraryDescription := blankPadded 32 "Key management services"
  libraryVersion := libraryVersion

/-- What is known of the slot. -/
def slotInfo : SlotInfo where
  slotDescription := blankPadded 64 "Secure engine enclave"
  manufacturerId := blankPadded 32 manufacturer
  flags := SlotFlags.tokenPresent ||| SlotFlags.hwSlot
  hardwareVersion := ⟨0, 0⟩
  firmwareVersion := libraryVersion

/-- What is known of the token in the slot. -/
def tokenInfo (kms : Kms C T N) : TokenInfo where
  label := blankPadded 32 "Secure engine KMS"
  manufacturerId := blankPadded 32 manufacturer
  model := blankPadded 16
    (if kms.tokenImplements .initialise then "KMS + Ext.Token" else "KMS Foundations")
  serialNumber := blankPadded 16 ""
  flags := TokenFlags.writeProtected
  maxSessionCount := UInt32.ofNat Limits.sessions
  sessionCount := UInt32.ofNat kms.sessions.openCount
  maxRwSessionCount := UInt32.ofNat Limits.sessions
  rwSessionCount := UInt32.ofNat kms.sessions.rwCount
  hardwareVersion := ⟨0, 0⟩
  firmwareVersion := libraryVersion

def getInfo : Step C T N Answer := do
  Action.ofExcept (← get).requireUp
  pure ⟨.ok, .info (some libraryInfo)⟩

/-- The list of slots; its length is reported also when the array is too short for it. -/
def getSlotList (room : Option Nat) : Step C T N Answer := do
  Action.ofExcept (← get).requireUp
  match room with
  | none => pure ⟨.ok, .slots (some 1) []⟩
  | some 0 => pure ⟨.bufferTooSmall, .slots (some 1) []⟩
  | some _ => pure ⟨.ok, .slots (some 1) [slotId]⟩

/-- The library has to be up and the slot to be the only one. -/
def requireSlot (kms : Kms C T N) (slot : UInt32) : Except ReturnCode Unit := do
  kms.requireUp
  if slot ≠ slotId then throw .slotIdInvalid

def getSlotInfo (slot : UInt32) : Step C T N Answer := do
  Action.ofExcept ((← get).requireSlot slot)
  pure ⟨.ok, .slotInfo (some slotInfo)⟩

def getTokenInfo (slot : UInt32) : Step C T N Answer := do
  let kms ← get
  Action.ofExcept (kms.requireSlot slot)
  pure ⟨.ok, .tokenInfo (some kms.tokenInfo)⟩

/-- What the provider knows of a mechanism. -/
def providerMechanismInfo (mechanism : MechanismKind) : Step C T N Answer := do
  match CryptoProvider.mechanismInfo (← get).crypto mechanism with
  | some info => pure ⟨.ok, .mechanismInfo (some info)⟩
  | none => throw .mechanismInvalid

/-- What is known of a mechanism, by the token or else by the provider. -/
def getMechanismInfo (slot : UInt32) (mechanism : MechanismKind) : Step C T N Answer := do
  let kms ← get
  Action.ofExcept (kms.requireSlot slot)
  if kms.tokenImplements .getMechanismInfo then
    match ← askToken (.getMechanismInfo slot mechanism) with
    | .ok info => pure ⟨.ok, .mechanismInfo (some info)⟩
    | .error _ => providerMechanismInfo mechanism
  else providerMechanismInfo mechanism

/-- Open a session, and one on the token that belongs to it. When the token refuses, the session is
closed again. -/
def openSession (slot : UInt32) (flags : Flags) (notify : Option Notify) : Step C T N Answer := do
  let kms ← get
  Action.ofExcept kms.requireUp
  let (handle, sessions) ← Action.ofExcept (kms.sessions.openSession slot flags notify)
  set { kms with sessions := sessions }
  if kms.tokenImplements .openSession then
    match ← askToken (.openSession slot flags notify.isSome) with
    | .ok external => updateSessions fun table => table.setExternal handle external
    | .error code =>
      updateSessions fun table => table.close handle
      throw code
  pure ⟨.ok, .session (some handle)⟩

/-- Close a session, and the token's that belongs to it. -/
def closeSession (session : SessionHandle) : Step C T N ReturnCode := do
  let kms ← get
  let record ← Action.ofExcept (kms.requireSession session)
  let external ←
    if kms.tokenImplements .closeSession && record.external != noExternalSession then
      some <$> askToken (C := C) (N := N) (.closeSession record.external)
    else pure none
  let () ← askProvider (.release session)
  updateSessions fun table => table.close session
  pure (merge .ok external)

/-- The number for a session that may only read public objects. -/
def roPublicSession : UInt32 := 0

/-- The number for a session that may write public objects. -/
def rwPublicSession : UInt32 := 2

def getSessionInfo (session : SessionHandle) : Step C T N Answer := do
  let record ← Action.ofExcept ((← get).requireSession session)
  let state :=
    if record.flags.contains SessionFlags.rwSession then rwPublicSession else roPublicSession
  pure ⟨.ok, .sessionInfo (some ⟨record.slot, state, record.flags⟩)⟩

/-- An event that the token reports for one of its sessions, delivered to the session it belongs
to. -/
def notifyFromToken (kms : Kms C T N) (external event : UInt32) : Notification :=
  match kms.sessions.ofExternal? external with
  | some session => kms.sessions.notify session event
  | none => ⟨.sessionHandleInvalid, none⟩

end KeyEnclave.Kms
