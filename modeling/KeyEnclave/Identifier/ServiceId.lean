import KeyEnclave.Identifier.Numbered

/-!
# Services of the call gate

The words that select what a call through the gate does, and the two words it answers with.

## Main definitions

* `ServiceId` — services, and `ServiceId.isRestricted` — those closed after the restricted
  services were locked.
* `isKmsService` — whether a service word carries a key management request.
* `GateResult`, `EngineStatus` — the result of a call and the detail written back to the caller.
* `ImageKind` — what a low level service works on.
-/

namespace KeyEnclave

/-- The bits of a service word that select a family of add-on services. -/
def addonMask : UInt32 := 0x70000000

/-- The add-on family of key management requests. -/
def kmsAddon : UInt32 := 0x10000000

/-- The slot number that asks for every active slot to be validated at once. -/
def validateAllSlots : UInt32 := 255

/-- Whether a service word carries a key management request. -/
def isKmsService (service : UInt32) : Bool := service &&& addonMask == kmsAddon

/-- Services reachable through the call gate. -/
inductive ServiceId
  | init
  | llDecryptInit
  | llDecryptAppend
  | llDecryptFinish
  | llAuthenticateFwInit
  | llAuthenticateFwAppend
  | llAuthenticateFwFinish
  | hlAuthenticateMetadata
  | appGetActiveFwInfo
  | appValidateFw
  | appGetFwState
  | sysSaveDisableIrq
  | sysRestoreEnableIrq
  | imgRead
  | imgWrite
  | imgErase
  | imgGetFwState
  | imgSetFwState
  | lockRestrictServices
  | extFlashDecryptInit
  | exitInterrupt
  deriving DecidableEq, Repr, Inhabited

namespace ServiceId

/-- The word of each service. -/
def word : ServiceId → UInt32
  | init => 0x00
  | llDecryptInit => 0x04
  | llDecryptAppend => 0x05
  | llDecryptFinish => 0x06
  | llAuthenticateFwInit => 0x07
  | llAuthenticateFwAppend => 0x08
  | llAuthenticateFwFinish => 0x09
  | hlAuthenticateMetadata => 0x10
  | appGetActiveFwInfo => 0x20
  | appValidateFw => 0x21
  | appGetFwState => 0x22
  | sysSaveDisableIrq => 0x60
  | sysRestoreEnableIrq => 0x61
  | imgRead => 0x92
  | imgWrite => 0x93
  | imgErase => 0x94
  | imgGetFwState => 0x95
  | imgSetFwState => 0x96
  | lockRestrictServices => 0x100
  | extFlashDecryptInit => 0x110
  | exitInterrupt => 0x1000

instance : Numbered ServiceId where
  all := [init, llDecryptInit, llDecryptAppend, llDecryptFinish, llAuthenticateFwInit,
    llAuthenticateFwAppend, llAuthenticateFwFinish, hlAuthenticateMetadata, appGetActiveFwInfo,
    appValidateFw, appGetFwState, sysSaveDisableIrq, sysRestoreEnableIrq, imgRead, imgWrite,
    imgErase, imgGetFwState, imgSetFwState, lockRestrictServices, extFlashDecryptInit,
    exitInterrupt]
  word := word

/-- Services refused once the restricted services are locked. -/
def isRestricted : ServiceId → Bool
  | init | llDecryptInit | llDecryptAppend | llDecryptFinish | llAuthenticateFwInit
  | llAuthenticateFwAppend | llAuthenticateFwFinish | hlAuthenticateMetadata | imgRead | imgWrite
  | imgErase | imgSetFwState | extFlashDecryptInit => true
  | appGetActiveFwInfo | appValidateFw | appGetFwState | sysSaveDisableIrq | sysRestoreEnableIrq
  | imgGetFwState | lockRestrictServices | exitInterrupt => false

end ServiceId

/-- The result of a call through the gate. -/
inductive GateResult
  | error
  | success
  deriving DecidableEq, Repr, Inhabited

/-- The word of each result. -/
def GateResult.word : GateResult → UInt32
  | .error => 0x00018799
  | .success => 0x0012310F

instance : Numbered GateResult where
  all := [.error, .success]
  word := GateResult.word

/-- The detail of a service's result. -/
inductive EngineStatus
  | ok
  | ko
  | signatureErr
  | flashReadErr
  | busy
  deriving DecidableEq, Repr, Inhabited

/-- The word of each status. -/
def EngineStatus.word : EngineStatus → UInt32
  | .ok => 0x0012E223
  | .ko => 0x0013023D
  | .signatureErr => 0x00146AC1
  | .flashReadErr => 0x0014B817
  | .busy => 0x1200E578

instance : Numbered EngineStatus where
  all := [.ok, .ko, .signatureErr, .flashReadErr, .busy]
  word := EngineStatus.word

/-- The kind of firmware image a low level service works on. -/
inductive ImageKind
  | completeImage
  | partialImage
  deriving DecidableEq, Repr, Inhabited

/-- The word of each kind. -/
def ImageKind.word : ImageKind → UInt32
  | .completeImage => 0
  | .partialImage => 1

instance : Numbered ImageKind where
  all := [.completeImage, .partialImage]
  word := ImageKind.word

end KeyEnclave
