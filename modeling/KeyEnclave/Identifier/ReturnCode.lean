import KeyEnclave.Identifier.Numbered

/-!
# Return codes

The result of every key management request, with the values of the PKCS#11 standard.

## Main definitions

* `ReturnCode` — the codes the enclave produces.
* `ReturnCode.toExcept`, `ReturnCode.ofExcept` — every code but `ok` is an error.
-/

namespace KeyEnclave

/-- Results of key management requests. -/
inductive ReturnCode
  | ok
  | hostMemory
  | slotIdInvalid
  | generalError
  | functionFailed
  | argumentsBad
  | attributeSensitive
  | attributeTypeInvalid
  | attributeValueInvalid
  | actionProhibited
  | dataInvalid
  | dataLenRange
  | deviceMemory
  | encryptedDataInvalid
  | functionNotSupported
  | keyHandleInvalid
  | mechanismInvalid
  | objectHandleInvalid
  | operationActive
  | operationNotInitialised
  | sessionCount
  | sessionHandleInvalid
  | sessionParallelNotSupported
  | signatureInvalid
  | templateIncomplete
  | bufferTooSmall
  | cryptokiNotInitialised
  | cryptokiAlreadyInitialised
  deriving DecidableEq, Repr, Inhabited

namespace ReturnCode

/-- The standard's value of each code. -/
def word : ReturnCode → UInt32
  | ok => 0x000
  | hostMemory => 0x002
  | slotIdInvalid => 0x003
  | generalError => 0x005
  | functionFailed => 0x006
  | argumentsBad => 0x007
  | attributeSensitive => 0x011
  | attributeTypeInvalid => 0x012
  | attributeValueInvalid => 0x013
  | actionProhibited => 0x01B
  | dataInvalid => 0x020
  | dataLenRange => 0x021
  | deviceMemory => 0x031
  | encryptedDataInvalid => 0x040
  | functionNotSupported => 0x054
  | keyHandleInvalid => 0x060
  | mechanismInvalid => 0x070
  | objectHandleInvalid => 0x082
  | operationActive => 0x090
  | operationNotInitialised => 0x091
  | sessionCount => 0x0B1
  | sessionHandleInvalid => 0x0B3
  | sessionParallelNotSupported => 0x0B4
  | signatureInvalid => 0x0C0
  | templateIncomplete => 0x0D0
  | bufferTooSmall => 0x150
  | cryptokiNotInitialised => 0x190
  | cryptokiAlreadyInitialised => 0x191

instance : Numbered ReturnCode where
  all := [ok, hostMemory, slotIdInvalid, generalError, functionFailed, argumentsBad,
    attributeSensitive, attributeTypeInvalid, attributeValueInvalid, actionProhibited, dataInvalid,
    dataLenRange, deviceMemory, encryptedDataInvalid, functionNotSupported, keyHandleInvalid,
    mechanismInvalid, objectHandleInvalid, operationActive, operationNotInitialised, sessionCount,
    sessionHandleInvalid, sessionParallelNotSupported, signatureInvalid, templateIncomplete,
    bufferTooSmall, cryptokiNotInitialised, cryptokiAlreadyInitialised]
  word := word

/-- The code as an outcome: every code but `ok` is an error. -/
def toExcept : ReturnCode → Except ReturnCode Unit
  | ok => .ok ()
  | code => .error code

/-- The code of an outcome. -/
def ofExcept : Except ReturnCode Unit → ReturnCode
  | .ok () => ok
  | .error code => code

@[simp] theorem ofExcept_toExcept (code : ReturnCode) : ofExcept code.toExcept = code := by
  cases code <;> rfl

end ReturnCode

end KeyEnclave
