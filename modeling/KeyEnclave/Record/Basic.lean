import KeyEnclave.Cryptoki

/-!
# Information records

The records that information requests answer with. Text fields have a fixed size and are padded
with blanks, not terminated.

## Main definitions

* `FixedBytes n` — a field of exactly `n` bytes.
* `blankPadded` — a text as such a field.
* `Info`, `SlotInfo`, `TokenInfo`, `MechanismInfo`, `SessionInfo`, `ActiveImageInfo` — the records.
-/

namespace KeyEnclave

/-- A field of exactly `n` bytes. -/
abbrev FixedBytes (n : Nat) := { bytes : Bytes // bytes.length = n }

/-- A text padded with blanks to `n` bytes; a longer text is cut after `n` bytes. -/
def blankPadded (n : Nat) (text : String) : FixedBytes n :=
  ⟨(text.toUTF8.data.toList ++ List.replicate n 0x20).take n, by simp⟩

/-- A version number. -/
structure Version where
  major : UInt8
  minor : UInt8
  deriving DecidableEq, Repr, Inhabited

/-- What is known of the library. -/
structure Info where
  cryptokiVersion : Version
  manufacturerId : FixedBytes 32
  flags : UInt32
  libraryDescription : FixedBytes 32
  libraryVersion : Version
  deriving DecidableEq, Repr

/-- What is known of a slot. -/
structure SlotInfo where
  slotDescription : FixedBytes 64
  manufacturerId : FixedBytes 32
  flags : UInt32
  hardwareVersion : Version
  firmwareVersion : Version
  deriving DecidableEq, Repr

/-- What is known of the token in a slot. -/
structure TokenInfo where
  label : FixedBytes 32
  manufacturerId : FixedBytes 32
  model : FixedBytes 16
  serialNumber : FixedBytes 16
  flags : UInt32
  maxSessionCount : UInt32
  sessionCount : UInt32
  maxRwSessionCount : UInt32
  rwSessionCount : UInt32
  hardwareVersion : Version
  firmwareVersion : Version
  deriving DecidableEq, Repr

/-- What is known of a mechanism. -/
structure MechanismInfo where
  minKeySize : UInt32
  maxKeySize : UInt32
  flags : UInt32
  deriving DecidableEq, Repr, Inhabited

/-- The flags of a mechanism that have a meaning. -/
def MechanismInfo.knownFlags (info : MechanismInfo) : Flags := info.flags &&& MechanismFlags.known

/-- What is known of a session. -/
structure SessionInfo where
  slotId : UInt32
  state : UInt32
  flags : UInt32
  deriving DecidableEq, Repr, Inhabited

/-- Version and size of the firmware in an active slot. -/
structure ActiveImageInfo where
  version : UInt16
  size : UInt32
  deriving DecidableEq, Repr, Inhabited

end KeyEnclave
