import KeyEnclave.Firmware.ImageState
import KeyEnclave.Record.Basic
import KeyEnclave.Record.Wire

/-!
# Codecs of the records

The wire format of every record that crosses the boundary of the enclave or is kept in storage.

## Main definitions

* `Version.codec`, `Info.codec`, … — the fields of each record in order.
* `StorageRecord` — an object as kept in persistent storage, under its handle.
-/

namespace KeyEnclave

open Codec

def Version.codec : Codec Version :=
  (u8.pair u8).imap (fun (major, minor) => ⟨major, minor⟩) fun v => (v.major, v.minor)

def Info.codec : Codec Info :=
  (Version.codec.pair ((fixedBytes 32).pair (u32.pair ((fixedBytes 32).pair Version.codec)))).imap
    (fun (cryptoki, manufacturer, flags, description, library) =>
      ⟨cryptoki, manufacturer, flags, description, library⟩)
    fun i => (i.cryptokiVersion, i.manufacturerId, i.flags, i.libraryDescription, i.libraryVersion)

def SlotInfo.codec : Codec SlotInfo :=
  ((fixedBytes 64).pair ((fixedBytes 32).pair (u32.pair (Version.codec.pair Version.codec)))).imap
    (fun (description, manufacturer, flags, hardware, firmware) =>
      ⟨description, manufacturer, flags, hardware, firmware⟩)
    fun i =>
      (i.slotDescription, i.manufacturerId, i.flags, i.hardwareVersion, i.firmwareVersion)

def TokenInfo.codec : Codec TokenInfo :=
  ((fixedBytes 32).pair ((fixedBytes 32).pair ((fixedBytes 16).pair ((fixedBytes 16).pair
    (u32.pair (u32.pair (u32.pair (u32.pair (u32.pair
      (Version.codec.pair Version.codec)))))))))).imap
    (fun (label, manufacturer, model, serial, flags, maxCount, count, maxRw, rw, hardware,
        firmware) =>
      ⟨label, manufacturer, model, serial, flags, maxCount, count, maxRw, rw, hardware, firmware⟩)
    fun i => (i.label, i.manufacturerId, i.model, i.serialNumber, i.flags, i.maxSessionCount,
      i.sessionCount, i.maxRwSessionCount, i.rwSessionCount, i.hardwareVersion, i.firmwareVersion)

def MechanismInfo.codec : Codec MechanismInfo :=
  (u32.pair (u32.pair u32)).imap (fun (low, high, flags) => ⟨low, high, flags⟩)
    fun i => (i.minKeySize, i.maxKeySize, i.flags)

def SessionInfo.codec : Codec SessionInfo :=
  (u32.pair (u32.pair u32)).imap (fun (slot, state, flags) => ⟨slot, state, flags⟩)
    fun i => (i.slotId, i.state, i.flags)

def ActiveImageInfo.codec : Codec ActiveImageInfo :=
  (u16.pair u32).imap (fun (version, size) => ⟨version, size⟩) fun i => (i.version, i.size)

def ImageState.codec : Codec ImageState := enumeration ImageState.all

/-- An object as kept in persistent storage. -/
structure StorageRecord where
  /-- The version of the record's layout. -/
  version : UInt8
  handle : ObjectHandle
  /-- The serialised object. -/
  blob : Bytes
  deriving DecidableEq, Repr, Inhabited

def StorageRecord.codec : Codec StorageRecord :=
  (u8.pair (u32.pair bytes)).imap (fun (version, handle, blob) => ⟨version, handle, blob⟩)
    fun r => (r.version, r.handle, r.blob)

end KeyEnclave
