import KeyEnclave.Bytes

/-!
# Vocabulary of PKCS#11

Handles, attribute types, object classes, key types, mechanisms and flags, with the values of the
standard.

## Main definitions

* `AttributeKind`, `ObjectClass`, `KeyKind`, `MechanismKind` — named constants of each family.
* `Flags` — a word of flags, with `Flags.contains`.
* `Mechanism` — a mechanism with its parameter.
-/

namespace KeyEnclave

/-- Handles of sessions, counted from 1. -/
abbrev SessionHandle := UInt32

/-- Handles of objects. -/
abbrev ObjectHandle := UInt32

/-- Types of attributes. -/
abbrev AttributeKind := UInt32

namespace AttributeKind

def objectClass : AttributeKind := 0x0000
def token : AttributeKind := 0x0001
def label : AttributeKind := 0x0003
def value : AttributeKind := 0x0011
def certificateType : AttributeKind := 0x0080
def keyType : AttributeKind := 0x0100
def valueLen : AttributeKind := 0x0161
def extractable : AttributeKind := 0x0162
def destroyable : AttributeKind := 0x0172
def ecPoint : AttributeKind := 0x0181
def hwFeatureType : AttributeKind := 0x0300

end AttributeKind

/-- Values of the object class attribute. -/
abbrev ObjectClass := UInt32

namespace ObjectClass

def publicKey : ObjectClass := 2
def privateKey : ObjectClass := 3
def secretKey : ObjectClass := 4

end ObjectClass

/-- Values of the key type attribute. -/
abbrev KeyKind := UInt32

namespace KeyKind

def ec : KeyKind := 0x03
def genericSecret : KeyKind := 0x10

end KeyKind

/-- Mechanisms. -/
abbrev MechanismKind := UInt32

namespace MechanismKind

def sha256 : MechanismKind := 0x0250
def sha256Hmac : MechanismKind := 0x0251
def ecKeyPairGen : MechanismKind := 0x1040
def ecdsa : MechanismKind := 0x1041
def ecdsaSha256 : MechanismKind := 0x1044
def ecdh1Derive : MechanismKind := 0x1050
def chacha20Poly1305 : MechanismKind := 0x4021
def hkdfDerive : MechanismKind := 0x402A

end MechanismKind

/-- A mechanism and its parameter. -/
structure Mechanism where
  kind : MechanismKind
  parameter : Bytes
  deriving DecidableEq, Repr, Inhabited

/-- A word whose bits are flags. -/
abbrev Flags := UInt32

/-- Whether every flag of `wanted` is set. -/
def Flags.contains (flags wanted : Flags) : Bool := flags &&& wanted == wanted

namespace SessionFlags

def rwSession : Flags := 0x00000002
def serialSession : Flags := 0x00000004

end SessionFlags

namespace SlotFlags

def tokenPresent : Flags := 0x00000001
def hwSlot : Flags := 0x00000004

end SlotFlags

namespace TokenFlags

def writeProtected : Flags := 0x00000002

end TokenFlags

namespace MechanismFlags

def hw : Flags := 0x00000001
def encrypt : Flags := 0x00000100
def decrypt : Flags := 0x00000200
def digest : Flags := 0x00000400
def sign : Flags := 0x00000800
def verify : Flags := 0x00002000
def generateKeyPair : Flags := 0x00010000
def derive : Flags := 0x00080000

/-- Every flag a mechanism may have. -/
def known : Flags :=
  hw ||| encrypt ||| decrypt ||| digest ||| sign ||| verify ||| generateKeyPair ||| derive

end MechanismFlags

end KeyEnclave
