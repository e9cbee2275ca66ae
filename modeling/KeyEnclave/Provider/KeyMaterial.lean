import KeyEnclave.Cipher.P256
import KeyEnclave.Identifier.ReturnCode
import KeyEnclave.Object.View

/-!
# Keys in objects

A secret or private key is the value attribute of its object, a public key the point attribute. An
object without a usable key is refused as a key.
-/

namespace KeyEnclave.ObjectView

/-- The secret of an object. -/
def secretValue (key : ObjectView) : Except ReturnCode Bytes :=
  match key.attribute? AttributeKind.value with
  | some value => .ok value
  | none => .error .keyHandleInvalid

theorem secretValue_ne_error_ok {key : ObjectView} : key.secretValue ≠ .error .ok := by
  unfold secretValue
  split <;> exact fun h => by cases h

/-- The private value of an object. -/
def signingKey (key : ObjectView) : Except ReturnCode P256.Scalar := do
  match P256.scalarOfBytes? (← key.secretValue) with
  | some scalar => pure scalar
  | none => throw .keyHandleInvalid

/-- The length of an uncompressed point. -/
def pointLength : Nat := 65

/-- A point without the octet string it may be wrapped in. -/
def unwrapPoint : Bytes → Bytes
  | 0x04 :: 0x41 :: inner => if inner.length = pointLength then inner else 0x04 :: 0x41 :: inner
  | point => point

/-- The public point of an object. -/
def verifyingKey (key : ObjectView) : Except ReturnCode P256.Point :=
  match key.attribute? AttributeKind.ecPoint with
  | none => .error .keyHandleInvalid
  | some point =>
    match P256.Point.ofSec1? (unwrapPoint point) with
    | some point => .ok point
    | none => .error .keyHandleInvalid

end KeyEnclave.ObjectView
