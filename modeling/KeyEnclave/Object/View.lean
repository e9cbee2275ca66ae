import KeyEnclave.Object.Attribute

/-!
# Serialised objects

An object is five words — two that identify the format, the size of the body, the number of
attributes, the handle — and a body that is exactly its attributes, each a type word, a length word
and a value padded to a multiple of four bytes.

## Main definitions

* `ObjectError` — why bytes are no object.
* `ObjectView` — a parsed object; `ObjectView.parse` takes a whole byte string, `parseFront` an
  object at its front.
* `ObjectView.attributes` — the attributes in order.
* `ObjectView.Matches` — whether an object has every attribute of a template.

## Design notes

Parsing walks the body attribute by attribute, so it ends after at most one step per eight bytes,
however large the number of attributes claims to be.
-/

namespace KeyEnclave

/-- Why bytes are no object, or attributes make none. -/
inductive ObjectError
  /-- The bytes end before the object does. -/
  | truncated
  /-- The bytes are of another format, or the sizes of header and body disagree. -/
  | badHeader
  /-- The object does not fit its buffer. -/
  | tooLarge
  deriving DecidableEq, Repr, Inhabited

/-- The word at a position of a byte string. -/
def Bytes.wordAt? (bytes : Bytes) (position : Nat) : Option UInt32 :=
  Bytes.word? (bytes.drop position)

namespace ObjectFormat

/-- The first word of every object. -/
def version : UInt32 := 0xB10B0240

/-- The second word of every object. -/
def configuration : UInt32 := 0xB10B0003

/-- The length of the five words before the body. -/
def headLength : Nat := 20

/-- The length of an attribute's two words. -/
def attributeHeadLength : Nat := 8

/-- The length of an attribute whose value has `length` bytes, padding included. -/
def attributeLength (length : Nat) : Nat := (length + attributeHeadLength + 3) / 4 * 4

/-- The number of bytes that pad a value. -/
def paddingLength (length : Nat) : Nat := (4 - length % 4) % 4

/-- The bytes after the first `count` attributes of `body`. -/
def skipAttributes : Nat → Bytes → Except ObjectError Bytes
  | 0, body => .ok body
  | count + 1, body =>
    match body.wordAt? 4 with
    | none => .error .truncated
    | some length =>
      let size := attributeLength length.toNat
      if size ≤ body.length then skipAttributes count (body.drop size) else .error .truncated

/-- The attributes at the front of `body`, at most `count`, up to the first that is cut short. -/
def readAttributes : Nat → Bytes → List Attribute
  | 0, _ => []
  | count + 1, body =>
    match body.wordAt? 0, body.wordAt? 4 with
    | some kind, some length =>
      let rest := body.drop attributeHeadLength
      if length.toNat ≤ rest.length then
        ⟨kind, rest.take length.toNat⟩ ::
          readAttributes count (body.drop (attributeLength length.toNat))
      else []
    | _, _ => []

end ObjectFormat

/-- A parsed object. -/
structure ObjectView where
  handle : ObjectHandle
  /-- The number of attributes. -/
  count : UInt32
  /-- The attributes as serialised. -/
  body : Bytes
  deriving DecidableEq, Repr, Inhabited

namespace ObjectView

open ObjectFormat

/-- The word at a position of an object's head. -/
def headWord (bytes : Bytes) (position : Nat) : Except ObjectError UInt32 :=
  match bytes.wordAt? position with
  | some word => .ok word
  | none => .error .truncated

/-- The object at the front of a byte string, and its length. -/
def parseFront (bytes : Bytes) : Except ObjectError (ObjectView × Nat) := do
  if (← headWord bytes 0) ≠ version then throw .badHeader
  if (← headWord bytes 4) ≠ configuration then throw .badHeader
  let size ← headWord bytes 8
  let count ← headWord bytes 12
  let handle ← headWord bytes 16
  let stop := headLength + size.toNat
  if bytes.length < stop then throw .truncated
  let body := (bytes.take stop).drop headLength
  let rest ← skipAttributes count.toNat body
  if rest ≠ [] then throw .badHeader
  pure (⟨handle, count, body⟩, stop)

/-- The object that is the whole of a byte string. -/
def parse (bytes : Bytes) : Except ObjectError ObjectView := do
  let (view, length) ← parseFront bytes
  if length ≠ bytes.length then throw .badHeader
  pure view

/-- The object that is the whole of a byte string, if it is one. -/
def parse? (bytes : Bytes) : Option ObjectView := (parse bytes).toOption

/-- The attributes of an object in order. -/
def attributes (view : ObjectView) : List Attribute := readAttributes view.count.toNat view.body

/-- The value of the first attribute of a type. -/
def attribute? (view : ObjectView) (kind : AttributeKind) : Option Bytes :=
  Template.find? view.attributes kind

/-- The first attribute of a type read as a flag; an empty value is none. -/
def flag? (view : ObjectView) (kind : AttributeKind) : Option Bool :=
  (view.attribute? kind).bind Attribute.isSet

/-- The first attribute of a type read as a word; a value of another length is none. -/
def word? (view : ObjectView) (kind : AttributeKind) : Option UInt32 :=
  (view.attribute? kind).bind Bytes.asWord?

/-- Whether every attribute of a template is present with the same value. -/
def Matches (view : ObjectView) (template : Template) : Prop :=
  ∀ wanted ∈ template, view.attribute? wanted.kind = some wanted.value

instance (view : ObjectView) (template : Template) : Decidable (view.Matches template) :=
  inferInstanceAs (Decidable (∀ wanted ∈ template, _))

/-- Values may be read unless the object says that it is not extractable. -/
def isExtractable (view : ObjectView) : Bool :=
  view.flag? AttributeKind.extractable != some false

/-- An object may be destroyed unless it says that it is not destroyable. -/
def isDestroyable (view : ObjectView) : Bool :=
  view.flag? AttributeKind.destroyable != some false

end ObjectView

end KeyEnclave
