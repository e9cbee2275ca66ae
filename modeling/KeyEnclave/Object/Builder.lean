import KeyEnclave.Object.View

/-!
# Building objects

A builder serialises an object attribute by attribute into a buffer of fixed capacity. Of several
attributes of one type it keeps the first.

## Main definitions

* `ObjectBuilder` — the bytes written so far.
* `ObjectBuilder.push`, `ObjectBuilder.extend` — append one attribute, or a template.
* `ObjectBuilder.finish` — the serialised object.
* `serialise` — an object made of several templates, of which earlier ones take precedence.

## Design notes

An attribute is appended piece by piece. When a piece does not fit, the attribute is refused, but
the pieces before it stay in the buffer.
-/

namespace KeyEnclave

open ObjectFormat

/-- An object under construction in a buffer of `capacity` bytes. -/
structure ObjectBuilder (capacity : Nat) where
  /-- The head, whose sizes are not yet filled in, and the attributes. -/
  buffer : Bytes
  /-- The number of attributes. -/
  count : UInt32
  deriving DecidableEq, Repr

namespace ObjectBuilder

variable {capacity : Nat}

/-- A builder of an object without attributes; the buffer has to hold at least the head. -/
def new (capacity : Nat) (handle : ObjectHandle) : Except ObjectError (ObjectBuilder capacity) :=
  if capacity < headLength then .error .tooLarge
  else .ok ⟨[version, configuration, 0, 0, handle].flatMap Bytes.ofWord, 0⟩

/-- Append pieces in turn, up to the first that does not fit. -/
def appendPieces (capacity : Nat) : Bytes → List Bytes → Except ObjectError Unit × Bytes
  | buffer, [] => (.ok (), buffer)
  | buffer, piece :: pieces =>
    if buffer.length + piece.length ≤ capacity then
      appendPieces capacity (buffer ++ piece) pieces
    else (.error .tooLarge, buffer)

/-- The attributes written so far. -/
def attributes (builder : ObjectBuilder capacity) : List Attribute :=
  readAttributes builder.count.toNat (builder.buffer.drop headLength)

/-- Append an attribute, unless there is one of the same type. -/
def push (builder : ObjectBuilder capacity) (kind : AttributeKind) (value : Bytes) :
    Except ObjectError Unit × ObjectBuilder capacity :=
  if builder.attributes.any (·.kind == kind) then (.ok (), builder)
  else if UInt32.size ≤ value.length then (.error .tooLarge, builder)
  else
    let pieces := [Bytes.ofWord kind, Bytes.ofWord (UInt32.ofNat value.length), value,
      List.replicate (paddingLength value.length) 0]
    match appendPieces capacity builder.buffer pieces with
    | (.ok (), buffer) => (.ok (), ⟨buffer, builder.count + 1⟩)
    | (.error e, buffer) => (.error e, ⟨buffer, builder.count⟩)

/-- Append an attribute whose value is a word. -/
def pushWord (builder : ObjectBuilder capacity) (kind : AttributeKind) (value : UInt32) :
    Except ObjectError Unit × ObjectBuilder capacity :=
  builder.push kind (Bytes.ofWord value)

/-- Append the attributes of a template, up to the first that does not fit. -/
def extend (builder : ObjectBuilder capacity) :
    Template → Except ObjectError Unit × ObjectBuilder capacity
  | [] => (.ok (), builder)
  | a :: template =>
    match builder.push a.kind a.value with
    | (.ok (), builder) => builder.extend template
    | failed => failed

/-- The serialised object: the buffer with the sizes filled in. -/
def finish (builder : ObjectBuilder capacity) : Bytes :=
  builder.buffer.take 8 ++
    Bytes.ofWord (UInt32.ofNat (builder.buffer.length - headLength)) ++
    Bytes.ofWord builder.count ++ builder.buffer.drop 16

end ObjectBuilder

/-- The object with the attributes of `parts`, in a buffer of `capacity` bytes. -/
def serialise (capacity : Nat) (handle : ObjectHandle) (parts : List Template) :
    Except ObjectError Bytes := do
  let builder ← ObjectBuilder.new capacity handle
  match builder.extend parts.flatten with
  | (.ok (), builder) => pure builder.finish
  | (.error e, _) => throw e

end KeyEnclave
