import KeyEnclave.Bytes
import KeyEnclave.Identifier.Numbered

/-!
# The wire format of records

Records are written field by field without headers. Words have a fixed width and are little-endian;
byte strings are preceded by their length, and the members of an enumeration are written as their
position, both as varints of seven bits per byte.

## Main definitions

* `WireError` — why bytes are no record.
* `Varint.encode`, `Varint.decode` — numbers in groups of seven bits, least significant first.
* `Codec` — a writer and the reader that takes a value off the front of a byte string, with the
  combinators `Codec.pair` and `Codec.imap` that build records from fields.

## Design notes

A reader accepts varints that are longer than needed and keeps the low 64 bits of their value, so
several byte strings may stand for one record; writers always produce the shortest.
-/

namespace KeyEnclave

/-- Why bytes are no record. -/
inductive WireError
  /-- The bytes end inside a field. -/
  | unexpectedEnd
  /-- A varint has more than ten bytes. -/
  | badVarint
  /-- The position of an enumeration's member does not fit a word. -/
  | badEnum
  /-- A field is complete but has a value its type does not. -/
  | invalidValue
  deriving DecidableEq, Repr, Inhabited

/-- The text that describes an error. -/
def WireError.message : WireError → String
  | .unexpectedEnd => "Hit the end of buffer, expected more data"
  | .badVarint => "Found a varint that didn't terminate. Is the usize too big for this platform?"
  | .badEnum => "Found an enum discriminant that was > u32::max_value()"
  | .invalidValue => "Serde Deserialization Error"

namespace Varint

/-- The longest varint a reader looks at. -/
def maxLength : Nat := 10

/-- The shortest varint of a number. -/
def encode (value : Nat) : Bytes :=
  if value < 128 then [UInt8.ofNat value]
  else UInt8.ofNat (value % 128 + 128) :: encode (value / 128)
termination_by value
decreasing_by omega

/-- Read a varint of at most `budget` bytes, without a bound on its value. -/
def decodeWithin : Nat → Bytes → Except WireError (Nat × Bytes)
  | 0, _ => .error .badVarint
  | _ + 1, [] => .error .unexpectedEnd
  | budget + 1, b :: rest =>
    if b < 128 then .ok (b.toNat, rest)
    else do
      let (high, rest) ← decodeWithin budget rest
      pure (b.toNat - 128 + 128 * high, rest)

/-- Read a varint; bits above the lowest 64 are lost. -/
def decode (bytes : Bytes) : Except WireError (Nat × Bytes) := do
  let (value, rest) ← decodeWithin maxLength bytes
  pure (value % UInt64.size, rest)

end Varint

/-- A writer of values and the reader of what it writes. -/
structure Codec (α : Type) where
  /-- The bytes of a value. -/
  encode : α → Bytes
  /-- The value at the front of a byte string, and the bytes after it. -/
  decode : Bytes → Except WireError (α × Bytes)

namespace Codec

variable {α β : Type}

/-- Exactly `n` bytes. -/
def take (n : Nat) (bytes : Bytes) : Except WireError (Bytes × Bytes) :=
  if n ≤ bytes.length then .ok (bytes.take n, bytes.drop n) else .error .unexpectedEnd

/-- Two fields, one after the other. -/
def pair (first : Codec α) (second : Codec β) : Codec (α × β) where
  encode value := first.encode value.1 ++ second.encode value.2
  decode bytes := do
    let (a, rest) ← first.decode bytes
    let (b, rest) ← second.decode rest
    pure ((a, b), rest)

/-- The same bytes for the values of another type. -/
def imap (codec : Codec α) (pack : α → β) (unpack : β → α) : Codec β where
  encode value := codec.encode (unpack value)
  decode bytes := do
    let (a, rest) ← codec.decode bytes
    pure (pack a, rest)

/-- The values of a field for which `pack?` has a result; others are invalid. -/
def refine (codec : Codec α) (pack? : α → Option β) (unpack : β → α) : Codec β where
  encode value := codec.encode (unpack value)
  decode bytes := do
    let (a, rest) ← codec.decode bytes
    match pack? a with
    | some b => pure (b, rest)
    | none => .error .invalidValue

/-- A number below `Bytes.limit n` in `n` bytes. -/
def fixedWidth (n : Nat) : Codec Nat where
  encode value := Bytes.ofNatLE n value
  decode bytes := do
    let (field, rest) ← take n bytes
    pure (Bytes.toNatLE field, rest)

def u8 : Codec UInt8 := (fixedWidth 1).imap UInt8.ofNat UInt8.toNat

def u16 : Codec UInt16 := (fixedWidth 2).imap UInt16.ofNat UInt16.toNat

def u32 : Codec UInt32 := (fixedWidth 4).imap UInt32.ofNat UInt32.toNat

/-- A byte string after its length. -/
def bytes : Codec Bytes where
  encode value := Varint.encode value.length ++ value
  decode input := do
    let (length, rest) ← Varint.decode input
    take length rest

/-- A byte string of a fixed length, still written after its length. -/
def fixedBytes (n : Nat) : Codec { value : Bytes // value.length = n } :=
  bytes.refine (fun value => if h : value.length = n then some ⟨value, h⟩ else none) Subtype.val

/-- A numbered identifier, written as its word. -/
def numbered [Numbered α] : Codec α := u32.refine Numbered.ofWord? Numbered.word

/-- A member of an enumeration, written as its position in `members`. -/
def enumeration [DecidableEq α] (members : List α) : Codec α where
  encode value := Varint.encode (members.idxOf value)
  decode input := do
    let (position, rest) ← Varint.decode input
    if UInt32.size ≤ position then .error .badEnum
    else match members[position]? with
      | some value => pure (value, rest)
      | none => .error .invalidValue

end Codec

end KeyEnclave
