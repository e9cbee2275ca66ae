import KeyEnclave.Cipher.P256

/-!
# DER signatures

A signature may come raw, as its two components of 32 bytes, or as a DER sequence of two integers.

## Main definitions

* `DerSignature.value?` — the content of a value with a tag and a length in its only form.
* `DerSignature.integer?` — an unsigned integer in its only form, and the bytes after it.
* `DerSignature.decode` — the components of a sequence of two.
* `rawSignature?` — a signature of either kind in its raw form.
-/

namespace KeyEnclave

/-- The length of a raw signature. -/
def rawSignatureLength : Nat := 64

namespace DerSignature

def sequenceTag : UInt8 := 0x30

def integerTag : UInt8 := 0x02

/-- A length in its only form, and the bytes after it: one byte below 128, or else a byte that says
how many more there are, up to four, without a leading zero. -/
def length? : Bytes → Option (Nat × Bytes)
  | [] => none
  | first :: rest =>
    if first < 0x80 then some (first.toNat, rest)
    else
      let count := first.toNat - 0x80
      let digits := rest.take count
      let length := Bytes.toNatBE digits
      if 4 < count ∨ rest.length < count then none
      else if digits.head? = some 0 ∨ length < 0x80 then none
      else some (length, rest.drop count)

/-- The content of a value with a tag, and the bytes after it. -/
def value? (tag : UInt8) : Bytes → Option (Bytes × Bytes)
  | [] => none
  | t :: rest => do
    if t ≠ tag then none
    let (length, rest) ← length? rest
    if rest.length < length then none
    pure (rest.take length, rest.drop length)

/-- The magnitude in the content of an integer: it is not negative, and has a leading zero only
where it would be negative without. -/
def magnitude? : Bytes → Option Bytes
  | [] => none
  | [b] => if b < 0x80 then some [b] else none
  | b :: c :: rest =>
    if b = 0 then if 0x80 ≤ c then some (c :: rest) else none
    else if b < 0x80 then some (b :: c :: rest)
    else none

/-- An unsigned integer and the bytes after it. -/
def integer? (bytes : Bytes) : Option (Bytes × Bytes) := do
  let (content, rest) ← value? integerTag bytes
  let magnitude ← magnitude? content
  pure (magnitude, rest)

/-- A magnitude in 32 bytes, if it fits. -/
def component? (magnitude : Bytes) : Option Bytes :=
  if P256.elementLength < magnitude.length then none
  else some (List.replicate (P256.elementLength - magnitude.length) 0 ++ magnitude)

/-- The components of a sequence of two integers with nothing in it or after it but them. -/
def decode (bytes : Bytes) : Option Bytes := do
  let (content, rest) ← value? sequenceTag bytes
  if rest ≠ [] then none
  let (r, content) ← integer? content
  let (s, content) ← integer? content
  if content ≠ [] then none
  let r ← component? r
  let s ← component? s
  pure (r ++ s)

end DerSignature

/-- The raw form of a signature; whatever has the length of a raw signature is one. -/
def rawSignature? (bytes : Bytes) : Option Bytes :=
  if bytes.length = rawSignatureLength then some bytes else DerSignature.decode bytes

end KeyEnclave
