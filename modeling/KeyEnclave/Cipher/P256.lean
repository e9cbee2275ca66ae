import KeyEnclave.Bytes

/-!
# The curve P-256

Points of the curve y² = x³ - 3x + b over its prime field, their multiples and their SEC1 forms.

## Main definitions

* `P256.Field`, `P256.Scalar` — residues modulo the field's prime and modulo the group's order.
* `P256.Point` — a point in affine coordinates, so never the identity.
* `P256.multiply`, `P256.multiplyAdd` — multiples of points.
* `P256.Point.ofSec1?`, `P256.Point.toSec1` — points as bytes.
* `P256.scalarOfBytes?` — private values.

## Design notes

Multiples are computed in Jacobian coordinates (X : Y : Z), which stand for (X/Z², Y/Z³), so that
one division is enough; Z = 0 is the identity.
-/

namespace KeyEnclave.P256

/-- The prime of the field. -/
def fieldPrime : Nat := 0xffffffff00000001000000000000000000000000ffffffffffffffffffffffff

/-- The order of the group. -/
def groupOrder : Nat := 0xffffffff00000000ffffffffffffffffbce6faada7179e84f3b9cac2fc632551

/-- Residues modulo the prime of the field. -/
abbrev Field := Fin fieldPrime

/-- Residues modulo the order of the group. -/
abbrev Scalar := Fin groupOrder

/-- The residue of a number modulo the prime of the field. -/
def Field.ofNat (value : Nat) : Field := ⟨value % fieldPrime, Nat.mod_lt _ (by decide)⟩

instance (value : Nat) : OfNat Field value := ⟨Field.ofNat value⟩

/-- The residue of a number modulo the order of the group. -/
def Scalar.ofNat (value : Nat) : Scalar := ⟨value % groupOrder, Nat.mod_lt _ (by decide)⟩

instance (value : Nat) : OfNat Scalar value := ⟨Scalar.ofNat value⟩

/-- The constant term of the curve. -/
def curveB : Field := 0x5ac635d8aa3a93e7b3ebbd55769886bc651d06b0cc53b0f63bce3c3e27d2604b

/-- The length of a field element or scalar in bytes. -/
def elementLength : Nat := 32

/-- The bits of a number below 2²⁵⁶, from the most significant on. -/
def bits (value : Nat) : List Bool := (List.range 256).reverse.map value.testBit

/-- A power of a residue; the exponent is below 2²⁵⁶. -/
def power {m : Nat} [OfNat (Fin m) 1] (base : Fin m) (exponent : Nat) : Fin m :=
  (bits exponent).foldl (fun acc bit => if bit then acc * acc * base else acc * acc) 1

/-- The inverse of a residue modulo a prime. -/
def inverse {m : Nat} [OfNat (Fin m) 1] (a : Fin m) : Fin m := power a (m - 2)

/-- The side of the curve's equation in x. -/
def curveSide (x : Field) : Field := x * x * x - 3 * x + curveB

/-- A residue whose square is `a`, if there is one. -/
def squareRoot? (a : Field) : Option Field :=
  let root := power a ((fieldPrime + 1) / 4)
  if root * root = a then some root else none

-- ═══════════════════════════════════════════════════════════════════════════
-- Jacobian coordinates
-- ═══════════════════════════════════════════════════════════════════════════

/-- A point in Jacobian coordinates. -/
structure Jacobian where
  x : Field
  y : Field
  z : Field
  deriving DecidableEq, Repr

namespace Jacobian

/-- The identity of the group. -/
def identity : Jacobian := ⟨1, 1, 0⟩

/-- Twice a point. -/
def double (p : Jacobian) : Jacobian :=
  let delta := p.z * p.z
  let gamma := p.y * p.y
  let beta := p.x * gamma
  let alpha := 3 * ((p.x - delta) * (p.x + delta))
  let x := alpha * alpha - 8 * beta
  let z := (p.y + p.z) * (p.y + p.z) - gamma - delta
  let y := alpha * (4 * beta - x) - 8 * (gamma * gamma)
  ⟨x, y, z⟩

/-- The sum of two points. -/
def add (p q : Jacobian) : Jacobian :=
  if p.z = 0 then q
  else if q.z = 0 then p
  else
    let pz2 := p.z * p.z
    let qz2 := q.z * q.z
    let u1 := p.x * qz2
    let u2 := q.x * pz2
    let s1 := p.y * (qz2 * q.z)
    let s2 := q.y * (pz2 * p.z)
    if u1 = u2 then if s1 = s2 then double p else identity
    else
      let h := u2 - u1
      let r := s2 - s1
      let h2 := h * h
      let h3 := h2 * h
      let v := u1 * h2
      let x := r * r - h3 - 2 * v
      ⟨x, r * (v - x) - s1 * h3, h * (p.z * q.z)⟩

/-- A multiple of a point; the factor is below 2²⁵⁶. -/
def multiply (factor : Nat) (p : Jacobian) : Jacobian :=
  (bits factor).foldl (fun acc bit => if bit then acc.double.add p else acc.double) identity

end Jacobian

-- ═══════════════════════════════════════════════════════════════════════════
-- Points
-- ═══════════════════════════════════════════════════════════════════════════

/-- A point in affine coordinates; the identity has none. -/
structure Point where
  x : Field
  y : Field
  deriving DecidableEq, Repr

namespace Point

/-- The point the group is generated by. -/
def generator : Point :=
  ⟨0x6b17d1f2e12c4247f8bce6e563a440f277037d812deb33a0f4a13945d898c296,
    0x4fe342e2fe1a7f9b8ee7eb4a7c0f9e162bce33576b315ececbb6406837bf51f5⟩

/-- Whether the coordinates satisfy the equation of the curve. -/
def onCurve (p : Point) : Bool := p.y * p.y == curveSide p.x

/-- A point in Jacobian coordinates. -/
def toJacobian (p : Point) : Jacobian := ⟨p.x, p.y, 1⟩

/-- The affine coordinates of a point that is not the identity. -/
def ofJacobian? (p : Jacobian) : Option Point :=
  if p.z = 0 then none
  else
    let zinv := inverse p.z
    let zinv2 := zinv * zinv
    some ⟨p.x * zinv2, p.y * (zinv2 * zinv)⟩

end Point

/-- A multiple of a point. -/
def multiply (factor : Scalar) (p : Point) : Option Point :=
  Point.ofJacobian? (Jacobian.multiply factor.val p.toJacobian)

/-- The sum of multiples of the generator and of a point. -/
def multiplyAdd (ofGenerator ofPoint : Scalar) (p : Point) : Option Point :=
  Point.ofJacobian?
    ((Jacobian.multiply ofGenerator.val Point.generator.toJacobian).add
      (Jacobian.multiply ofPoint.val p.toJacobian))

-- ═══════════════════════════════════════════════════════════════════════════
-- Bytes
-- ═══════════════════════════════════════════════════════════════════════════

/-- A residue as big-endian bytes. -/
def elementBytes {m : Nat} (a : Fin m) : Bytes := Bytes.ofNatBE elementLength a.val

/-- The residue with the given big-endian bytes, which have to be below the modulus. -/
def element? {m : Nat} (bytes : Bytes) : Option (Fin m) :=
  let value := Bytes.toNatBE bytes
  if h : value < m then some ⟨value, h⟩ else none

/-- The private value in big-endian bytes: at least 24 and at most 32 of them, neither zero nor
above the order. -/
def scalarOfBytes? (bytes : Bytes) : Option Scalar :=
  if bytes.length < 24 ∨ elementLength < bytes.length then none
  else match element? bytes with
    | some scalar => if scalar = 0 then none else some scalar
    | none => none

namespace Point

/-- The uncompressed form of a point. -/
def toSec1 (p : Point) : Bytes := 0x04 :: (elementBytes p.x ++ elementBytes p.y)

/-- The point with a coordinate x whose coordinate y is chosen from its root. -/
def decompress? (x : Bytes) (choose : Field → Field) : Option Point := do
  let x ← element? x
  let root ← squareRoot? (curveSide x)
  pure ⟨x, choose root⟩

/-- The point of a SEC1 form: uncompressed, compressed with the parity of y, or compact with the
smaller y. The identity is refused. -/
def ofSec1? (bytes : Bytes) : Option Point :=
  match bytes with
  | [] => none
  | tag :: rest =>
    if tag = 0x04 ∧ rest.length = 2 * elementLength then do
      let x ← element? (rest.take elementLength)
      let y ← element? (rest.drop elementLength)
      let p : Point := ⟨x, y⟩
      if p.onCurve then some p else none
    else if (tag = 0x02 ∨ tag = 0x03) ∧ rest.length = elementLength then
      let odd := tag.toNat % 2
      decompress? rest fun y => if y.val % 2 = odd then y else -y
    else if tag = 0x05 ∧ rest.length = elementLength then
      decompress? rest fun y => if y ≤ -y then y else -y
    else none

end Point

end KeyEnclave.P256
