import SealedRpc.Bytes
import SealedRpc.Number.Prime

/-!
# Elliptic curves

The curves `y² = x³ + ax + b` over a prime field that keys may lie on, multiples of their
points, and how points are written in files.
-/

namespace SealedRpc

/-- A curve: how it is named, the prime and the two coefficients of its equation, the
coordinates of its generator, and how many points the generator makes. -/
structure Curve where
  identifier : Bytes
  modulus : Nat
  a : Nat
  b : Nat
  x : Nat
  y : Nat
  order : Nat
  deriving DecidableEq, Repr

/-- A point of a curve. -/
inductive Point where
  | infinity
  | affine (x y : Nat)
  deriving DecidableEq, Repr

namespace Curve

/-- The length of a coordinate in octets. -/
def size (c : Curve) : Nat :=
  (Number.bitLength c.modulus + 7) / 8

/-- The right-hand side of the equation. -/
def cubic (c : Curve) (x : Nat) : Nat :=
  (x * x * x + c.a * x + c.b) % c.modulus

/-- Whether two coordinates are those of a point on the curve. -/
def contains (c : Curve) (x y : Nat) : Bool :=
  x < c.modulus && y < c.modulus && y * y % c.modulus = c.cubic x

/-! ### Multiples of points -/

/-- The generator. -/
def generator (c : Curve) : Point :=
  .affine c.x c.y

/-- The sum of a point and the point with first coordinate `x₂` on the line of the given
slope: the third point on the line, reflected. -/
def along (c : Curve) (slope x₁ y₁ x₂ : Nat) : Point :=
  let x := (slope * slope + (c.modulus - x₁) + (c.modulus - x₂)) % c.modulus
  .affine x ((slope * (x₁ + (c.modulus - x)) + (c.modulus - y₁)) % c.modulus)

/-- The sum of two points. -/
def add (c : Curve) : Point → Point → Point
  | .infinity, q => q
  | p, .infinity => p
  | .affine x₁ y₁, .affine x₂ y₂ =>
      let quotient := fun n d => n * Number.inverse c.modulus d % c.modulus
      if x₁ ≠ x₂ then
        c.along (quotient (y₂ + (c.modulus - y₁)) (x₂ + (c.modulus - x₁))) x₁ y₁ x₂
      else if (y₁ + y₂) % c.modulus = 0 then .infinity
      else c.along (quotient (3 * x₁ * x₁ + c.a) (2 * y₁)) x₁ y₁ x₂

/-- The multiple of a point by a factor below `2 ^ bits`, one doubling a bit. -/
def multipleBits (c : Curve) : Nat → Nat → Point → Point
  | 0, _, _ => .infinity
  | bits + 1, factor, p =>
      let rest := multipleBits c bits (factor / 2) (c.add p p)
      if factor % 2 = 1 then c.add p rest else rest

/-- The multiple of a point. -/
def multiple (c : Curve) (factor : Nat) (p : Point) : Point :=
  c.multipleBits (Number.bitLength factor) factor p

end Curve

/-! ### Points in files -/

/-- A point as a file has it: with both coordinates, or with the first one and whether the
second is odd. -/
inductive WrittenPoint where
  | full (x y : Nat)
  | compressed (x : Nat) (odd : Bool)
  deriving DecidableEq, Repr

namespace WrittenPoint

/-- Reads a point with coordinates of `size` octets. The first octet says in which of the
forms it is written; the two forms in between have both coordinates and tell besides
whether the second is odd. -/
def ofBytes? (size : Nat) : Bytes → Option WrittenPoint
  | [] => none
  | form :: rest =>
      let x := Bytes.toNat (rest.take size)
      let y := Bytes.toNat (rest.drop size)
      if form = 2 ∨ form = 3 then
        if rest.length = size then some (.compressed x (form = 3)) else none
      else if rest.length ≠ 2 * size then none
      else if form = 4 ∨ (form = 6 ∧ y % 2 = 0) ∨ (form = 7 ∧ y % 2 = 1) then some (.full x y)
      else none

/-- Whether there is such a point on a curve. -/
def isOn (c : Curve) : WrittenPoint → Bool
  | .full x y => c.contains x y
  | .compressed x odd =>
      x < c.modulus && Number.isSquare c.modulus (c.cubic x) && !(odd && c.cubic x = 0)

/-- Whether this is how a point may be written. -/
def writes : WrittenPoint → Point → Bool
  | _, .infinity => false
  | .full x y, .affine x' y' => x = x' && y = y'
  | .compressed x odd, .affine x' y' => x = x' && odd = (y' % 2 = 1)

end WrittenPoint

end SealedRpc
