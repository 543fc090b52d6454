import SealedRpc.Number.Modular

/-!
# Primes, and squares modulo a prime

Whether a number is taken for a prime. Two tests have to be passed, and no composite
number is known that passes both.

* Powers of small bases: `b ^ (n - 1)` is taken as an odd power that is squared again and
  again, and either that power is one or one of the squares is `n - 1`.
* Numbers `a + b√d` modulo `n`, where `d` is no square: raising `1 + √d` to the power `n`
  turns the sign of the root around and does nothing else.

## Main results

* `two_pow_mul_twosOf`: what two divides out of a number gives the number back.
-/

namespace SealedRpc.Number

/-! ### Powers of small bases -/

/-- How often two divides a number, up to `count` times, and what is left. -/
def twosOf : Nat → Nat → Nat × Nat
  | 0, n => (0, n)
  | count + 1, n =>
      if n % 2 = 0 ∧ n ≠ 0 then let (k, odd) := twosOf count (n / 2); (k + 1, odd) else (0, n)

/-- The twos and what is left of a number multiply to the number. -/
theorem two_pow_mul_twosOf (count n : Nat) :
    2 ^ (twosOf count n).1 * (twosOf count n).2 = n := by
  induction count generalizing n with
  | zero => simp [twosOf]
  | succ count ih =>
      rw [twosOf]
      split
      · rename_i h
        have := ih (n / 2)
        rw [Nat.pow_succ, Nat.mul_right_comm, this]
        omega
      · simp

/-- Squares `x` up to `count` times and says whether `n - 1` comes up. -/
def reachesMinusOne (n : Nat) : Nat → Nat → Bool
  | 0, _ => false
  | count + 1, x => x = n - 1 || reachesMinusOne n count (x * x % n)

/-- Whether the powers of a base are as they are modulo a prime. -/
def passes (n base : Nat) : Bool :=
  let (k, odd) := twosOf (bitLength n) (n - 1)
  let x := powMod n base odd
  base % n = 0 || x = 1 || reachesMinusOne n k x

/-- The bases with which a number is tested. -/
def witnesses : List Nat := [2, 3, 5, 7]

/-! ### Numbers with a root -/

/-- A number with a root, `rational + surd * √d`. -/
structure Surd where
  rational : Nat
  surd : Nat
  deriving DecidableEq, Repr

/-- The product of two numbers with the root of `d`, modulo `n`. -/
def Surd.mul (n d : Nat) (x y : Surd) : Surd :=
  ⟨(x.rational * y.rational + d * (x.surd * y.surd)) % n,
    (x.rational * y.surd + x.surd * y.rational) % n⟩

/-- The power of a number with the root of `d`, modulo `n`, for an exponent below
`2 ^ bits`. -/
def Surd.power (n d : Nat) : Nat → Surd → Nat → Surd
  | 0, _, _ => ⟨1 % n, 0⟩
  | bits + 1, x, exponent =>
      let rest := power n d bits (x.mul n d x) (exponent / 2)
      if exponent % 2 = 1 then x.mul n d rest else rest

/-- Whether a number is a square modulo an odd prime: its power with half of `p - 1` is
one, or it is zero. -/
def isSquare (p a : Nat) : Bool :=
  powMod p a ((p - 1) / 2) ≤ 1

/-- The first of `count` numbers from `d` on that is no square modulo `n`. The search ends
at a number that has a power as it cannot be modulo a prime. -/
def nonsquare? (n : Nat) : Nat → Nat → Option Nat
  | 0, _ => none
  | count + 1, d =>
      let power := powMod n d ((n - 1) / 2)
      if power = n - 1 then some d
      else if power = 1 then nonsquare? n count (d + 1)
      else none

/-- Whether the power `n` of `1 + √d` is `1 - √d` for the least `d` that is no square. The
search for it goes up to twice the square of the length in bits, farther than any prime is
known to need. -/
def conjugates (n : Nat) : Bool :=
  match nonsquare? n (2 * bitLength n ^ 2) 2 with
  | some d => Surd.power n d (bitLength n) ⟨1, 1⟩ n = ⟨1, n - 1⟩
  | none => false

/-- Whether a number is taken for a prime. -/
def isProbablePrime (n : Nat) : Bool :=
  n = 2 || (1 < n && witnesses.all (passes n) && conjugates n)

end SealedRpc.Number
