import SealedRpc.Number.Instances

/-!
# Arithmetic modulo a number

Powers by repeated squaring, inverses by the extended Euclidean algorithm, and the
length of a number in bits.

## Main results

* `powMod_eq`: `powMod m b e` is `b ^ e % m`.
-/

namespace SealedRpc.Number

/-- How many binary digits `n` has; zero has none. -/
def bitLength (n : Nat) : Nat :=
  if n = 0 then 0 else n.log2 + 1

/-- `base ^ exponent % modulus` for an exponent below `2 ^ bits`, one squaring a bit. -/
def powModBits (modulus : Nat) : Nat → Nat → Nat → Nat
  | 0, _, _ => 1 % modulus
  | bits + 1, base, exponent =>
      let rest := powModBits modulus bits (base * base % modulus) (exponent / 2)
      if exponent % 2 = 1 then base * rest % modulus else rest

/-- `base ^ exponent % modulus`. -/
def powMod (modulus base exponent : Nat) : Nat :=
  powModBits modulus (bitLength exponent) (base % modulus) exponent

/-- Squaring and multiplying by the bits of the exponent gives the power. -/
theorem powModBits_eq {modulus bits base exponent : Nat} (h : exponent < 2 ^ bits) :
    powModBits modulus bits base exponent = base ^ exponent % modulus := by
  induction bits generalizing base exponent with
  | zero =>
      have : exponent = 0 := by simpa using h
      simp [powModBits, this]
  | succ bits ih =>
      have hb : exponent / 2 < 2 ^ bits := by rw [Nat.pow_succ] at h; omega
      have hsq : ∀ k, (base * base % modulus) ^ k % modulus = base ^ (2 * k) % modulus := by
        intro k
        rw [← Nat.pow_mod, ← Nat.pow_two, ← Nat.pow_mul]
      simp only [powModBits, ih hb, hsq]
      split
      · rename_i hodd
        rw [Nat.mul_mod_mod, ← Nat.pow_succ']
        congr 2
        omega
      · congr 2
        omega

/-- A number is below the power of two with its length. -/
theorem lt_two_pow_bitLength (n : Nat) : n < 2 ^ bitLength n := by
  unfold bitLength
  split
  · omega
  · exact Nat.lt_log2_self

/-- The modular power is the remainder of the power. -/
theorem powMod_eq (modulus base exponent : Nat) :
    powMod modulus base exponent = base ^ exponent % modulus := by
  rw [powMod, powModBits_eq (lt_two_pow_bitLength _), ← Nat.pow_mod]

/-- Runs Euclid's algorithm on two remainders `r` and `r'` with `r ≡ s * a` and
`r' ≡ s' * a` modulo the number at hand, and returns the last nonzero remainder with its
coefficient. -/
def euclid : Nat → Nat → Int → Nat → Int → Nat × Int
  | 0, r, s, _, _ => (r, s)
  | steps + 1, r, s, r', s' =>
      if r' = 0 then (r, s) else euclid steps r' s' (r % r') (s - s' * (r / r' : Nat))

/-- The greatest common divisor of `modulus` and `a`, and the coefficient of `a` in it
modulo `modulus`. -/
def divisorAndCoefficient (modulus a : Nat) : Nat × Nat :=
  let (g, s) := euclid (modulus + 1) modulus 0 (a % modulus) 1
  (g, (s % (modulus : Int)).toNat)

/-- The number that `a` times is one modulo `modulus`, provided the two are coprime. -/
def inverse (modulus a : Nat) : Nat :=
  (divisorAndCoefficient modulus a).2

/-- The inverse of `a` modulo `modulus`, if the two are coprime. -/
def inverse? (modulus a : Nat) : Option Nat :=
  let (g, s) := divisorAndCoefficient modulus a
  if g = 1 then some s else none

end SealedRpc.Number
