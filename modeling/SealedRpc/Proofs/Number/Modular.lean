import Mathlib.Data.Int.GCD
import Mathlib.Data.Int.ModEq
import Mathlib.NumberTheory.LucasPrimality
import SealedRpc.Number.Modular

/-!
# Inverses modulo a number, and primes

Euclid's algorithm keeps both of its remainders as multiples of the number that is to be
inverted, up to the modulus. When it ends, the last remainder is the greatest common
divisor, so for coprime numbers its coefficient is an inverse.

A number is certified as a prime by powers of one base: the one that must be one, and those
that must not be, one for each prime factor of the exponent.

## Main results

* `euclid_fst`, `euclid_snd`: what Euclid's algorithm ends with.
* `inverse_mul_modEq`: the inverse of a coprime number is one.
* `inverse?_eq_some`: inverses that are given are inverses.
* `prime_of_powMod`: powers that certify a prime.
-/

namespace SealedRpc.Number

/-! ### Euclid's algorithm -/

/-- With steps enough, the algorithm ends with the greatest common divisor. -/
theorem euclid_fst {steps r r' : Nat} (h : r' < steps) (s s' : Int) :
    (euclid steps r s r' s').1 = Nat.gcd r' r := by
  induction steps generalizing r r' s s' with
  | zero => omega
  | succ steps ih =>
      rw [euclid]
      split
      · rename_i hzero
        rw [hzero, Nat.gcd_zero_left]
      · rename_i hpos
        have hlt : r % r' < r' := Nat.mod_lt _ (by omega)
        rw [ih (by omega), ← Nat.gcd_rec]

/-- What the algorithm ends with is still a multiple of `a`, by the coefficient beside it. -/
theorem euclid_snd {n a : Int} {steps r r' : Nat} {s s' : Int} (hr : (r : Int) ≡ s * a [ZMOD n])
    (hr' : (r' : Int) ≡ s' * a [ZMOD n]) :
    ((euclid steps r s r' s').1 : Int) ≡ (euclid steps r s r' s').2 * a [ZMOD n] := by
  induction steps generalizing r r' s s' with
  | zero => exact hr
  | succ steps ih =>
      rw [euclid]
      split
      · exact hr
      · refine ih hr' ?_
        have hmod : ((r % r' : Nat) : Int) = r - r' * (r / r' : Nat) := by
          rw [Int.natCast_mod, Int.emod_def, Int.natCast_div]
        rw [hmod, show (s - s' * (r / r' : Nat)) * a = s * a - s' * a * (r / r' : Nat) by
          rw [Int.sub_mul, Int.mul_right_comm]]
        exact hr.sub (hr'.mul_right _)

/-! ### Inverses -/

/-- The divisor that is found is the greatest common one. -/
theorem divisorAndCoefficient_fst {modulus : Nat} (h : 0 < modulus) (a : Nat) :
    (divisorAndCoefficient modulus a).1 = Nat.gcd modulus a := by
  have hlt : a % modulus < modulus + 1 := Nat.lt_succ_of_lt (Nat.mod_lt _ h)
  change (euclid (modulus + 1) modulus 0 (a % modulus) 1).1 = _
  rw [euclid_fst hlt, ← Nat.gcd_rec]

/-- The coefficient that is found gives the divisor. -/
theorem divisorAndCoefficient_snd {modulus : Nat} (h : 0 < modulus) (a : Nat) :
    (divisorAndCoefficient modulus a).2 * a ≡ Nat.gcd modulus a [MOD modulus] := by
  have hstart : (modulus : Int) ≡ 0 * a [ZMOD modulus] := by simp [Int.ModEq]
  have hnext : ((a % modulus : Nat) : Int) ≡ 1 * a [ZMOD modulus] := by
    rw [Int.one_mul, Int.natCast_mod]
    exact Int.mod_modEq _ _
  have hend : ((euclid (modulus + 1) modulus 0 (a % modulus) 1).1 : Int)
      ≡ (euclid (modulus + 1) modulus 0 (a % modulus) 1).2 * a [ZMOD modulus] :=
    euclid_snd hstart hnext
  have hgcd := divisorAndCoefficient_fst h a
  have hne : (modulus : Int) ≠ 0 := by omega
  change (euclid (modulus + 1) modulus 0 (a % modulus) 1).1 = _ at hgcd
  change ((euclid (modulus + 1) modulus 0 (a % modulus) 1).2 % (modulus : Int)).toNat * a ≡ _
    [MOD modulus]
  rw [hgcd] at hend
  rw [← Int.natCast_modEq_iff]
  push_cast
  rw [Int.toNat_of_nonneg (Int.emod_nonneg _ hne)]
  exact ((Int.mod_modEq _ _).mul_right _).trans hend.symm

/-- A coprime number times its inverse is one. -/
theorem inverse_mul_modEq {modulus a : Nat} (h : 0 < modulus) (hcop : Nat.Coprime a modulus) :
    inverse modulus a * a ≡ 1 [MOD modulus] := by
  have hmul := divisorAndCoefficient_snd h a
  rwa [Nat.gcd_comm, hcop] at hmul

/-- An inverse that is given is one. -/
theorem inverse?_eq_some {modulus a b : Nat} (h : 0 < modulus)
    (hb : inverse? modulus a = some b) : b * a ≡ 1 [MOD modulus] := by
  have hmul := divisorAndCoefficient_snd h a
  have hgcd := divisorAndCoefficient_fst h a
  rw [inverse?] at hb
  simp only [Option.ite_none_right_eq_some, Option.some.injEq] at hb
  obtain ⟨hone, rfl⟩ := hb
  rwa [← hgcd, hone] at hmul

/-! ### Primes -/

/-- A modular power that is one, as an equation of residues. -/
theorem powMod_eq_one_iff {p a e : Nat} (hp : 1 < p) :
    powMod p a e = 1 ↔ (a : ZMod p) ^ e = 1 := by
  have hcast := ZMod.natCast_eq_natCast_iff' (a ^ e) 1 p
  rw [Nat.cast_pow, Nat.cast_one, Nat.mod_eq_of_lt hp] at hcast
  rw [powMod_eq, hcast]

/-- A number is a prime if a base has the order that only a prime allows. The number less
one is a power of two times a product of odd primes. -/
theorem prime_of_powMod {p : Nat} (a twos : Nat) (odds : List Nat) (hodds : ∀ r ∈ odds, r.Prime)
    (hp : p - 1 = odds.prod * 2 ^ twos) (hlt : 1 < p) (hone : powMod p a (p - 1) = 1)
    (hne : ∀ r ∈ 2 :: odds, powMod p a ((p - 1) / r) ≠ 1) : p.Prime := by
  refine lucas_primality p a ((powMod_eq_one_iff hlt).mp hone) ?_
  intro r hr hdvd hpow
  refine hne r ?_ ((powMod_eq_one_iff hlt).mpr hpow)
  rw [hp, hr.dvd_mul, hr.prime.dvd_prod_iff] at hdvd
  rcases hdvd with ⟨s, hs, hrs⟩ | htwo
  · obtain rfl := (Nat.prime_dvd_prime_iff_eq hr (hodds s hs)).mp hrs
    exact List.mem_cons_of_mem _ hs
  · obtain rfl := (Nat.prime_dvd_prime_iff_eq hr Nat.prime_two).mp (hr.dvd_of_dvd_pow htwo)
    exact List.mem_cons_self ..

end SealedRpc.Number
