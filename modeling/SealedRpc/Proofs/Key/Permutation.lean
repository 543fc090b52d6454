import Mathlib.FieldTheory.Finite.Basic
import SealedRpc.Key.PrivateOperation
import SealedRpc.Proofs.Bytes
import SealedRpc.Proofs.Number.Modular

/-!
# The private and the public operation

For a private key whose numbers belong together, the two operations are permutations of the
numbers below the modulus, each the inverse of the other. The private one does not compute
the power directly: it blinds its number, takes two small powers and puts them together.
All of that comes to the plain power, whatever the factor was.

Nothing here asks a number to be coprime to the modulus: modulo one factor, a multiple of
that factor has only powers that are zero.

## Main results

* `Valid.recombine_eq`: two small powers put together are the power.
* `Valid.blindedPower_eq`: blinding does not show in the result.
* `Valid.apply_pow`, `Valid.pow_apply`: each operation undoes the other.
* `pow_le_modulus`, `modulus_lt_pow`: the modulus between two powers of 256.
* `lt_of_operate?`: what the private operation gives fits into the octets of a block.
* `valid_of_ofFactors?`: a key that is made from two odd primes is valid.
* `operate?_ofNumbers`: which numbers the private operation refuses, and what it makes of the
  others.
-/

namespace SealedRpc

/-! ### The length of the modulus -/

namespace PublicKey

/-- A modulus is below the power of its length. -/
theorem modulus_lt_pow (key : PublicKey) : key.modulus < 256 ^ key.size := by
  have h := Number.lt_two_pow_bitLength key.modulus
  have hle : Number.bitLength key.modulus ≤ 8 * key.size := by
    rw [size]
    omega
  calc key.modulus < 2 ^ Number.bitLength key.modulus := h
    _ ≤ 2 ^ (8 * key.size) := Nat.pow_le_pow_right (by decide) hle
    _ = 256 ^ key.size := by rw [Nat.pow_mul]

/-- A modulus needs all the octets of its length. -/
theorem pow_le_modulus {key : PublicKey} (h : 0 < key.modulus) :
    256 ^ (key.size - 1) ≤ key.modulus := by
  have hne : key.modulus ≠ 0 := by omega
  have hle : 8 * (key.size - 1) ≤ key.modulus.log2 := by
    rw [size, Number.bitLength, if_neg hne]
    omega
  calc 256 ^ (key.size - 1) = 2 ^ (8 * (key.size - 1)) := by rw [Nat.pow_mul]
    _ ≤ 2 ^ key.modulus.log2 := Nat.pow_le_pow_right (by decide) hle
    _ ≤ key.modulus := Nat.log2_self_le hne

/-- A block that begins with a zero is below the modulus. -/
theorem toNat_lt_modulus {key : PublicKey} (h : 0 < key.modulus) {rest : Bytes}
    (hlength : (0 :: rest).length = key.size) : Bytes.toNat (0 :: rest) < key.modulus := by
  have hrest : rest.length = key.size - 1 := by
    rw [List.length_cons] at hlength
    omega
  calc Bytes.toNat (0 :: rest) = Bytes.toNat rest := Bytes.toNat_zero_cons rest
    _ < 256 ^ rest.length := Bytes.toNat_lt rest
    _ = 256 ^ (key.size - 1) := by rw [hrest]
    _ ≤ key.modulus := pow_le_modulus h

/-- A number below the modulus is read back from the octets of a block. -/
theorem toNat_ofNat_size {key : PublicKey} {value : Nat} (h : value < key.modulus) :
    (Bytes.ofNat key.size value).toNat = value :=
  Bytes.toNat_ofNat (h.trans key.modulus_lt_pow)

/-- The public operation is a power. -/
theorem apply_eq (key : PublicKey) (value : Nat) :
    key.apply value = value ^ key.exponent % key.modulus :=
  Number.powMod_eq _ _ _

/-- The public operation stays below the modulus. -/
theorem apply_lt {key : PublicKey} (h : 0 < key.modulus) (value : Nat) :
    key.apply value < key.modulus := by
  rw [apply_eq]
  exact Nat.mod_lt _ h

end PublicKey

namespace PrivateKey

/-! ### Bounds -/

/-- What the private operation gives is below the modulus, whatever the other numbers of the key
are. -/
theorem operate?_lt {key : PrivateKey} (hpos : 0 < key.toPublic.modulus) {factor : Nat}
    {value : Int} {result : Nat} (h : key.operate? factor value = some result) :
    result < key.toPublic.modulus := by
  rw [operate?] at h
  split at h
  · obtain rfl := Option.some.inj h
    exact Nat.mod_lt _ hpos
  · cases h

/-- It fits into as many octets as the modulus has. -/
theorem lt_of_operate? {key : PrivateKey} (hpos : 0 < key.toPublic.modulus) {factor : Nat}
    {value : Int} {result : Nat} (h : key.operate? factor value = some result) :
    result < 256 ^ key.toPublic.size :=
  (operate?_lt hpos h).trans key.toPublic.modulus_lt_pow

/-! ### Keys whose numbers belong together -/

/-- A private key whose numbers belong together: the modulus is the product of two odd
primes, the exponents undo each other, and what the Chinese remainder theorem needs is
right. -/
structure Valid (key : PrivateKey) : Prop where
  prime_p : key.p.Prime
  prime_q : key.q.Prime
  p_ne_two : key.p ≠ 2
  q_ne_two : key.q ≠ 2
  p_ne_q : key.p ≠ key.q
  modulus_eq : key.toPublic.modulus = key.p * key.q
  exponent_mul : key.toPublic.exponent * key.exponent ≡ 1 [MOD Nat.lcm (key.p - 1) (key.q - 1)]
  exponentP_modEq : key.exponentP ≡ key.exponent [MOD key.p - 1]
  exponentQ_modEq : key.exponentQ ≡ key.exponent [MOD key.q - 1]
  inverseQ_mul : key.inverseQ * key.q ≡ 1 [MOD key.p]

/-- Exponents that agree modulo `p - 1` give the same powers modulo a prime `p`. -/
theorem pow_modEq_of_exponents {p x y : Nat} (hp : p.Prime) (hx : x ≠ 0) (hy : y ≠ 0)
    (h : x ≡ y [MOD p - 1]) (a : Nat) : a ^ x ≡ a ^ y [MOD p] := by
  have := Fact.mk hp
  rw [← ZMod.natCast_eq_natCast_iff]
  push_cast
  by_cases ha : (a : ZMod p) = 0
  · rw [ha, zero_pow hx, zero_pow hy]
  · have horder : orderOf (a : ZMod p) ∣ p - 1 :=
      orderOf_dvd_of_pow_eq_one (ZMod.pow_card_sub_one_eq_one ha)
    rw [← pow_mod_orderOf (a : ZMod p) x, ← pow_mod_orderOf (a : ZMod p) y, h.of_dvd horder]

/-- An exponent that is invertible modulo `p - 1` is not zero. -/
theorem ne_zero_of_mul_modEq {p e d x : Nat} (hp : p.Prime) (hp2 : p ≠ 2)
    (hed : e * d ≡ 1 [MOD p - 1]) (hx : x ≡ d [MOD p - 1]) : x ≠ 0 := by
  rintro rfl
  have hle := hp.two_le
  have hone : 0 ≡ 1 [MOD p - 1] :=
    calc 0 = e * 0 := rfl
      _ ≡ e * d [MOD p - 1] := hx.mul_left e
      _ ≡ 1 [MOD p - 1] := hed
  have hdvd := (Nat.modEq_zero_iff_dvd.mp hone.symm)
  have := Nat.le_of_dvd (by decide) hdvd
  omega

namespace Valid

variable {key : PrivateKey}

/-- The two factors are coprime. -/
theorem coprime (h : key.Valid) : Nat.Coprime key.p key.q :=
  (Nat.coprime_primes h.prime_p h.prime_q).mpr h.p_ne_q

/-- The modulus is odd. -/
theorem odd_modulus (h : key.Valid) : key.toPublic.modulus % 2 = 1 := by
  rw [h.modulus_eq, ← Nat.odd_iff]
  exact (h.prime_p.odd_of_ne_two h.p_ne_two).mul (h.prime_q.odd_of_ne_two h.q_ne_two)

/-- There is a modulus. -/
theorem modulus_pos (h : key.Valid) : 0 < key.toPublic.modulus := by
  have := h.odd_modulus
  omega

/-- A congruence modulo the modulus is one modulo each factor. -/
theorem modEq_iff (h : key.Valid) {a b : Nat} :
    a ≡ b [MOD key.toPublic.modulus] ↔ a ≡ b [MOD key.p] ∧ a ≡ b [MOD key.q] := by
  rw [h.modulus_eq]
  exact (Nat.modEq_and_modEq_iff_modEq_mul h.coprime).symm

/-- The exponents undo each other modulo `p - 1`. -/
theorem exponent_mul_p (h : key.Valid) :
    key.toPublic.exponent * key.exponent ≡ 1 [MOD key.p - 1] :=
  h.exponent_mul.of_dvd (Nat.dvd_lcm_left ..)

/-- The exponents undo each other modulo `q - 1`. -/
theorem exponent_mul_q (h : key.Valid) :
    key.toPublic.exponent * key.exponent ≡ 1 [MOD key.q - 1] :=
  h.exponent_mul.of_dvd (Nat.dvd_lcm_right ..)

/-- A number to the power of both exponents is the number. -/
theorem pow_exponents (h : key.Valid) (a : Nat) :
    a ^ (key.toPublic.exponent * key.exponent) ≡ a [MOD key.toPublic.modulus] := by
  have hp := ne_zero_of_mul_modEq h.prime_p h.p_ne_two h.exponent_mul_p rfl
  have he : key.toPublic.exponent ≠ 0 := by
    have hcomm := h.exponent_mul_p
    rw [Nat.mul_comm] at hcomm
    exact ne_zero_of_mul_modEq h.prime_p h.p_ne_two hcomm rfl
  have hne : key.toPublic.exponent * key.exponent ≠ 0 := Nat.mul_ne_zero he hp
  have hmodp := pow_modEq_of_exponents h.prime_p hne one_ne_zero h.exponent_mul_p a
  have hmodq := pow_modEq_of_exponents h.prime_q hne one_ne_zero h.exponent_mul_q a
  rw [pow_one] at hmodp hmodq
  exact h.modEq_iff.mpr ⟨hmodp, hmodq⟩

/-! ### The Chinese remainder theorem -/

/-- The small power modulo `p` is the power modulo `p`. -/
theorem powMod_exponentP (h : key.Valid) (value : Nat) :
    Number.powMod key.p value key.exponentP ≡ value ^ key.exponent [MOD key.p] := by
  have hx := ne_zero_of_mul_modEq h.prime_p h.p_ne_two h.exponent_mul_p h.exponentP_modEq
  have hd := ne_zero_of_mul_modEq h.prime_p h.p_ne_two h.exponent_mul_p rfl
  rw [Number.powMod_eq]
  exact (Nat.mod_modEq _ _).trans
    (pow_modEq_of_exponents h.prime_p hx hd h.exponentP_modEq value)

/-- The small power modulo `q` is the power modulo `q`. -/
theorem powMod_exponentQ (h : key.Valid) (value : Nat) :
    Number.powMod key.q value key.exponentQ ≡ value ^ key.exponent [MOD key.q] := by
  have hx := ne_zero_of_mul_modEq h.prime_q h.q_ne_two h.exponent_mul_q h.exponentQ_modEq
  have hd := ne_zero_of_mul_modEq h.prime_q h.q_ne_two h.exponent_mul_q rfl
  rw [Number.powMod_eq]
  exact (Nat.mod_modEq _ _).trans
    (pow_modEq_of_exponents h.prime_q hx hd h.exponentQ_modEq value)

/-- What is added to the power modulo `q` makes up the difference modulo `p`. -/
theorem recombine_modEq_p (h : key.Valid) (value : Nat) :
    key.recombine value ≡ Number.powMod key.p value key.exponentP [MOD key.p] := by
  have hne : (key.p : Int) ≠ 0 := by exact_mod_cast h.prime_p.ne_zero
  set m1 := Number.powMod key.p value key.exponentP with hm1
  set m2 := Number.powMod key.q value key.exponentQ with hm2
  have hinv : (key.inverseQ : Int) * key.q ≡ 1 [ZMOD key.p] := by
    exact_mod_cast Int.natCast_modEq_iff.mpr h.inverseQ_mul
  rw [← Int.natCast_modEq_iff, recombine]
  simp only [← hm1, ← hm2]
  push_cast
  rw [Int.toNat_of_nonneg (Int.emod_nonneg _ hne)]
  calc (m2 : Int) + (key.inverseQ : Int) * ((m1 : Int) - m2) % key.p * key.q
      ≡ m2 + (key.inverseQ : Int) * ((m1 : Int) - m2) * key.q [ZMOD key.p] :=
        ((Int.mod_modEq _ _).mul_right _).add_left _
    _ = m2 + (key.inverseQ : Int) * key.q * ((m1 : Int) - m2) := by ring
    _ ≡ m2 + 1 * ((m1 : Int) - m2) [ZMOD key.p] := (hinv.mul_right _).add_left _
    _ = m1 := by ring

/-- Multiples of `q` do not show modulo `q`. -/
theorem recombine_modEq_q (value : Nat) :
    key.recombine value ≡ Number.powMod key.q value key.exponentQ [MOD key.q] := by
  rw [recombine]
  exact Nat.add_mul_mod_self_right _ _ _

/-- Two small powers put together stay below the modulus. -/
theorem recombine_lt (h : key.Valid) (value : Nat) :
    key.recombine value < key.toPublic.modulus := by
  have hp := h.prime_p.pos
  have hm2 : Number.powMod key.q value key.exponentQ < key.q := by
    rw [Number.powMod_eq]
    exact Nat.mod_lt _ h.prime_q.pos
  rw [recombine, h.modulus_eq]
  set m1 := Number.powMod key.p value key.exponentP
  set m2 := Number.powMod key.q value key.exponentQ
  have hcoeff : ((key.inverseQ : Int) * ((m1 : Int) - m2) % key.p).toNat + 1 ≤ key.p := by
    have hpos : (0 : Int) < key.p := by exact_mod_cast hp
    have hnonneg := Int.emod_nonneg ((key.inverseQ : Int) * ((m1 : Int) - m2)) hpos.ne'
    have hlt := Int.emod_lt_of_pos ((key.inverseQ : Int) * ((m1 : Int) - m2)) hpos
    omega
  calc m2 + ((key.inverseQ : Int) * ((m1 : Int) - m2) % key.p).toNat * key.q
      < key.q + ((key.inverseQ : Int) * ((m1 : Int) - m2) % key.p).toNat * key.q :=
        Nat.add_lt_add_right hm2 _
    _ = (((key.inverseQ : Int) * ((m1 : Int) - m2) % key.p).toNat + 1) * key.q := by ring
    _ ≤ key.p * key.q := Nat.mul_le_mul_right _ hcoeff

/-- Two small powers put together are the power modulo the modulus. -/
theorem recombine_eq (h : key.Valid) (value : Nat) :
    key.recombine value = value ^ key.exponent % key.toPublic.modulus := by
  have hmod : key.recombine value ≡ value ^ key.exponent [MOD key.toPublic.modulus] :=
    h.modEq_iff.mpr ⟨(h.recombine_modEq_p value).trans (h.powMod_exponentP value),
      (recombine_modEq_q value).trans (h.powMod_exponentQ value)⟩
  rw [← hmod, Nat.mod_eq_of_lt (h.recombine_lt value)]

/-! ### Blinding -/

/-- The blinding factor is divided out again. -/
theorem blindedPower_eq (h : key.Valid) {factor : Nat}
    (hfactor : Nat.Coprime factor key.toPublic.modulus) (value : Nat) :
    key.blindedPower factor value = value ^ key.exponent % key.toPublic.modulus := by
  have hinv := Number.inverse_mul_modEq h.modulus_pos hfactor
  rw [blindedPower]
  simp only [h.recombine_eq, Number.powMod_eq]
  set n := key.toPublic.modulus
  set e := key.toPublic.exponent
  set i := Number.inverse n factor
  have hfactors : factor ^ (e * key.exponent) * i ≡ 1 [MOD n] :=
    calc factor ^ (e * key.exponent) * i ≡ factor * i [MOD n] := (h.pow_exponents _).mul_right _
      _ = i * factor := Nat.mul_comm ..
      _ ≡ 1 [MOD n] := hinv
  calc (value * (factor ^ e % n) % n) ^ key.exponent % n * i
      ≡ (value * (factor ^ e % n)) ^ key.exponent * i [MOD n] :=
        ((Nat.mod_modEq _ _).trans ((Nat.mod_modEq _ _).pow _)).mul_right _
    _ ≡ (value * factor ^ e) ^ key.exponent * i [MOD n] :=
        (((Nat.mod_modEq _ _).mul_left _).pow _).mul_right _
    _ = value ^ key.exponent * (factor ^ (e * key.exponent) * i) := by
        rw [mul_pow, ← pow_mul, mul_assoc]
    _ ≡ value ^ key.exponent * 1 [MOD n] := hfactors.mul_left _
    _ = value ^ key.exponent := Nat.mul_one _

/-- The private operation on a number below the modulus is the plain power. -/
theorem operate?_eq (h : key.Valid) {factor value : Nat}
    (hfactor : Nat.Coprime factor key.toPublic.modulus) (hvalue : value < key.toPublic.modulus) :
    key.operate? factor value = some (value ^ key.exponent % key.toPublic.modulus) := by
  rw [operate?, if_pos ⟨by omega, by omega⟩, Int.toNat_natCast, h.blindedPower_eq hfactor]

/-! ### Permutations -/

/-- The public operation undoes the private one. -/
theorem apply_pow (h : key.Valid) {value : Nat} (hvalue : value < key.toPublic.modulus) :
    key.toPublic.apply (value ^ key.exponent % key.toPublic.modulus) = value := by
  rw [PublicKey.apply_eq, ← Nat.pow_mod, ← pow_mul, Nat.mul_comm, h.pow_exponents,
    Nat.mod_eq_of_lt hvalue]

/-- The private operation undoes the public one. -/
theorem pow_apply (h : key.Valid) {value : Nat} (hvalue : value < key.toPublic.modulus) :
    key.toPublic.apply value ^ key.exponent % key.toPublic.modulus = value := by
  rw [PublicKey.apply_eq, ← Nat.pow_mod, ← pow_mul, h.pow_exponents, Nat.mod_eq_of_lt hvalue]

end Valid

/-! ### Keys from numbers -/

/-- The key with the factors `p` and `q`, the exponents `e` and `d`, and an inverse `i` of `q`. -/
def ofNumbers (p q e d i : Nat) : PrivateKey :=
  ⟨⟨p * q, e⟩, d, p, q, d % (p - 1), d % (q - 1), i⟩

/-- The numbers of such a key belong together if the factors are two odd primes and the exponents
undo each other. -/
theorem valid_ofNumbers {p q e d i : Nat} (hp : p.Prime) (hq : q.Prime) (hp2 : p ≠ 2)
    (hq2 : q ≠ 2) (hpq : p ≠ q) (hed : e * d ≡ 1 [MOD (p - 1) * (q - 1)])
    (hi : i * q ≡ 1 [MOD p]) : (ofNumbers p q e d i).Valid := by
  have hlcm : Nat.lcm (p - 1) (q - 1) ∣ (p - 1) * (q - 1) := Nat.lcm_dvd_mul _ _
  exact ⟨hp, hq, hp2, hq2, hpq, rfl, hed.of_dvd hlcm, Nat.mod_modEq _ _, Nat.mod_modEq _ _, hi⟩

/-- A key that is made from two odd primes is valid. -/
theorem valid_of_ofFactors? {p q e : Nat} {key : PrivateKey} (hp : p.Prime) (hq : q.Prime)
    (hp2 : p ≠ 2) (hq2 : q ≠ 2) (hpq : p ≠ q) (h : ofFactors? p q e = some key) :
    key.Valid := by
  have hp1 : 0 < p - 1 := Nat.sub_pos_of_lt hp.one_lt
  have hq1 : 0 < q - 1 := Nat.sub_pos_of_lt hq.one_lt
  simp only [ofFactors?, Option.bind_eq_bind, Option.bind_eq_some_iff, Option.pure_def,
    Option.some.injEq] at h
  obtain ⟨d, hd, i, hi, rfl⟩ := h
  have hmul := Number.inverse?_eq_some (Nat.mul_pos hp1 hq1) hd
  rw [Nat.mul_comm d e] at hmul
  exact valid_ofNumbers hp hq hp2 hq2 hpq hmul (Number.inverse?_eq_some hp.pos hi)

/-- A key of fourteen octets. -/
def sample : PrivateKey where
  toPublic := ⟨47536897508558782963994255687681, 65537⟩
  exponent := 37474919660339658529720141545473
  p := 180143985094819841
  q := 263882790666241
  exponentP := 35747326337155073
  exponentQ := 123149597212673
  inverseQ := 85182999308895251

/-- The numbers of that key belong together. -/
theorem valid_sample : sample.Valid := by
  have hp : Nat.Prime 180143985094819841 :=
    Number.prime_of_powMod 6 55 [5] (by simp [Nat.prime_five])
      (by decide) (by decide) (by decide +kernel) (by decide +kernel)
  have hq : Nat.Prime 263882790666241 :=
    Number.prime_of_powMod 7 44 [3, 5]
      (by simp [Nat.prime_three, Nat.prime_five]) (by decide) (by decide) (by decide +kernel)
      (by decide +kernel)
  exact valid_of_ofFactors? (e := 65537) hp hq (by decide) (by decide) (by decide)
    (by decide +kernel)

/-- Another key of fourteen octets. -/
def secondSample : PrivateKey where
  toPublic := ⟨33275828255991033892712457699329, 65537⟩
  exponent := 13706470906060357251656956444673
  p := 7881299347898369
  q := 4222124650659841
  exponentP := 6473928759246849
  exponentQ := 1970329131876353
  inverseQ := 4850030367937460

/-- The numbers of that key belong together. -/
theorem valid_secondSample : secondSample.Valid := by
  have hp : Nat.Prime 7881299347898369 :=
    Number.prime_of_powMod 6 50 [7] (by simp [Nat.prime_seven])
      (by decide) (by decide) (by decide +kernel) (by decide +kernel)
  have hq : Nat.Prime 4222124650659841 :=
    Number.prime_of_powMod 19 48 [3, 5] (by simp [Nat.prime_three, Nat.prime_five])
      (by decide) (by decide) (by decide +kernel) (by decide +kernel)
  exact valid_of_ofFactors? (e := 65537) hp hq (by decide) (by decide) (by decide)
    (by decide +kernel)

/-! ### Exponentiation -/

/-- **Blinded exponentiation is exponentiation.** Let the factors be two odd primes, let the
exponents undo each other, and let the blinding factor be coprime to the modulus. Then the private
operation refuses exactly the numbers outside the modulus. Of any other it gives the plain power,
in which the blinding factor does not show; that is a number below the modulus again, and the
public exponent leads back from it. -/
theorem operate?_ofNumbers {p q e d i : Nat} (hp : p.Prime) (hq : q.Prime) (hp2 : p ≠ 2)
    (hq2 : q ≠ 2) (hpq : p ≠ q) (hed : e * d ≡ 1 [MOD (p - 1) * (q - 1)])
    (hi : i * q ≡ 1 [MOD p]) {factor : Nat} (hfactor : Nat.Coprime factor (p * q)) (value : Int) :
    ((ofNumbers p q e d i).operate? factor value = none ↔
      ¬ (0 ≤ value ∧ value < (p * q : Nat))) ∧
    (0 ≤ value ∧ value < (p * q : Nat) →
      ∃ s : Nat, (ofNumbers p q e d i).operate? factor value = some s ∧
        (s : Int) = value ^ d % (p * q : Nat) ∧ s < p * q ∧
        (s : Int) ^ e % (p * q : Nat) = value) := by
  have hvalid := valid_ofNumbers hp hq hp2 hq2 hpq hed hi
  constructor
  · rw [not_and_or, not_le, not_lt]
    exact operate?_eq_none_iff
  · rintro ⟨hnonneg, hlt⟩
    obtain ⟨v, rfl⟩ := Int.eq_ofNat_of_zero_le hnonneg
    have hv : v < p * q := Int.ofNat_lt.mp hlt
    have hback : (v ^ d % (p * q)) ^ e % (p * q) = v := by
      have happly := hvalid.apply_pow hv
      rwa [PublicKey.apply_eq] at happly
    refine ⟨v ^ d % (p * q), hvalid.operate?_eq hfactor hv, by push_cast; rfl, ?_, ?_⟩
    · exact Nat.mod_lt _ (Nat.mul_pos hp.pos hq.pos)
    · exact_mod_cast hback

/-- A multiple of the larger factor, which is not coprime to the modulus, under the key of
fourteen octets. -/
theorem operate?_ofNumbers_sample :
    Nat.Prime 180143985094819841 ∧ Nat.Prime 263882790666241 ∧
    65537 * 37474919660339658529720141545473
      ≡ 1 [MOD (180143985094819841 - 1) * (263882790666241 - 1)] ∧
    85182999308895251 * 263882790666241 ≡ 1 [MOD 180143985094819841] ∧
    Nat.Coprime 2 (180143985094819841 * 263882790666241) ∧
    ∃ s : Nat, sample.operate? 2 (3 * 180143985094819841) = some s ∧
      (s : Int) ^ 65537 % (180143985094819841 * 263882790666241 : Nat)
        = 3 * 180143985094819841 := by
  have hp : Nat.Prime 180143985094819841 := valid_sample.prime_p
  have hq : Nat.Prime 263882790666241 := valid_sample.prime_q
  have hed : 65537 * 37474919660339658529720141545473
      ≡ 1 [MOD (180143985094819841 - 1) * (263882790666241 - 1)] := by decide +kernel
  have hi : 85182999308895251 * 263882790666241 ≡ 1 [MOD 180143985094819841] := by decide +kernel
  have hfactor : Nat.Coprime 2 (180143985094819841 * 263882790666241) := by decide
  obtain ⟨s, hs, -, -, hback⟩ := (operate?_ofNumbers hp hq (by decide) (by decide) (by decide) hed
    hi hfactor (3 * 180143985094819841)).2 (by decide)
  exact ⟨hp, hq, hed, hi, hfactor, s, hs, hback⟩

end PrivateKey

end SealedRpc
