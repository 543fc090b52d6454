import SealedRpc.Proofs.Key.Permutation

/-!
# Keys that are refused

The public operation is not done with every key. A key whose numbers belong together has an odd
modulus, so it is refused only for the lengths of its numbers; but there are such keys. They sign
and decrypt as any others, and nobody can check or undo what they sign.

## Main results

* `isRefused_iff`: which keys are refused, besides those with an even modulus.
* `isRefused_wide`, `valid_wide`: a key whose numbers belong together and that is refused.
-/

namespace SealedRpc.PrivateKey

/-- A key whose numbers belong together is refused for the lengths of its numbers only. -/
theorem Valid.isRefused_iff {key : PrivateKey} (h : key.Valid) : key.toPublic.isRefused = true ↔
    PublicKey.longestModulus < Number.bitLength key.toPublic.modulus ∨
      key.toPublic.modulus ≤ key.toPublic.exponent ∨
      (3072 < Number.bitLength key.toPublic.modulus ∧
        64 < Number.bitLength key.toPublic.exponent) := by
  have hodd := h.odd_modulus
  simp [PublicKey.isRefused, hodd, or_assoc]

/-- The public half of a key that is made from two factors. -/
theorem toPublic_of_ofFactors? {p q e : Nat} {key : PrivateKey} (h : ofFactors? p q e = some key) :
    key.toPublic = ⟨p * q, e⟩ := by
  simp only [ofFactors?, Option.bind_eq_bind, Option.bind_eq_some_iff, Option.pure_def,
    Option.some.injEq] at h
  obtain ⟨d, -, i, -, rfl⟩ := h
  rfl

/-! ### A key with a large modulus and a long exponent -/

/-- The larger factor of the modulus. -/
def wideP : Nat := 7 * 2 ^ 1804 + 1

/-- The smaller factor of the modulus. -/
def wideQ : Nat := 15 * 2 ^ 1518 + 1

/-- The public exponent, which has 65 bits. -/
def wideExponent : Nat := 2 ^ 64 + 1

/-- What there is to compute about the key: the orders that only primes allow, the inverse of the
exponent, and the lengths of the numbers. -/
theorem wide_computed :
    (wideP - 1 = [7].prod * 2 ^ 1804 ∧ 1 < wideP ∧ Number.powMod wideP 3 (wideP - 1) = 1 ∧
      ∀ r ∈ [2, 7], Number.powMod wideP 3 ((wideP - 1) / r) ≠ 1) ∧
    (wideQ - 1 = [3, 5].prod * 2 ^ 1518 ∧ 1 < wideQ ∧ Number.powMod wideQ 11 (wideQ - 1) = 1 ∧
      ∀ r ∈ [2, 3, 5], Number.powMod wideQ 11 ((wideQ - 1) / r) ≠ 1) ∧
    (wideP ≠ 2 ∧ wideQ ≠ 2 ∧ wideP ≠ wideQ) ∧
    (ofFactors? wideP wideQ wideExponent).isSome = true ∧
    (⟨wideP * wideQ, wideExponent⟩ : PublicKey).size = 417 ∧
    3072 < Number.bitLength (wideP * wideQ) ∧ 64 < Number.bitLength wideExponent := by
  decide +kernel

/-- The larger factor is a prime. -/
theorem prime_wideP : wideP.Prime := by
  obtain ⟨⟨hp, hlt, hone, hne⟩, -⟩ := wide_computed
  exact Number.prime_of_powMod 3 1804 [7] (by simp [Nat.prime_seven]) hp hlt hone hne

/-- The smaller factor is a prime. -/
theorem prime_wideQ : wideQ.Prime := by
  obtain ⟨-, ⟨hp, hlt, hone, hne⟩, -⟩ := wide_computed
  exact Number.prime_of_powMod 11 1518 [3, 5] (by simp [Nat.prime_three, Nat.prime_five]) hp hlt
    hone hne

/-- The exponent can be inverted. -/
theorem isSome_ofFactors?_wide : (ofFactors? wideP wideQ wideExponent).isSome = true := by
  obtain ⟨-, -, -, hsome, -⟩ := wide_computed
  exact hsome

/-- A key of 417 octets with a long exponent. -/
def wide : PrivateKey :=
  (ofFactors? wideP wideQ wideExponent).get isSome_ofFactors?_wide

/-- The key is made from its factors. -/
theorem ofFactors?_wide : ofFactors? wideP wideQ wideExponent = some wide :=
  (Option.some_get _).symm

/-- The numbers of that key belong together. -/
theorem valid_wide : wide.Valid := by
  obtain ⟨-, -, ⟨hp, hq, hne⟩, -⟩ := wide_computed
  exact valid_of_ofFactors? prime_wideP prime_wideQ hp hq hne ofFactors?_wide

/-- The modulus of that key takes 417 octets. -/
theorem size_wide : wide.toPublic.size = 417 := by
  obtain ⟨-, -, -, -, hsize, -⟩ := wide_computed
  rw [toPublic_of_ofFactors? ofFactors?_wide]
  exact hsize

/-- The public operation is refused for that key. -/
theorem isRefused_wide : wide.toPublic.isRefused = true := by
  obtain ⟨-, -, -, -, -, hmodulus, hexponent⟩ := wide_computed
  refine valid_wide.isRefused_iff.mpr (Or.inr (Or.inr ?_))
  rw [toPublic_of_ofFactors? ofFactors?_wide]
  exact ⟨hmodulus, hexponent⟩

end SealedRpc.PrivateKey
