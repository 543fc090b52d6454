import SealedRpc.Key.Basic

/-!
# The private operation

Raising a number to the private exponent, by way of the two factors of the modulus. The
number is first multiplied by a power of a random factor, which is divided out again at
the end, so that the time it takes says nothing about the number.

## Main results

* `operate?_eq_none_iff`: the operation refuses exactly the numbers outside the modulus.
-/

namespace SealedRpc.PrivateKey

/-- Puts the powers modulo the two factors together. -/
def recombine (key : PrivateKey) (value : Nat) : Nat :=
  let m1 := Number.powMod key.p value key.exponentP
  let m2 := Number.powMod key.q value key.exponentQ
  let h := ((key.inverseQ : Int) * ((m1 : Int) - (m2 : Int))) % (key.p : Int)
  m2 + h.toNat * key.q

/-- The private operation on a number below the modulus, blinded by `factor`. -/
def blindedPower (key : PrivateKey) (factor value : Nat) : Nat :=
  let n := key.toPublic.modulus
  let blinded := value * Number.powMod n factor key.toPublic.exponent % n
  key.recombine blinded * Number.inverse n factor % n

/-- The private operation, refused for numbers outside the modulus. -/
def operate? (key : PrivateKey) (factor : Nat) (value : Int) : Option Nat :=
  if 0 ≤ value ∧ value < key.toPublic.modulus then some (key.blindedPower factor value.toNat)
  else none

/-- Exactly the numbers outside the modulus are refused. -/
theorem operate?_eq_none_iff {key : PrivateKey} {factor : Nat} {value : Int} :
    key.operate? factor value = none ↔ value < 0 ∨ key.toPublic.modulus ≤ value := by
  unfold operate?
  split <;> simp <;> omega

/-- What refusing a number says. -/
def outOfRangeMessage : String := "value out of range for modulus"

end SealedRpc.PrivateKey
