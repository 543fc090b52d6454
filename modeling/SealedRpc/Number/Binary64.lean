import SealedRpc.Number.Modular

/-!
# Binary floating point numbers

The 64-bit format as exact numbers: a sign, a mantissa below `2 ^ 53` and a power of two.
Rounding takes a quotient of natural numbers to the nearest number of the format, and a
tie to the even mantissa.
-/

namespace SealedRpc

/-- A number of the 64-bit binary format; `finite negative m q` stands for `m * 2 ^ q`. -/
inductive Binary64 where
  | nan
  | infinite (negative : Bool)
  | finite (negative : Bool) (mantissa : Nat) (exponent : Int)
  deriving DecidableEq, Repr

namespace Binary64

/-- The least exponent of the format. -/
def leastExponent : Int := -1074

/-- The greatest exponent of the format. -/
def greatestExponent : Int := 971

/-- Zero with a sign. -/
def zero (negative : Bool) : Binary64 :=
  .finite negative 0 leastExponent

/-- The quotient rounded to the nearest natural number, a tie to the even one. -/
def roundDiv (num den : Nat) : Nat :=
  let quotient := num / den
  let rest := num % den
  if 2 * rest < den ∨ (2 * rest = den ∧ quotient % 2 = 0) then quotient else quotient + 1

/-- The exponent `t` with `2 ^ t ≤ num / den < 2 ^ (t + 1)`, for positive numbers. -/
def floorLog2 (num den : Nat) : Int :=
  let guess : Int := (num.log2 : Int) - (den.log2 : Int)
  let reached :=
    if 0 ≤ guess then den * 2 ^ guess.toNat ≤ num else den ≤ num * 2 ^ (-guess).toNat
  if reached then guess else guess - 1

/-- The number of the format nearest to `num / den`. -/
def ofRatio (negative : Bool) (num den : Nat) : Binary64 :=
  if num = 0 then zero negative
  else
    let exponent := max (floorLog2 num den - 52) leastExponent
    let mantissa :=
      if 0 ≤ exponent then roundDiv num (den * 2 ^ exponent.toNat)
      else roundDiv (num * 2 ^ (-exponent).toNat) den
    let (mantissa, exponent) :=
      if mantissa = 2 ^ 53 then (2 ^ 52, exponent + 1) else (mantissa, exponent)
    if exponent > greatestExponent then .infinite negative
    else .finite negative mantissa exponent

/-- The number of the format nearest to `digits * 10 ^ exponent`. Powers so large or so
small that the result is infinite or zero for any sensible number of digits are not
computed. -/
def ofDecimal (negative : Bool) (digits : Nat) (exponent : Int) : Binary64 :=
  let magnitude : Int := (Number.bitLength digits : Int) + 3 * exponent
  if digits = 0 then zero negative
  else if 0 ≤ exponent then
    if 1100 < magnitude then .infinite negative
    else ofRatio negative (digits * 10 ^ exponent.toNat) 1
  else if (Number.bitLength digits : Int) + 3 * exponent < -1200 then zero negative
  else ofRatio negative digits (10 ^ (-exponent).toNat)

/-- The magnitude of a finite number as a quotient. -/
def ratio (mantissa : Nat) (exponent : Int) : Nat × Nat :=
  if 0 ≤ exponent then (mantissa * 2 ^ exponent.toNat, 1) else (mantissa, 2 ^ (-exponent).toNat)

/-- A finite number without its fraction. -/
def truncate? : Binary64 → Option Int
  | .finite negative mantissa exponent =>
      let (num, den) := ratio mantissa exponent
      some (if negative then -(num / den : Nat) else (num / den : Nat))
  | _ => none

/-- The integer that a number is, if it is one. -/
def toInt? : Binary64 → Option Int
  | .finite negative mantissa exponent =>
      let (num, den) := ratio mantissa exponent
      if num % den = 0 then some (if negative then -(num / den : Nat) else (num / den : Nat))
      else none
  | _ => none

/-- The number nearest to an integer, if the format reaches that far. -/
def ofInt? (n : Int) : Option Binary64 :=
  match ofRatio (n < 0) n.natAbs 1 with
  | .infinite _ => none
  | x => some x

end Binary64

end SealedRpc
