import SealedRpc.Number.Binary64
import SealedRpc.Text.Basic

/-!
# Decimal digits of binary numbers

Two ways to choose decimal digits for a binary number: the fewest that read back as the
same number, and a fixed count. Of several candidates the nearest wins, and of two that
are equally near the even one. The layout of digits as text is fixed by a record.
-/

namespace SealedRpc

/-- Digits `d₁d₂…dₙ` with a point position: the number `0.d₁d₂…dₙ * 10 ^ point`. -/
structure DecimalDigits where
  digits : Nat
  count : Nat
  point : Int
  deriving DecidableEq, Repr

namespace Binary64

/-- How many decimal digits the whole part of a positive quotient has; zero or less for a
quotient below one. Starts from a guess that is never too large and counts up. -/
def pointPosition (num den : Nat) : Int :=
  let guess : Int := (floorLog2 num den * 30102) / 100000 - 1
  settle 8 guess
where
  /-- Counts up while the quotient reaches the power of ten. -/
  settle : Nat → Int → Int
    | 0, k => k
    | steps + 1, k =>
        let reached :=
          if 0 ≤ k then den * 10 ^ k.toNat ≤ num else den ≤ num * 10 ^ (-k).toNat
        if reached then settle steps (k + 1) else k

/-- A quotient divided by the power `unit` of ten, as a quotient. -/
def scaled (num den : Nat) (unit : Int) : Nat × Nat :=
  if 0 ≤ unit then (num, den * 10 ^ unit.toNat) else (num * 10 ^ (-unit).toNat, den)

/-- Digits of a known count, with the count kept if rounding carried into a new place. -/
def DigitsAt (digits count : Nat) (point : Int) : DecimalDigits :=
  if digits = 10 ^ count then ⟨10 ^ (count - 1), count, point + 1⟩ else ⟨digits, count, point⟩

/-- The `count` digits nearest to a positive quotient. -/
def fixedDigits (num den count : Nat) : DecimalDigits :=
  let point := pointPosition num den
  let (n, d) := scaled num den (point - count)
  DigitsAt (roundDiv n d) count point

/-- The digits of count `count` that read back as the number and are nearest to it. -/
def digitsReadingBack? (mantissa : Nat) (exponent : Int) (count : Nat) : Option DecimalDigits :=
  let (num, den) := ratio mantissa exponent
  let point := pointPosition num den
  let unit := point - count
  let (n, d) := scaled num den unit
  let nearest := roundDiv n d
  let other := if nearest = n / d then nearest + 1 else n / d
  let readsBack := fun c => ofDecimal false c unit == .finite false mantissa exponent
  ([nearest, other].find? readsBack).map fun c => DigitsAt c count point

/-- The fewest digits that read back as the number; seventeen always do. -/
def shortestDigits (mantissa : Nat) (exponent : Int) : DecimalDigits :=
  let found := (List.range 17).findSome? fun i => digitsReadingBack? mantissa exponent (i + 1)
  let (num, den) := ratio mantissa exponent
  found.getD (fixedDigits num den 17)

end Binary64

/-- Digits without the zeros at their end. -/
def DecimalDigits.stripZeros (d : DecimalDigits) : DecimalDigits :=
  go d.count d
where
  /-- Takes off at most `steps` zeros. -/
  go : Nat → DecimalDigits → DecimalDigits
    | 0, d => d
    | steps + 1, d =>
        if d.digits % 10 = 0 ∧ 1 < d.count then go steps ⟨d.digits / 10, d.count - 1, d.point⟩
        else d

/-- How digits are laid out as text. -/
structure FloatFormat where
  /-- Numbers below `10` to this power are written without an exponent. -/
  positionalBelow : Int
  /-- Whether a whole number written without an exponent keeps one decimal place. -/
  keepsPlace : Bool
  /-- The text of an undefined number. -/
  nan : String
  /-- The text of an infinite number. -/
  infinite : String

namespace FloatFormat

/-- Two digits of an exponent at least. -/
def exponentText (e : Int) : Text :=
  let digits := Text.ofNat e.natAbs
  let sign : Text := if e < 0 then "-" else "+"
  sign ++ (if digits.length < 2 then "0" ++ digits else digits)

/-- The text of digits: positional for numbers from `10⁻⁴` up to the bound, otherwise
with one digit before the point and an exponent. -/
def layout (f : FloatFormat) (d : DecimalDigits) : Text :=
  let text := Text.ofNat d.digits
  let leading := d.point - 1
  if -4 ≤ leading ∧ leading < f.positionalBelow then
    if d.point ≤ 0 then
      "0." ++ List.replicate (-d.point).toNat ('0' : CodePoint) ++ text
    else if d.count ≤ d.point.toNat then
      text ++ List.replicate (d.point.toNat - d.count) ('0' : CodePoint) ++
        (if f.keepsPlace then ".0" else "")
    else text.take d.point.toNat ++ "." ++ text.drop d.point.toNat
  else
    let tail := text.drop 1
    text.take 1 ++ (if tail.isEmpty then [] else "." ++ tail) ++ "e" ++ exponentText leading

/-- The text of a number whose digits `choose` picks. -/
def write (f : FloatFormat) (choose : Nat → Int → DecimalDigits) : Binary64 → Text
  | .nan => f.nan
  | .infinite negative => (if negative then "-" else "") ++ f.infinite
  | .finite negative mantissa exponent =>
      let digits := if mantissa = 0 then ⟨0, 1, 1⟩ else choose mantissa exponent
      (if negative then "-" else "") ++ f.layout digits

end FloatFormat

namespace Binary64

/-- Shortest digits; whole numbers below `10¹⁶` keep one place. -/
def plainFormat : FloatFormat := ⟨16, true, "nan", "inf"⟩

/-- Six significant digits at most; numbers from `10⁶` on take an exponent. -/
def briefFormat : FloatFormat := ⟨6, false, "nan", "inf"⟩

/-- The shortest text that reads back as the number. -/
def toText (x : Binary64) : Text :=
  plainFormat.write (fun m q => (shortestDigits m q).stripZeros) x

/-- The number to six significant digits. -/
def toBrief (x : Binary64) : Text :=
  briefFormat.write (fun m q => let r := ratio m q; (fixedDigits r.1 r.2 6).stripZeros) x

end Binary64

end SealedRpc
