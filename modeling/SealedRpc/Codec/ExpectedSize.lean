import SealedRpc.Json.Shown

/-!
# The expected key size

What an application sets as the size that its keys should have. It should be a number of
octets. Any other value is kept as it is until keys are checked, and what the message
about an unexpected key says of it follows from what its multiples are.

## Main results

* `is_octets_iff`: a number of octets expects keys of exactly that size.
-/

namespace SealedRpc

/-- The key size that an application expects. -/
inductive ExpectedSize where
  | octets (n : Int)
  | value (v : Json)
  deriving DecidableEq, Repr

instance : Coe Int ExpectedSize := ⟨.octets⟩

/-- Why no message can be made about an expected size. -/
inductive SizeFault where
  | notMultiplied (kind : Text)
  | tooLong
  deriving DecidableEq, Repr

/-- The words for a fault. -/
def SizeFault.message : SizeFault → Text
  | .notMultiplied kind => "unsupported operand type(s) for *: '" ++ kind ++ "' and 'int'"
  | .tooLong => Number.limitMessage ++ Number.limitAdvice

namespace ExpectedSize

/-- The expected size as it was set. -/
def toJson : ExpectedSize → Json
  | .octets n => .int n
  | .value v => v

/-- Whether a size is the expected one: they are equal as numbers. -/
def is (expected : ExpectedSize) (size : Nat) : Bool :=
  expected.toJson.toInt? = some (size : Int)

/-- Eight times a floating point number. -/
def eightfold : Binary64 → Binary64
  | .finite negative mantissa exponent =>
      let (num, den) := Binary64.ratio mantissa exponent
      .ofRatio negative (8 * num) den
  | x => x

/-- Eight times an integer as text. -/
def integerBits (n : Int) : Except SizeFault Text :=
  if 10 ^ digitLimit ≤ (8 * n).natAbs then .error .tooLong else .ok (Text.ofInt (8 * n))

/-- Eight times the expected size as text. A text or a list is repeated eight times. -/
def bits (expected : ExpectedSize) : Except SizeFault Text :=
  match expected.toJson with
  | .int n => integerBits n
  | .bool b => integerBits (if b then 1 else 0)
  | .float x => .ok (eightfold x).toText
  | .text t => .ok (List.replicate 8 t).flatten
  | .array items => .ok (Json.array (List.replicate 8 items).flatten).shown
  | v => .error (.notMultiplied v.kind)

/-- A number of octets expects keys of exactly that size. -/
theorem is_octets_iff (n : Int) (size : Nat) : (octets n).is size = true ↔ n = size := by
  simp [is, toJson, Json.toInt?]

end ExpectedSize

end SealedRpc
