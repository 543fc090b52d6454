import SealedRpc.Json.Shown

/-!
# Numbers from values

Turning the value of a setting into a number. Numbers of the other kind, truth values and
texts convert; nothing else does.
-/

namespace SealedRpc

/-- Why a value does not convert to a number. -/
inductive ConversionFault where
  | malformedInt (fault : Number.IntFault)
  | malformedFloat (text : Text)
  | undefined
  | infinite
  | tooLarge
  | notInt (kind : Text)
  | notFloat (kind : Text)
  deriving DecidableEq, Repr

/-- The words for a fault. -/
def ConversionFault.message : ConversionFault → Text
  | .malformedInt fault => fault.message
  | .malformedFloat text => "could not convert string to float: " ++ text.quoted
  | .undefined => "cannot convert float NaN to integer"
  | .infinite => "cannot convert float infinity to integer"
  | .tooLarge => "int too large to convert to float"
  | .notInt kind =>
      "int() argument must be a string, a bytes-like object or a real number, not '" ++ kind ++ "'"
  | .notFloat kind => "float() argument must be a string or a real number, not '" ++ kind ++ "'"

namespace Json

/-- Converts a value to an integer. A fraction is cut off. -/
def toInteger : Json → Except ConversionFault Int
  | .int n => .ok n
  | .bool b => .ok (if b then 1 else 0)
  | .text t => (Number.readInt t).mapError .malformedInt
  | .float .nan => .error .undefined
  | .float (.infinite _) => .error .infinite
  | .float x => .ok (x.truncate?.getD 0)
  | v => .error (.notInt v.kind)

/-- Converts a value to a floating point number. -/
def toFloat : Json → Except ConversionFault Binary64
  | .float x => .ok x
  | .bool b => .ok (.ofRatio false (if b then 1 else 0) 1)
  | .int n =>
      match Binary64.ofInt? n with
      | some x => .ok x
      | none => .error .tooLarge
  | .text t =>
      match Number.readFloat? t with
      | some x => .ok x
      | none => .error (.malformedFloat t)
  | v => .error (.notFloat v.kind)

end Json

end SealedRpc
