import SealedRpc.Number.Reading

/-!
# JSON data

The values that a JSON text can stand for. Numbers without a point or an exponent are
integers of any size, the others are binary floating point numbers. The fields of an
object keep their order, and their names are distinct when they come from a text.
-/

namespace SealedRpc

/-- A value that a JSON text stands for. -/
inductive Json where
  | null
  | bool (b : Bool)
  | int (n : Int)
  | float (x : Binary64)
  | text (t : Text)
  | array (items : List Json)
  | object (fields : List (Text × Json))
  deriving Repr

namespace Json

mutual

/-- Decides whether two values are the same. -/
def decEq (a b : Json) : Decidable (a = b) :=
  match a, b with
  | .null, .null => isTrue rfl
  | .bool a, .bool b => decidable_of_iff (a = b) (by simp)
  | .int a, .int b => decidable_of_iff (a = b) (by simp)
  | .float a, .float b => decidable_of_iff (a = b) (by simp)
  | .text a, .text b => decidable_of_iff (a = b) (by simp)
  | .array a, .array b => let _ := decEqItems a b; decidable_of_iff (a = b) (by simp)
  | .object a, .object b => let _ := decEqFields a b; decidable_of_iff (a = b) (by simp)
  | .null, .bool _ | .null, .int _ | .null, .float _ | .null, .text _ | .null, .array _
  | .null, .object _ | .bool _, .null | .bool _, .int _ | .bool _, .float _ | .bool _, .text _
  | .bool _, .array _ | .bool _, .object _ | .int _, .null | .int _, .bool _ | .int _, .float _
  | .int _, .text _ | .int _, .array _ | .int _, .object _ | .float _, .null | .float _, .bool _
  | .float _, .int _ | .float _, .text _ | .float _, .array _ | .float _, .object _
  | .text _, .null | .text _, .bool _ | .text _, .int _ | .text _, .float _ | .text _, .array _
  | .text _, .object _ | .array _, .null | .array _, .bool _ | .array _, .int _
  | .array _, .float _ | .array _, .text _ | .array _, .object _ | .object _, .null
  | .object _, .bool _ | .object _, .int _ | .object _, .float _ | .object _, .text _
  | .object _, .array _ => isFalse (by simp)

/-- Decides whether two lists of items are the same. -/
def decEqItems (a b : List Json) : Decidable (a = b) :=
  match a, b with
  | [], [] => isTrue rfl
  | x :: xs, y :: ys =>
      let _ := decEq x y
      let _ := decEqItems xs ys
      decidable_of_iff (x = y ∧ xs = ys) (by simp)
  | [], _ :: _ | _ :: _, [] => isFalse (by simp)

/-- Decides whether two lists of fields are the same. -/
def decEqFields (a b : List (Text × Json)) : Decidable (a = b) :=
  match a, b with
  | [], [] => isTrue rfl
  | (m, x) :: xs, (n, y) :: ys =>
      let _ := decEq x y
      let _ := decEqFields xs ys
      decidable_of_iff ((m = n ∧ x = y) ∧ xs = ys) (by simp)
  | [], _ :: _ | _ :: _, [] => isFalse (by simp)

end

instance : DecidableEq Json := decEq

/-- The integer that a value equals as a number, if it equals one. -/
def toInt? : Json → Option Int
  | .bool b => some (if b then 1 else 0)
  | .int n => some n
  | .float x => x.toInt?
  | _ => none

/-- Fields with the field `name` set: in its old place if there is one, at the end
otherwise. -/
def setField (name : Text) (value : Json) : List (Text × Json) → List (Text × Json)
  | [] => [(name, value)]
  | (n, v) :: rest => if n = name then (n, value) :: rest else (n, v) :: setField name value rest

/-- The object of a list of fields, in which a later field of the same name replaces the
value of an earlier one. -/
def ofFields (fields : List (Text × Json)) : Json :=
  .object (fields.foldl (fun acc f => setField f.1 f.2 acc) [])

/-- The value of a field of an object. -/
def field? (name : Text) : Json → Option Json
  | .object fields => fields.lookup name
  | _ => none

mutual

/-- Whether a value holds finite numbers only. -/
def isFinite : Json → Bool
  | .float .nan | .float (.infinite _) => false
  | .array items => areFinite items
  | .object fields => fieldsAreFinite fields
  | _ => true

/-- Whether items hold finite numbers only. -/
def areFinite : List Json → Bool
  | [] => true
  | item :: rest => item.isFinite && areFinite rest

/-- Whether fields hold finite numbers only. -/
def fieldsAreFinite : List (Text × Json) → Bool
  | [] => true
  | (_, value) :: rest => value.isFinite && fieldsAreFinite rest

end

/-- How deep containers within containers may go, both in a text that is read and in a value that
is written. It is a matter of how much room there is for recursion where the program runs, so it is
a parameter of all that reads or writes. There is room for an array in an object at least. -/
class NestingLimit where
  levels : Nat
  two_le : 2 ≤ levels := by decide

/-- The limit where nothing else is said: what is left of a thousand calls for a program that is
some calls deep already. -/
instance NestingLimit.usual : NestingLimit where
  levels := 985

/-- The deepest nesting that can be read or written. -/
def nestingLimit [NestingLimit] : Nat := NestingLimit.levels

end Json

end SealedRpc
