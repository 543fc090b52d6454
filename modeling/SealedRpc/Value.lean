import SealedRpc.Bytes
import SealedRpc.Json.Printer

/-!
# Values

The values that an application hands in to be written as JSON, or that a handler returns.
They are wider than JSON: they have byte strings, tuples, dictionaries whose keys need not
be texts, and things of other types, which no JSON text can express.
-/

namespace SealedRpc

/-- A key of a dictionary. A key of a type that no field name can come from is known by
the name of its type only. -/
inductive FieldName where
  | null
  | bool (b : Bool)
  | int (n : Int)
  | float (x : Binary64)
  | text (t : Text)
  | foreign (typeName : Text)
  deriving DecidableEq, Repr

/-- A value that an application hands in. A thing that JSON cannot express is known by the
name of its type only. -/
inductive Value where
  | null
  | bool (b : Bool)
  | int (n : Int)
  | float (x : Binary64)
  | text (t : Text)
  | bytes (b : Bytes)
  | list (items : List Value)
  | tuple (items : List Value)
  | dict (fields : List (FieldName × Value))
  | foreign (typeName : Text)
  deriving Repr

/-- Why a value has no JSON text. -/
inductive Unserializable where
  | type (typeName : Text)
  | key (typeName : Text)
  | intTooLong
  | tooDeep
  deriving DecidableEq, Repr

/-- The words for a cause. -/
def Unserializable.message : Unserializable → Text
  | .type typeName => "Object of type " ++ typeName ++ " is not JSON serializable"
  | .key typeName => "keys must be str, int, float, bool or None, not " ++ typeName
  | .intTooLong => Number.limitMessage ++ Number.limitAdvice
  | .tooDeep => "maximum recursion depth exceeded"

namespace FieldName

/-- The integer that a key equals as a number. -/
def toInt? : FieldName → Option Int
  | .bool b => some (if b then 1 else 0)
  | .int n => some n
  | .float x => x.toInt?
  | _ => none

/-- Whether two keys name the same entry of a dictionary: numbers and truth values do if
they are equal as numbers. -/
def same (a b : FieldName) : Bool :=
  match a, b with
  | .null, .null => true
  | .text s, .text t => s == t
  | .float x, .float y => x != .nan && (x == y || (x.toInt?.isSome && x.toInt? == y.toInt?))
  | _, _ => a.toInt?.isSome && a.toInt? == b.toInt?

/-- The name of a field that a key gives. -/
def toText? : FieldName → Except Unserializable Text
  | .null => .ok "null"
  | .bool b => .ok (if b then "true" else "false")
  | .int n => if 10 ^ digitLimit ≤ n.natAbs then .error .intTooLong else .ok (Text.ofInt n)
  | .float x => .ok (Json.floatText x)
  | .text t => .ok t
  | .foreign typeName => .error (.key typeName)

end FieldName

namespace Value

/-- Entries with one more: it takes the place of an entry with the same key, whose key
stays, or else comes last. -/
def setEntry (key : FieldName) (value : Value) :
    List (FieldName × Value) → List (FieldName × Value)
  | [] => [(key, value)]
  | (k, v) :: rest =>
      if k.same key then (k, value) :: rest else (k, v) :: setEntry key value rest

/-- The dictionary of a list of entries, of which the last one counts for each key. -/
def ofEntries (entries : List (FieldName × Value)) : Value :=
  .dict (entries.foldl (fun acc e => setEntry e.1 e.2 acc) [])

/-- The value of an entry with a text for its key. -/
def entry? (name : Text) : Value → Option Value
  | .dict fields => (fields.find? fun f => f.1.same (.text name)).map Prod.snd
  | _ => none

mutual

/-- A JSON value as a value. -/
def ofJson : Json → Value
  | .null => .null
  | .bool b => .bool b
  | .int n => .int n
  | .float x => .float x
  | .text t => .text t
  | .array items => .list (ofItems items)
  | .object fields => .dict (ofFields fields)

/-- Items of an array as values. -/
def ofItems : List Json → List Value
  | [] => []
  | item :: rest => ofJson item :: ofItems rest

/-- Fields of an object as entries. -/
def ofFields : List (Text × Json) → List (FieldName × Value)
  | [] => []
  | (name, value) :: rest => (.text name, ofJson value) :: ofFields rest

end

mutual

/-- A value as JSON, containers nested to `depth` at most. The first obstacle in the order
of the text is the one that is reported. -/
def toJson? (depth : Nat) : Value → Except Unserializable Json
  | .null => .ok .null
  | .bool b => .ok (.bool b)
  | .int n => if 10 ^ digitLimit ≤ n.natAbs then .error .intTooLong else .ok (.int n)
  | .float x => .ok (.float x)
  | .text t => .ok (.text t)
  | .bytes _ => .error (.type "bytes")
  | .foreign typeName => .error (.type typeName)
  | .list items | .tuple items =>
      match depth with
      | 0 => .error .tooDeep
      | depth + 1 => (toItems? depth items).map .array
  | .dict fields =>
      match depth with
      | 0 => .error .tooDeep
      | depth + 1 => (toFields? depth fields).map .object

/-- Items as JSON. -/
def toItems? (depth : Nat) : List Value → Except Unserializable (List Json)
  | [] => .ok []
  | item :: rest => do
      let first ← toJson? depth item
      let others ← toItems? depth rest
      return first :: others

/-- Entries as fields. -/
def toFields? (depth : Nat) : List (FieldName × Value) →
    Except Unserializable (List (Text × Json))
  | [] => .ok []
  | (key, value) :: rest => do
      let name ← key.toText?
      let first ← toJson? depth value
      let others ← toFields? depth rest
      return (name, first) :: others

end

/-- The compact JSON text of a value. -/
def compactText [Json.NestingLimit] (value : Value) : Except Unserializable Text :=
  (value.toJson? Json.nestingLimit).map (Json.render .compact)

end Value

end SealedRpc
