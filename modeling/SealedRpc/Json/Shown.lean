import SealedRpc.Json.Basic

/-!
# Values in messages

How a message shows a value that it speaks of, and the word for what kind of value it is.
Texts are quoted, items stand in brackets and fields in braces.
-/

namespace SealedRpc.Json

/-- The word for the kind of a value. -/
def kind : Json → Text
  | .null => "NoneType"
  | .bool _ => "bool"
  | .int _ => "int"
  | .float _ => "float"
  | .text _ => "str"
  | .array _ => "list"
  | .object _ => "dict"

mutual

/-- How a value shows in a message. -/
def shown : Json → Text
  | .null => "None"
  | .bool b => if b then "True" else "False"
  | .int n => Text.ofInt n
  | .float x => x.toText
  | .text t => t.quoted
  | .array items => "[" ++ shownItems items ++ "]"
  | .object fields => "\x7b" ++ shownFields fields ++ "\x7d"

/-- How items show, with separators between them. -/
def shownItems : List Json → Text
  | [] => []
  | [item] => item.shown
  | item :: rest => item.shown ++ ", " ++ shownItems rest

/-- How fields show, with separators between them. -/
def shownFields : List (Text × Json) → Text
  | [] => []
  | [(name, value)] => name.quoted ++ ": " ++ value.shown
  | (name, value) :: rest => name.quoted ++ ": " ++ value.shown ++ ", " ++ shownFields rest

end

end SealedRpc.Json
