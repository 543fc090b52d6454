import SealedRpc.Json.Basic

/-!
# Writing JSON

The text of a JSON value in a given style. The compact style has no space between tokens
and escapes only what must be escaped; the ASCII style puts a space after each separator
and escapes everything outside printable ASCII.
-/

namespace SealedRpc.Json

/-- The choices that a JSON text leaves open. -/
structure Style where
  /-- Between items and between fields. -/
  itemSeparator : String
  /-- Between the name and the value of a field. -/
  nameSeparator : String
  /-- Whether code points outside printable ASCII are escaped. -/
  asciiOnly : Bool

/-- No space between tokens, and no escape that is not needed. -/
def Style.compact : Style := ⟨",", ":", false⟩

/-- A space after each separator, and ASCII only. -/
def Style.ascii : Style := ⟨", ", ": ", true⟩

/-- A code point below U+10000 as an escape. -/
def unitEscape (n : Nat) : Text :=
  '\\' :: 'u' :: Text.hex 4 n

/-- A code point as one escape, or as two if it lies above U+FFFF. -/
def numberEscape (c : CodePoint) : Text :=
  if c.val < 0x10000 then unitEscape c.val
  else
    let offset := c.val - 0x10000
    unitEscape (0xD800 + offset / 0x400) ++ unitEscape (0xDC00 + offset % 0x400)

/-- A code point inside a string. -/
def escaped (style : Style) (c : CodePoint) : Text :=
  if c = '"' then ['\\', '"']
  else if c = '\\' then ['\\', '\\']
  else if c = '\n' then ['\\', 'n']
  else if c = '\r' then ['\\', 'r']
  else if c = '\t' then ['\\', 't']
  else if c.val = 0x08 then ['\\', 'b']
  else if c.val = 0x0C then ['\\', 'f']
  else if c.val < 0x20 then unitEscape c.val
  else if style.asciiOnly && 0x7E < c.val then numberEscape c
  else [c]

/-- A string with its quotes. -/
def quote (style : Style) (t : Text) : Text :=
  "\"" ++ t.flatMap (escaped style) ++ "\""

/-- How floating point numbers are written: whole numbers below `10¹⁶` keep one place, and
what is no number has a capitalised name. -/
def floatFormat : FloatFormat := ⟨16, true, "NaN", "Infinity"⟩

/-- The text of a floating point number. -/
def floatText (x : Binary64) : Text :=
  floatFormat.write (fun m q => (Binary64.shortestDigits m q).stripZeros) x

mutual

/-- The text of a value. -/
def render (style : Style) : Json → Text
  | .null => "null"
  | .bool b => if b then "true" else "false"
  | .int n => Text.ofInt n
  | .float x => floatText x
  | .text t => quote style t
  | .array items => "[" ++ renderItems style items ++ "]"
  | .object fields => "\x7b" ++ renderFields style fields ++ "\x7d"

/-- The texts of items with separators between them. -/
def renderItems (style : Style) : List Json → Text
  | [] => []
  | [item] => item.render style
  | item :: rest => item.render style ++ style.itemSeparator ++ renderItems style rest

/-- The texts of fields with separators between them. -/
def renderFields (style : Style) : List (Text × Json) → Text
  | [] => []
  | [(name, value)] => quote style name ++ style.nameSeparator ++ value.render style
  | (name, value) :: rest =>
      quote style name ++ style.nameSeparator ++ value.render style ++ style.itemSeparator ++
        renderFields style rest

end

end SealedRpc.Json
