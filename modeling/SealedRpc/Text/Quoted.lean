import SealedRpc.Text.Printable

/-!
# Quoted texts

How a message shows a text that it speaks of: between single quotes, or between double
quotes if the text holds a single quote and no double quote, with escapes for the quote,
the backslash and everything that does not show as itself.
-/

namespace SealedRpc

namespace CodePoint

/-- An escape with the hexadecimal number of a code point, as short as two, four or
eight digits allow. -/
def numberEscape (c : CodePoint) : Text :=
  if c.val < 0x100 then '\\' :: 'x' :: Text.hex 2 c.val
  else if c.val < 0x10000 then '\\' :: 'u' :: Text.hex 4 c.val
  else '\\' :: 'U' :: Text.hex 8 c.val

/-- How a code point shows between quotes of the given kind. -/
def quoted (quote : CodePoint) (c : CodePoint) : Text :=
  if c = quote ∨ c = '\\' then ['\\', c]
  else if c = '\n' then ['\\', 'n']
  else if c = '\r' then ['\\', 'r']
  else if c = '\t' then ['\\', 't']
  else if c.isPrintable then [c]
  else numberEscape c

end CodePoint

namespace Text

/-- A text between quotes. -/
def quoted (t : Text) : Text :=
  let quote : CodePoint :=
    if t.contains ('\'' : CodePoint) && !t.contains ('"' : CodePoint) then '"' else '\''
  quote :: t.flatMap (CodePoint.quoted quote) ++ [quote]

end Text

end SealedRpc
