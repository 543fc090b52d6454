import SealedRpc.Text.Basic

/-!
# Blank space

The white space of Unicode, and trimming it from both ends of a text.
-/

namespace SealedRpc

namespace CodePoint

/-- The white space of Unicode together with the four separators U+001C to U+001F. -/
def blankRanges : List (Nat × Nat) :=
  [(0x09, 0x0D), (0x1C, 0x20), (0x85, 0x85), (0xA0, 0xA0), (0x1680, 0x1680), (0x2000, 0x200A),
    (0x2028, 0x2029), (0x202F, 0x202F), (0x205F, 0x205F), (0x3000, 0x3000)]

/-- Whether a code point is white space or one of the separators. -/
def isBlank (c : CodePoint) : Bool :=
  inRanges blankRanges c

/-- Whether a code point is white space of Unicode, which the separators are not. -/
def isWhiteSpace (c : CodePoint) : Bool :=
  c.isBlank && !(0x1C ≤ c.val && c.val ≤ 0x1F)

end CodePoint

namespace Text

/-- A text without the white space at its ends. -/
def trim (t : Text) : Text :=
  trimWhile CodePoint.isBlank t

end Text

end SealedRpc
