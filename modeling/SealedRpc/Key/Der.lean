import SealedRpc.Bytes
import SealedRpc.Number.Modular
import SealedRpc.Text.Basic

/-!
# Distinguished encoding

Reading the tagged elements in which key files write numbers and structures. Lengths,
numbers and identifiers are read in their one shortest form only.

## Main results

* `optional_eq_append`: taking an element off that may be there loses nothing.
-/

namespace SealedRpc.Der

/-- An element: its tag and its content. -/
structure Element where
  tag : UInt8
  content : Bytes
  deriving DecidableEq, Repr

/-! ### Tags -/

/-- The tag of an integer. -/
def integerTag : UInt8 := 0x02

/-- The tag of a bit string. -/
def bitStringTag : UInt8 := 0x03

/-- The tag of an octet string. -/
def octetStringTag : UInt8 := 0x04

/-- The tag of the element without content. -/
def nullTag : UInt8 := 0x05

/-- The tag of an object identifier. -/
def identifierTag : UInt8 := 0x06

/-- The tag of a sequence. -/
def sequenceTag : UInt8 := 0x30

/-- The tag of a set. -/
def setTag : UInt8 := 0x31

/-- The tag of the numbered field of a structure that holds octets. -/
def octetFieldTag (number : UInt8) : UInt8 := 0x80 + number

/-- The tag of the numbered field of a structure that holds elements. -/
def fieldTag (number : UInt8) : UInt8 := 0xA0 + number

/-! ### Elements -/

/-- Reads the length of an element: one octet below 128, or up to four octets for a number
that needs as many. -/
def length? : Bytes → Option (Nat × Bytes)
  | [] => none
  | b :: rest =>
      if b < 0x80 then some (b.toNat, rest)
      else
        let count := b.toNat - 0x80
        let digits := rest.take count
        let n := Bytes.toNat digits
        if count = 0 ∨ 4 < count ∨ digits.length < count ∨ digits.head? = some 0 ∨ n < 0x80 then
          none
        else some (n, rest.drop count)

/-- Reads one element off a byte string. -/
def element? : Bytes → Option (Element × Bytes)
  | [] => none
  | tag :: rest => do
      let (n, rest) ← length? rest
      if rest.length < n then none else return (⟨tag, rest.take n⟩, rest.drop n)

/-- Reads elements up to the end, at most `count` of them. -/
def elementsUpTo? : Nat → Bytes → Option (List Element)
  | 0, bytes => if bytes.isEmpty then some [] else none
  | count + 1, bytes =>
      if bytes.isEmpty then some []
      else do
        let (e, rest) ← element? bytes
        return e :: (← elementsUpTo? count rest)

/-- The elements that a byte string is made of. -/
def elements? (bytes : Bytes) : Option (List Element) :=
  elementsUpTo? bytes.length bytes

/-- The element that is all of a byte string. -/
def whole? (bytes : Bytes) : Option Element := do
  let (e, rest) ← element? bytes
  if rest.isEmpty then some e else none

/-- The content of an element with a given tag. -/
def contentOf? (tag : UInt8) (e : Element) : Option Bytes :=
  if e.tag = tag then some e.content else none

/-- The elements in an element with a given tag. -/
def elementsOf? (tag : UInt8) (e : Element) : Option (List Element) := do
  elements? (← contentOf? tag e)

/-- The elements of a sequence that is all of a byte string. -/
def sequence? (bytes : Bytes) : Option (List Element) := do
  elementsOf? sequenceTag (← whole? bytes)

/-- Takes the first element off if it has a given tag. -/
def optional (tag : UInt8) : List Element → Option Element × List Element
  | [] => (none, [])
  | e :: rest => if e.tag = tag then (some e, rest) else (none, e :: rest)

/-- What is taken off and what is left are all there was. -/
theorem optional_eq_append (tag : UInt8) (elements : List Element) :
    (optional tag elements).1.toList ++ (optional tag elements).2 = elements := by
  cases elements with
  | nil => rfl
  | cons e rest => rw [optional]; split <;> rfl

/-! ### Values -/

/-- The number of an integer that is not negative. -/
def natural? (e : Element) : Option Nat :=
  if e.tag ≠ integerTag then none
  else match e.content with
    | [] => none
    | [b] => if b < 0x80 then some b.toNat else none
    | b :: c :: _ =>
        if 0x80 ≤ b ∨ (b = 0 ∧ c < 0x80) then none else some (Bytes.toNat e.content)

/-- The octets of a bit string, and how many bits at their end do not count. Those are zero. -/
def bits? (e : Element) : Option (Nat × Bytes) := do
  match ← contentOf? bitStringTag e with
  | [] => none
  | unused :: octets =>
      let n := unused.toNat
      match octets.getLast? with
      | none => if n = 0 then some (0, []) else none
      | some last => if n ≤ 7 ∧ last.toNat % 2 ^ n = 0 then some (n, octets) else none

/-- Whether octets write numbers in base 128, each with as few digits as it needs. The last
digit of a number is below 128 and the others are not; `starts` says that a number is to
start here. -/
def isNumbers (starts : Bool) : Bytes → Bool
  | [] => starts
  | b :: rest => !(starts && b = 0x80) && isNumbers (b < 0x80) rest

/-- The content of an object identifier: at least one number. -/
def identifier? (e : Element) : Option Bytes := do
  let content ← contentOf? identifierTag e
  if !content.isEmpty && isNumbers true content then some content else none

/-- The numbers in base 128 that octets write, after the digits `n` of the first one. -/
def numbers (n : Nat) : Bytes → List Nat
  | [] => []
  | b :: rest =>
      let n := 128 * n + b.toNat % 128
      if b < 0x80 then n :: numbers 0 rest else numbers n rest

/-- An object identifier with points between its numbers. The first two are written as one
number, forty times the first, which is at most two, and the second. -/
def dotted (identifier : Bytes) : Text :=
  let parts := match numbers 0 identifier with
    | [] => []
    | n :: rest => let first := min (n / 40) 2; first :: (n - 40 * first) :: rest
  Text.join "." (parts.map Text.ofNat)

end SealedRpc.Der
