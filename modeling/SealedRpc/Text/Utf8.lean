import SealedRpc.Bytes
import SealedRpc.Text.Basic

/-!
# UTF-8

Writing a text as octets, which fails at a surrogate, and reading octets back. Reading
first cuts the octets into units: a unit is a code point, or the longest beginning of an
encoding that the octets break off. The strict reading allows no broken unit, the lossy
one puts U+FFFD in its place.

## Main results

* `encode?_eq_some_iff`: a text has a UTF-8 form exactly if it holds no surrogate.
-/

namespace SealedRpc

/-- The octets of one code point, in the generalised form that also covers surrogates. -/
def CodePoint.utf8 (c : CodePoint) : Bytes :=
  if c.val < 0x80 then [UInt8.ofNat c.val]
  else if c.val < 0x800 then
    [UInt8.ofNat (0xC0 + c.val / 0x40), UInt8.ofNat (0x80 + c.val % 0x40)]
  else if c.val < 0x10000 then
    [UInt8.ofNat (0xE0 + c.val / 0x1000), UInt8.ofNat (0x80 + c.val / 0x40 % 0x40),
      UInt8.ofNat (0x80 + c.val % 0x40)]
  else
    [UInt8.ofNat (0xF0 + c.val / 0x40000), UInt8.ofNat (0x80 + c.val / 0x1000 % 0x40),
      UInt8.ofNat (0x80 + c.val / 0x40 % 0x40), UInt8.ofNat (0x80 + c.val % 0x40)]

namespace Utf8

/-- Whether a text has a UTF-8 form. -/
def encodable (t : Text) : Bool :=
  t.all fun c => !c.isSurrogate

/-- The UTF-8 form of a text, if it holds no surrogate. -/
def encode? (t : Text) : Option Bytes :=
  if encodable t then some (t.flatMap CodePoint.utf8) else none

/-- A text has a form exactly if it holds no surrogate. -/
theorem encode?_eq_some_iff {t : Text} {b : Bytes} :
    encode? t = some b ↔ encodable t = true ∧ t.flatMap CodePoint.utf8 = b := by
  simp [encode?]

/-- An encoding that has begun: how many octets are owed after the next one, the least
and the greatest value of the next one, and the bits read so far. -/
structure Pending where
  more : Nat
  least : UInt8
  greatest : UInt8
  bits : Nat

/-- What an octet means at the start of a unit. -/
inductive Lead where
  | char (c : CodePoint)
  | pending (p : Pending)
  | broken

/-- Reads the first octet of a unit. -/
def lead (b : UInt8) : Lead :=
  if b < 0x80 then .char (Fin.ofNat _ b.toNat)
  else if b < 0xC2 then .broken
  else if b < 0xE0 then .pending ⟨0, 0x80, 0xBF, b.toNat - 0xC0⟩
  else if b < 0xF0 then
    .pending ⟨1, if b = 0xE0 then 0xA0 else 0x80, if b = 0xED then 0x9F else 0xBF, b.toNat - 0xE0⟩
  else if b < 0xF5 then
    .pending ⟨2, if b = 0xF0 then 0x90 else 0x80, if b = 0xF4 then 0x8F else 0xBF, b.toNat - 0xF0⟩
  else .broken

/-- The units of a byte string, given what has begun before it; `none` is a broken one. -/
def units : Option Pending → Bytes → List (Option CodePoint)
  | none, [] => []
  | some _, [] => [none]
  | state, b :: rest =>
      match state with
      | some p =>
          if p.least ≤ b ∧ b ≤ p.greatest then
            let bits := 0x40 * p.bits + (b.toNat - 0x80)
            match p.more with
            | 0 => some (Fin.ofNat _ bits) :: units none rest
            | more + 1 => units (some ⟨more, 0x80, 0xBF, bits⟩) rest
          else none :: afresh b rest
      | none => afresh b rest
where
  /-- Starts a unit at the octet `b`. -/
  afresh (b : UInt8) (rest : Bytes) : List (Option CodePoint) :=
    match lead b with
    | .char c => some c :: units none rest
    | .pending p => units (some p) rest
    | .broken => none :: units none rest

/-- The text that a byte string encodes, if no unit is broken. -/
def decode? (b : Bytes) : Option Text :=
  (units none b).mapM id

/-- The code point that stands for what cannot be read. -/
def replacement : CodePoint := 0xFFFD

/-- The text of a byte string with U+FFFD for each broken unit. -/
def decodeLossy (b : Bytes) : Text :=
  (units none b).map fun u => u.getD replacement

end Utf8

end SealedRpc
