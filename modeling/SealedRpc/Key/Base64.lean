import SealedRpc.Bytes

/-!
# Base 64

Reading octets from letters, digits, `+` and `/`, four at a time, with `=` to fill up the
last group. Only the canonical form is read: whole groups, and no bits left over.
-/

namespace SealedRpc.Base64

/-- The six bits of a sign. -/
def sextet? (b : UInt8) : Option Nat :=
  let n := b.toNat
  if 0x41 ≤ n ∧ n ≤ 0x5A then some (n - 0x41)
  else if 0x61 ≤ n ∧ n ≤ 0x7A then some (n - 0x61 + 26)
  else if 0x30 ≤ n ∧ n ≤ 0x39 then some (n - 0x30 + 52)
  else if n = 0x2B then some 62
  else if n = 0x2F then some 63
  else none

/-- The sign that fills up a group. -/
def filler : UInt8 := 0x3D

/-- The octets of a last group with `=` in it. -/
def lastGroup? (a b c : UInt8) : Option Bytes := do
  let a ← sextet? a
  let b ← sextet? b
  if c = filler then
    if b % 16 = 0 then return [UInt8.ofNat (4 * a + b / 16)] else none
  else
    let c ← sextet? c
    if c % 4 = 0 then
      return [UInt8.ofNat (4 * a + b / 16), UInt8.ofNat (16 * (b % 16) + c / 4)]
    else none

/-- The octets that signs stand for. -/
def decode? : Bytes → Option Bytes
  | [] => some []
  | a :: b :: c :: d :: rest =>
      if d = filler then if rest.isEmpty then lastGroup? a b c else none
      else do
        let n := 0x40000 * (← sextet? a) + 0x1000 * (← sextet? b) + 0x40 * (← sextet? c) +
          (← sextet? d)
        return Bytes.ofNat 3 n ++ (← decode? rest)
  | _ => none

end SealedRpc.Base64
