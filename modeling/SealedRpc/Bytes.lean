import SealedRpc.Number.Instances

/-!
# Byte strings

Byte strings are lists of octets. This module reads one as a number in base 256 and
writes a number in a given number of octets, most significant octet first, and cuts a
byte string into consecutive pieces.

## Main results

* `length_ofNat`: a number written in `width` octets has exactly `width` of them.
* `toNat_append`: reading a concatenation shifts the first part by the second's length.
* `toNat_ofNat`: a number below `256 ^ width` is read back as itself.
* `flatten_pieces`: the pieces of a byte string, joined again, are the byte string.
-/

namespace SealedRpc

/-- A byte string. -/
abbrev Bytes := List UInt8

namespace Bytes

/-! ### Numbers in base 256 -/

/-- The number that a byte string writes, most significant octet first. -/
def toNat (bytes : Bytes) : Nat :=
  bytes.foldl (fun n b => 256 * n + b.toNat) 0

/-- Writes `n` in `width` octets in front of `tail`. -/
def ofNatOnto : Nat → Nat → Bytes → Bytes
  | 0, _, tail => tail
  | width + 1, n, tail => ofNatOnto width (n / 256) (UInt8.ofNat n :: tail)

/-- The `width` low octets of `n`, most significant first. -/
def ofNat (width n : Nat) : Bytes :=
  ofNatOnto width n []

/-- Octet by octet exclusive or, as long as both sides last. -/
def xor (a b : Bytes) : Bytes :=
  List.zipWith (· ^^^ ·) a b

/-- Writing in front of a tail is writing, then the tail. -/
theorem ofNatOnto_eq (width n : Nat) (tail : Bytes) :
    ofNatOnto width n tail = ofNat width n ++ tail := by
  induction width generalizing n tail with
  | zero => rfl
  | succ w ih =>
      rw [ofNat, ofNatOnto, ofNatOnto, ih, ih (n / 256) [UInt8.ofNat n]]
      simp

/-- A number is written in as many octets as were asked for. -/
@[simp] theorem length_ofNat (width n : Nat) : (ofNat width n).length = width := by
  induction width generalizing n with
  | zero => rfl
  | succ w ih => rw [ofNat, ofNatOnto, ofNatOnto_eq]; simp [ih]

/-- Reading on from a number shifts that number by the length of the rest. -/
theorem foldl_eq (bytes : Bytes) (start : Nat) :
    bytes.foldl (fun n b => 256 * n + b.toNat) start
      = 256 ^ bytes.length * start + toNat bytes := by
  induction bytes generalizing start with
  | nil => simp [toNat]
  | cons b rest ih =>
      rw [toNat, List.foldl_cons, List.foldl_cons, ih, ih (256 * 0 + b.toNat)]
      simp only [List.length_cons, Nat.pow_succ, Nat.mul_zero, Nat.zero_add, Nat.mul_add,
        Nat.mul_assoc, Nat.add_assoc]

/-- The number of two strings in a row. -/
theorem toNat_append (a b : Bytes) :
    toNat (a ++ b) = 256 ^ b.length * toNat a + toNat b := by
  rw [toNat, List.foldl_append, foldl_eq]
  rfl

/-- A number that fits reads back. -/
theorem toNat_ofNat {width n : Nat} (h : n < 256 ^ width) : toNat (ofNat width n) = n := by
  induction width generalizing n with
  | zero => simp at h; subst h; rfl
  | succ w ih =>
      have hn : n / 256 < 256 ^ w := by
        apply Nat.div_lt_of_lt_mul
        rw [Nat.pow_succ, Nat.mul_comm] at h
        exact h
      rw [ofNat, ofNatOnto, ofNatOnto_eq, toNat_append, ih hn]
      simp [toNat, UInt8.toNat_ofNat']
      omega

/-! ### Pieces -/

/-- Consecutive pieces of `size` octets; the last one may be shorter. -/
def pieces (size : Nat) (data : Bytes) : List Bytes :=
  if data = [] ∨ size = 0 then [] else data.take size :: pieces size (data.drop size)
termination_by data.length
decreasing_by
  rename_i h
  have hpos : data.length ≠ 0 := fun e => h (Or.inl (List.length_eq_zero_iff.mp e))
  rw [List.length_drop]
  omega

/-- Nothing is lost in pieces. -/
theorem flatten_pieces {size : Nat} (h : 0 < size) (data : Bytes) :
    (pieces size data).flatten = data := by
  fun_induction pieces size data with
  | case1 data hd => rcases hd with hd | hd <;> simp_all
  | case2 data _ ih => simp [ih]

end Bytes

end SealedRpc
