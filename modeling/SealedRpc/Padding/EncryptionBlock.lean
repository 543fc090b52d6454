import SealedRpc.Bytes

/-!
# Encryption blocks

The block that public encryption works on in the older padding: two marker octets, at
least eight random octets other than zero, a zero, and the data.

## Main results

* `decode?_eq_some_iff`: which blocks are read, and as what.
* `decode?_encode`: a block is read back as the data it was made of.
-/

namespace SealedRpc.EncryptionBlock

/-- A random octet that fills a block; a zero would end the filling. -/
abbrev NonzeroByte := { b : UInt8 // b ≠ 0 }

/-- The least number of filling octets that a reader accepts. -/
def leastFilling : Nat := 8

/-- How many octets a block has beside the filling and the data. -/
def markers : Nat := 3

/-- The block of `size` octets around `data`. -/
def encode (filling : Nat → NonzeroByte) (size : Nat) (data : Bytes) : Bytes :=
  0 :: 2 :: ((List.range (size - data.length - markers)).map fun i => (filling i).val) ++ 0 :: data

/-- The data in a block. -/
def decode? : Bytes → Option Bytes
  | 0 :: 2 :: rest =>
      let filling := rest.takeWhile (· != 0)
      if filling.length < leastFilling then none
      else match rest.dropWhile (· != 0) with
        | _ :: data => some data
        | [] => none
  | _ => none

/-- A block is as long as the modulus. -/
theorem length_encode {filling : Nat → NonzeroByte} {size : Nat} {data : Bytes}
    (h : data.length + markers ≤ size) : (encode filling size data).length = size := by
  simp [encode, markers] at h ⊢
  omega

/-- The filling ends where the zero stands. -/
theorem takeWhile_filling {filling : Bytes} (h : ∀ b ∈ filling, b ≠ 0) (data : Bytes) :
    (filling ++ 0 :: data).takeWhile (· != 0) = filling := by
  rw [List.takeWhile_append_of_pos fun b hb => bne_iff_ne.mpr (h b hb)]
  simp

/-- After the filling come the zero and the data. -/
theorem dropWhile_filling {filling : Bytes} (h : ∀ b ∈ filling, b ≠ 0) (data : Bytes) :
    (filling ++ 0 :: data).dropWhile (· != 0) = 0 :: data := by
  rw [List.dropWhile_append_of_pos fun b hb => bne_iff_ne.mpr (h b hb)]
  simp

/-- What is taken for the filling has no zero in it. -/
theorem ne_zero_of_mem_takeWhile {bytes : Bytes} {b : UInt8}
    (h : b ∈ bytes.takeWhile (· != 0)) : b ≠ 0 := by
  have hall := List.all_takeWhile (l := bytes) (p := (· != (0 : UInt8)))
  exact bne_iff_ne.mp (List.all_eq_true.mp hall b h)

/-- What follows the filling begins with a zero, if there is anything. -/
theorem eq_zero_of_dropWhile {bytes data : Bytes} {b : UInt8}
    (h : bytes.dropWhile (· != 0) = b :: data) : b = 0 := by
  have hhead := List.head?_dropWhile_not (· != (0 : UInt8)) bytes
  simpa [h] using hhead

/-- Exactly the blocks that have at least eight filling octets and then a zero are read, as what
follows this zero. Zeros in the data do not matter: none of them is the first. -/
theorem decode?_eq_some_iff {block data : Bytes} : decode? block = some data ↔
    ∃ filling, leastFilling ≤ filling.length ∧ (∀ b ∈ filling, b ≠ 0) ∧
      block = 0 :: 2 :: filling ++ 0 :: data := by
  constructor
  · intro h
    unfold decode? at h
    split at h
    · rename_i rest
      dsimp only at h
      split at h
      · cases h
      · rename_i hlength
        split at h
        · rename_i b tail hdrop
          obtain rfl : tail = data := Option.some.inj h
          have hsplit := List.takeWhile_append_dropWhile (p := (· != (0 : UInt8))) (l := rest)
          rw [hdrop, eq_zero_of_dropWhile hdrop] at hsplit
          refine ⟨rest.takeWhile (· != 0), Nat.not_lt.mp hlength,
            fun b => ne_zero_of_mem_takeWhile, ?_⟩
          rw [List.cons_append, List.cons_append, hsplit]
        · cases h
    · cases h
  · rintro ⟨filling, hlength, hnonzero, rfl⟩
    simp only [List.cons_append, decode?, takeWhile_filling hnonzero, dropWhile_filling hnonzero,
      Nat.not_lt.mpr hlength, if_false]

/-- The data in a block comes back, whatever fills it. -/
theorem decode?_encode {filling : Nat → NonzeroByte} {size : Nat} {data : Bytes}
    (h : data.length + markers + leastFilling ≤ size) :
    decode? (encode filling size data) = some data := by
  refine decode?_eq_some_iff.mpr ⟨_, ?_, ?_, rfl⟩
  · rw [List.length_map, List.length_range]
    omega
  · intro b hb
    obtain ⟨i, -, rfl⟩ := List.mem_map.mp hb
    exact (filling i).property

end SealedRpc.EncryptionBlock
