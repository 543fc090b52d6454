import SealedRpc.Bytes

/-!
# Signature blocks

The block that a raw signature works on: two marker octets, at least eight octets `ff`, a
zero, and the data itself, with no digest. The size and the data determine the block.

## Main results

* `decode?_eq_some_iff`: a block of some size is read as data exactly if it is the block of
  that data.
-/

namespace SealedRpc.SignatureBlock

/-- The least number of filling octets. -/
def leastFilling : Nat := 8

/-- How many octets a block has at least beside the data. -/
def overhead : Nat := 11

/-- The block of `size` octets around `data`. -/
def encode (size : Nat) (data : Bytes) : Bytes :=
  0 :: 1 :: List.replicate (size - data.length - 3) 0xFF ++ 0 :: data

/-- The data in a block. -/
def decode? : Bytes → Option Bytes
  | 0 :: 1 :: rest =>
      if (rest.takeWhile (· == 0xFF)).length < leastFilling then none
      else match rest.dropWhile (· == 0xFF) with
        | 0 :: data => some data
        | _ => none
  | _ => none

/-- The filling ends where the zero stands. -/
theorem takeWhile_filling (n : Nat) (data : Bytes) :
    (List.replicate n (0xFF : UInt8) ++ 0 :: data).takeWhile (· == 0xFF)
      = List.replicate n 0xFF := by
  induction n with
  | zero => simp
  | succ n ih => simp [List.replicate_succ, ih]

/-- After the filling come the zero and the data. -/
theorem dropWhile_filling (n : Nat) (data : Bytes) :
    (List.replicate n (0xFF : UInt8) ++ 0 :: data).dropWhile (· == 0xFF) = 0 :: data := by
  induction n with
  | zero => simp
  | succ n ih => simp [List.replicate_succ, ih]

/-- A block is as long as the modulus. -/
theorem length_encode {size : Nat} {data : Bytes} (h : data.length + overhead ≤ size) :
    (encode size data).length = size := by
  simp [encode, overhead] at h ⊢
  omega

/-- The data in a block comes back. -/
theorem decode?_encode {size : Nat} {data : Bytes} (h : data.length + overhead ≤ size) :
    decode? (encode size data) = some data := by
  have hlen : ¬ size - data.length - 3 < leastFilling := by
    simp only [overhead, leastFilling] at *
    omega
  simp only [encode, List.cons_append, decode?, takeWhile_filling, dropWhile_filling,
    List.length_replicate, hlen, if_false]

/-- What is taken of the filling is the filling octet throughout. -/
theorem eq_replicate_takeWhile (bytes : Bytes) :
    bytes.takeWhile (· == 0xFF) = List.replicate (bytes.takeWhile (· == 0xFF)).length 0xFF := by
  apply List.eq_replicate_of_mem
  intro b hb
  induction bytes with
  | nil => simp at hb
  | cons c rest ih =>
      rw [List.takeWhile_cons] at hb
      split at hb
      · rename_i hc
        rcases List.mem_cons.mp hb with rfl | hmem
        · simpa using hc
        · exact ih hmem
      · simp at hb

/-- A block that is accepted is the block of its data. -/
theorem eq_encode_of_decode? {block data : Bytes} (h : decode? block = some data) :
    data.length + overhead ≤ block.length ∧ block = encode block.length data := by
  unfold decode? at h
  split at h
  · rename_i rest
    split at h
    · cases h
    · rename_i hlen
      split at h
      · rename_i tail hdrop
        cases h
        have hsplit := List.takeWhile_append_dropWhile (p := (· == (0xFF : UInt8))) (l := rest)
        rw [hdrop, eq_replicate_takeWhile] at hsplit
        have hlength := congrArg List.length hsplit
        simp only [List.length_append, List.length_replicate, List.length_cons] at hlength
        simp only [leastFilling] at hlen
        refine ⟨by simp only [overhead, List.length_cons]; omega, ?_⟩
        rw [encode, List.cons_append, List.cons_append]
        congr 2
        rw [← hsplit]
        congr 2
        simp only [List.length_cons, List.length_append, List.length_replicate]
        omega
      · cases h
  · cases h

/-- Exactly the blocks of data that fits are accepted. -/
theorem decode?_eq_some_iff {size : Nat} {block data : Bytes} (hsize : block.length = size) :
    decode? block = some data ↔ data.length + overhead ≤ size ∧ block = encode size data := by
  constructor
  · intro h
    have := eq_encode_of_decode? h
    rwa [hsize] at this
  · rintro ⟨hlen, rfl⟩
    exact decode?_encode hlen

end SealedRpc.SignatureBlock
