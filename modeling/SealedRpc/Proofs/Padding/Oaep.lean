import Mathlib.Tactic.Set
import SealedRpc.Padding.Oaep

/-!
# Masked blocks are read back

A mask that is laid over octets twice leaves them as they were. The reader of a masked
block finds the masked data as it stands, works out the mask of the seed from it, then the
mask of the data from the seed, and so comes back to the filled part.

## Main results

* `Bytes.xor_xor_cancel`: a mask laid on twice does nothing.
* `decode?_encode`: a block is read back as the data it was made of, whatever its seed.
-/

namespace SealedRpc

/-- A mask that is long enough, laid on twice, does nothing. -/
theorem Bytes.xor_xor_cancel {a mask : Bytes} (h : a.length ≤ mask.length) :
    xor (xor a mask) mask = a := by
  induction a generalizing mask with
  | nil => rfl
  | cons x rest ih =>
      cases mask with
      | nil => simp at h
      | cons y others =>
          have hrest : xor (xor rest others) others = rest := ih (by simpa using h)
          simp only [xor, List.zipWith_cons_cons] at hrest ⊢
          rw [hrest, UInt8.xor_assoc, UInt8.xor_self, UInt8.xor_zero]

/-- A mask that is long enough leaves the length as it is. -/
theorem Bytes.length_xor {a mask : Bytes} (h : a.length ≤ mask.length) :
    (xor a mask).length = a.length := by
  rw [xor, List.length_zipWith, Nat.min_eq_left h]

namespace Oaep

/-- The data begins after the zeros and the marker. -/
theorem afterMarker?_zeros (n : Nat) (data : Bytes) :
    afterMarker? (List.replicate n 0 ++ 1 :: data) = some data := by
  have hdrop : (List.replicate n (0 : UInt8) ++ 1 :: data).dropWhile (· == 0) = 1 :: data := by
    induction n with
    | zero => rfl
    | succ n ih => simp
  rw [afterMarker?, hdrop]
  rfl

/-- The digest of the label is a digest. -/
theorem length_labelDigest : labelDigest.length = Digest.size := Digest.length_sha256 []

/-- The filled part begins with the digest of the label. -/
theorem take_fill (size : Nat) (data : Bytes) :
    (fill size data).take Digest.size = labelDigest := by
  rw [fill, List.append_assoc]
  exact List.take_left' length_labelDigest

/-- Behind the digest the data is found. -/
theorem afterMarker?_fill (size : Nat) (data : Bytes) :
    afterMarker? ((fill size data).drop Digest.size) = some data := by
  rw [fill, List.append_assoc, List.drop_left' length_labelDigest]
  exact afterMarker?_zeros _ _

/-- The data in a block comes back, whatever the seed was. -/
theorem decode?_encode {seed : Seed} {size : Nat} {data : Bytes}
    (h : data.length + overhead ≤ size) : decode? (encode seed size data) = some data := by
  have hlength : (encode seed size data).length = size := length_encode h
  set filled := fill size data with hfilled
  set masked := Bytes.xor filled (Digest.mgf1 seed.val filled.length) with hmasked
  have hmask : filled.length ≤ (Digest.mgf1 seed.val filled.length).length :=
    Nat.le_of_eq (Digest.length_mgf1 _ _).symm
  have hmaskedLength : masked.length = filled.length := Bytes.length_xor hmask
  have hseedMask : seed.val.length ≤ (Digest.mgf1 masked Digest.size).length :=
    Nat.le_of_eq (seed.property.trans (Digest.length_mgf1 _ _).symm)
  have hhead : (Bytes.xor seed.val (Digest.mgf1 masked Digest.size)).length = Digest.size :=
    (Bytes.length_xor hseedMask).trans seed.property
  have hblock : encode seed size data
      = 0 :: (Bytes.xor seed.val (Digest.mgf1 masked Digest.size) ++ masked) := rfl
  have hlong : ¬ (encode seed size data).length < overhead := by omega
  rw [hblock] at hlong ⊢
  rw [decode?, if_neg hlong]
  simp only [List.take_left' hhead, List.drop_left' hhead, Bytes.xor_xor_cancel hseedMask,
    hmaskedLength]
  rw [hmasked, Bytes.xor_xor_cancel hmask, hfilled, if_pos (take_fill _ _), afterMarker?_fill]

end Oaep

end SealedRpc
