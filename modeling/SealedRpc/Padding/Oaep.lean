import SealedRpc.Digest.Sha256

/-!
# Masked encryption blocks

Optimal asymmetric encryption padding with SHA-256 and an empty label. The data stands
behind a digest and a row of zeros; a random seed masks it, and the masked data in turn
masks the seed.

## Main results

* `length_encode`: a block has the size that was asked for.
-/

namespace SealedRpc.Oaep

/-- A seed is as long as a digest. -/
abbrev Seed := { s : Bytes // s.length = Digest.size }

/-- How many octets of a block are not data. -/
def overhead : Nat := 2 * Digest.size + 2

/-- The digest of the empty label. -/
def labelDigest : Bytes := Digest.sha256 []

/-- The data with the label's digest, zeros and a marker in front. -/
def fill (size : Nat) (data : Bytes) : Bytes :=
  labelDigest ++ List.replicate (size - data.length - overhead) 0 ++ 1 :: data

/-- The block of `size` octets around `data`. -/
def encode (seed : Seed) (size : Nat) (data : Bytes) : Bytes :=
  let filled := fill size data
  let masked := Bytes.xor filled (Digest.mgf1 seed.val filled.length)
  0 :: Bytes.xor seed.val (Digest.mgf1 masked Digest.size) ++ masked

/-- The data of a filled part whose label's digest has been checked. -/
def afterMarker? (rest : Bytes) : Option Bytes :=
  match rest.dropWhile (· == 0) with
  | 1 :: data => some data
  | _ => none

/-- The data in a block. -/
def decode? (block : Bytes) : Option Bytes :=
  if block.length < overhead then none
  else match block with
    | 0 :: rest =>
        let maskedSeed := rest.take Digest.size
        let masked := rest.drop Digest.size
        let seed := Bytes.xor maskedSeed (Digest.mgf1 masked Digest.size)
        let filled := Bytes.xor masked (Digest.mgf1 seed masked.length)
        if filled.take Digest.size = labelDigest then afterMarker? (filled.drop Digest.size)
        else none
    | _ => none

/-- The data block is as long as the modulus leaves room for. -/
theorem length_fill {size : Nat} {data : Bytes} (h : data.length + overhead ≤ size) :
    (fill size data).length = size - 1 - Digest.size := by
  simp [fill, labelDigest, overhead, Digest.size] at h ⊢
  omega

/-- A block is as long as the modulus. -/
theorem length_encode {seed : Seed} {size : Nat} {data : Bytes}
    (h : data.length + overhead ≤ size) : (encode seed size data).length = size := by
  have hseed := seed.property
  simp [encode, Bytes.xor, length_fill h, hseed]
  simp [overhead, Digest.size] at h ⊢
  omega

end SealedRpc.Oaep
