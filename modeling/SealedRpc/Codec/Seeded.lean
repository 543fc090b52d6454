import SealedRpc.Codec.Basic

/-!
# Random choices from a seed

All random choices of an operation, stretched from one secret seed. Each choice hashes the
seed together with a number of its own, so that no two choices share a digest.

## Main results

* `two_le_factor`: a factor is never zero or one.
-/

namespace SealedRpc.Coins

/-- What a choice is for. -/
inductive Purpose where
  | filling
  | seed
  | factor
  deriving DecidableEq, Repr

/-- The octet that tells a purpose from the others. -/
def Purpose.mark : Purpose → UInt8
  | .filling => 1
  | .seed => 2
  | .factor => 3

/-- The digest for the choice with some number for a chunk. -/
def choice (secret : Bytes) (purpose : Purpose) (chunk number : Nat) : Bytes :=
  Digest.sha256 (secret ++ purpose.mark :: Bytes.ofNat 8 chunk ++ Bytes.ofNat 8 number)

/-- An octet that is not zero, from any other octet. -/
def nonzero (b : UInt8) : EncryptionBlock.NonzeroByte :=
  if h : b = 0 then ⟨255, by decide⟩ else ⟨b, h⟩

/-- The random choices that a secret seed leads to. -/
def ofSeed (secret : Bytes) : Coins where
  filling chunk i := nonzero ((choice secret .filling chunk i).headD 0)
  seed chunk := ⟨choice secret .seed chunk 0, Digest.length_sha256 _⟩
  factor chunk := (choice secret .factor chunk 0).toNat + 2

/-- A factor is never zero or one. -/
theorem two_le_factor (secret : Bytes) (chunk : Nat) : 2 ≤ (ofSeed secret).factor chunk :=
  Nat.le_add_left 2 _

end SealedRpc.Coins
