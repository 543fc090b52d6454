import SealedRpc.Codec.Error
import SealedRpc.Key.PrivateOperation
import SealedRpc.Padding.SignatureBlock

/-!
# Raw signatures

A signature of a buffer itself, with no digest: the private operation on the signature
block of the buffer. Whoever holds the public key recovers the buffer from it. A signature
is checked against its block before it leaves, so that a faulty private key gives none.

## Main results

* `sign_of_public`: a handle without private material signs nothing.
* `verify_publicOnly`: verification needs the public view only.
-/

namespace SealedRpc.Signature

/-- The longest buffer that a key signs; negative for a key that signs none. -/
def limit (key : Key) : Int :=
  (key.size : Int) - SignatureBlock.overhead

/-- Signs a buffer, blinded by `factor`. -/
def sign (factor : Nat) (data : Bytes) (key : Key) : Except SigningFault Bytes :=
  match key.privateView? with
  | none => .error .noPrivateMaterial
  | some secret =>
      if limit key < data.length then .error (.tooLong data.length (limit key))
      else
        let block := (SignatureBlock.encode key.size data).toNat
        match secret.operate? factor block with
        | none => .error .checkFailed
        | some s =>
            if secret.toPublic.apply s = block then .ok (Bytes.ofNat key.size s)
            else .error .checkFailed

/-- The buffer that a signature block of a public key's size carries. -/
def recover? (signature : Bytes) (key : PublicKey) : Option Bytes :=
  let value := signature.toNat
  if key.modulus ≤ value ∨ key.isRefused then none
  else SignatureBlock.decode? (Bytes.ofNat key.size (key.apply value))

/-- Whether a byte string is the signature of a buffer. -/
def verify (data signature : Bytes) (key : Key) : Bool :=
  signature.length = key.size && recover? signature key.publicView = some data

/-- A handle without private material signs nothing. -/
theorem sign_of_public (factor : Nat) (data : Bytes) (key : PublicKey) :
    sign factor data (.ofPublic key) = .error .noPrivateMaterial := rfl

/-- Verification needs the public view only. -/
theorem verify_publicOnly (data signature : Bytes) (key : Key) :
    verify data signature key.publicOnly = verify data signature key := rfl

end SealedRpc.Signature
