import SealedRpc.Bytes
import SealedRpc.Number.Modular
import SealedRpc.Text.Basic

/-!
# RSA keys

Public keys, private keys, and the handles that an application holds: a handle has either
private material or public material only, and that decides what it can do.

## Main results

* `Key.can_iff`: a handle can do everything exactly if it holds private material.
-/

namespace SealedRpc

/-- A public key. -/
structure PublicKey where
  modulus : Nat
  exponent : Nat
  deriving DecidableEq, Repr

namespace PublicKey

/-- The length of the modulus in octets. -/
def size (key : PublicKey) : Nat :=
  (Number.bitLength key.modulus + 7) / 8

/-- The longest modulus, in bits, with which the public operation is done. -/
def longestModulus : Nat := 16384

/-- Whether the public operation is refused for a key: its modulus is even, too long or not
above the exponent, or it is a large modulus with a long exponent. -/
def isRefused (key : PublicKey) : Bool :=
  key.modulus % 2 = 0 || longestModulus < Number.bitLength key.modulus ||
    key.modulus ≤ key.exponent ||
    (3072 < Number.bitLength key.modulus && 64 < Number.bitLength key.exponent)

/-- The public operation on a number. -/
def apply (key : PublicKey) (value : Nat) : Nat :=
  Number.powMod key.modulus value key.exponent

end PublicKey

/-- A private key: the public key, the private exponent, the two factors of the modulus
and what the Chinese remainder theorem needs to put two small powers together. -/
structure PrivateKey where
  toPublic : PublicKey
  exponent : Nat
  p : Nat
  q : Nat
  exponentP : Nat
  exponentQ : Nat
  inverseQ : Nat
  deriving DecidableEq, Repr

namespace PrivateKey

/-- The private key with the factors `p` and `q` and the public exponent `e`, if that
exponent is coprime to `(p - 1) * (q - 1)`. -/
def ofFactors? (p q e : Nat) : Option PrivateKey := do
  let d ← Number.inverse? ((p - 1) * (q - 1)) e
  let i ← Number.inverse? p q
  return ⟨⟨p * q, e⟩, d, p, q, d % (p - 1), d % (q - 1), i⟩

end PrivateKey

/-- What a key handle can be used for. -/
inductive Capability where
  | decrypt
  | encrypt
  | sign
  | verify
  deriving DecidableEq, Repr

namespace Capability

/-- All of them, in the order of their names. -/
def all : List Capability := [.decrypt, .encrypt, .sign, .verify]

/-- The name of a capability. -/
def name : Capability → String
  | .decrypt => "decrypt"
  | .encrypt => "encrypt"
  | .sign => "sign"
  | .verify => "verify"

end Capability

/-- A key handle. -/
inductive Key where
  | ofPrivate (key : PrivateKey)
  | ofPublic (key : PublicKey)
  deriving DecidableEq, Repr

namespace Key

/-- The public view, which every handle has. -/
def publicView : Key → PublicKey
  | .ofPrivate key => key.toPublic
  | .ofPublic key => key

/-- The private view. -/
def privateView? : Key → Option PrivateKey
  | .ofPrivate key => some key
  | .ofPublic _ => none

/-- Whether a handle holds private material. -/
def hasPrivate (key : Key) : Bool :=
  key.privateView?.isSome

/-- The handle that holds the public view only. -/
def publicOnly (key : Key) : Key :=
  .ofPublic key.publicView

/-- The length of the modulus in octets. -/
def size (key : Key) : Nat :=
  key.publicView.size

/-- What a handle can be used for, in the order of the names. -/
def capabilities (key : Key) : List Capability :=
  if key.hasPrivate then Capability.all else [.encrypt, .verify]

/-- Whether a handle can be used for something. -/
def can (key : Key) (capability : Capability) : Bool :=
  key.capabilities.contains capability

/-- The word for the kind of material. -/
def kind (key : Key) : String :=
  if key.hasPrivate then "private" else "public"

/-- How a handle shows in messages: its kind and its size, never its material. -/
def describe (key : Key) : Text :=
  "AsymmetricKey(" ++ key.kind ++ ", key_size=" ++ Text.ofNat key.size ++ ")"

/-- The public view of the public handle is that of the handle. -/
@[simp] theorem publicView_publicOnly (key : Key) : key.publicOnly.publicView = key.publicView :=
  rfl

/-- The public handle has the size of the handle. -/
@[simp] theorem size_publicOnly (key : Key) : key.publicOnly.size = key.size := rfl

/-- A handle can do everything exactly if it holds private material. -/
theorem can_iff (key : Key) : (∀ c, key.can c = true) ↔ key.hasPrivate = true := by
  constructor
  · intro h
    have := h .sign
    unfold can capabilities at this
    split at this
    · assumption
    · simp at this
  · intro h c
    cases c <;> simp [can, capabilities, h, Capability.all]

end Key

end SealedRpc
