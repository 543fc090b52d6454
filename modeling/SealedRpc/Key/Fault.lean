import SealedRpc.Files
import SealedRpc.Key.Der

/-!
# Faults of key files

Why a key cannot be had from a file.
-/

namespace SealedRpc

/-- Why a key file is refused. -/
inductive KeyFault where
  | file (fault : FileFault)
  | passphraseNotUtf8
  | unreadable
  | unknownCurve (identifier : Bytes)
  | needsPassphrase
  | needsNoPassphrase
  | notRsaPrivate
  | notRsaPublic
  | notRsa
  deriving DecidableEq, Repr

/-- The words for a fault. -/
def KeyFault.message : KeyFault → Text
  | .file fault => fault.message
  | .passphraseNotUtf8 => "the passphrase has no UTF-8 form"
  | .unreadable => "the key cannot be read"
  | .unknownCurve identifier => "Curve " ++ Der.dotted identifier ++ " is not supported"
  | .needsPassphrase => "the key is encrypted and no passphrase was given"
  | .needsNoPassphrase => "a passphrase was given and the key is not encrypted"
  | .notRsaPrivate => "not an RSA private key"
  | .notRsaPublic => "not an RSA public key"
  | .notRsa => "AsymmetricKey requires an RSA private or public key"

namespace Key

/-- What was read, or that it cannot be. -/
def readable {α : Type} : Option α → Except KeyFault α
  | some a => .ok a
  | none => .error .unreadable

/-- Something is read exactly if it is there. -/
theorem readable_eq_ok_iff {α : Type} {found : Option α} {a : α} :
    readable found = .ok a ↔ found = some a := by
  cases found <;> simp [readable]

/-- Goes on only if what was read is as it has to be. -/
def require (holds : Bool) : Except KeyFault Unit :=
  if holds then .ok () else .error .unreadable

end Key

end SealedRpc
