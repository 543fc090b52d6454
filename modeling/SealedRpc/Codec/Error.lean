import SealedRpc.Codec.ExpectedSize
import SealedRpc.Padding.Scheme

/-!
# Failures of encryption and signing

Every way in which the chunked codec and the signer can fail, as data, and the words for
each. A failure that belongs to one chunk carries the index of that chunk.
-/

namespace SealedRpc

/-- Why a buffer is not signed. -/
inductive SigningFault where
  | noPrivateMaterial
  | tooLong (length : Nat) (limit : Int)
  | checkFailed
  | framingNeedsPrivateKey
  deriving DecidableEq, Repr

/-- Why a chunk is not encrypted. -/
inductive EncryptionFault where
  | refused
  | signing (fault : SigningFault)
  deriving DecidableEq, Repr

/-- Why a message is not decrypted. -/
inductive DecryptionFault where
  | noPrivateMaterial
  | responseNeedsPrivateKey
  | badPadding (scheme : Scheme) (chunk : Nat)
  deriving DecidableEq, Repr

/-- What a scheme is not defined for. -/
inductive UnsupportedUse where
  | privateEncryption (scheme : Scheme)
  | publicDecryption (scheme : Scheme)
  | publicRecovery
  deriving DecidableEq, Repr

/-- A failure of the codec or of the signer. -/
inductive CodecError where
  | keyTooSmall (cause : KeyTooSmall)
  | unexpectedKeySize (expected : ExpectedSize) (actual : Nat)
  | sizeNotShown (fault : SizeFault)
  | encryption (chunk : Nat) (fault : EncryptionFault)
  | decryption (fault : DecryptionFault)
  | signing (fault : SigningFault)
  | unsupported (use : UnsupportedUse)
  | malformedCiphertext (keySize actual : Nat)
  deriving DecidableEq, Repr

/-- The words for a signing fault. -/
def SigningFault.message : SigningFault → Text
  | .noPrivateMaterial => "key has no private material; cannot sign"
  | .tooLong length limit =>
      "buffer of " ++ Text.ofNat length ++ " bytes exceeds the " ++ Text.ofInt limit ++
        "-byte raw signing limit"
  | .checkFailed => "signature self-check failed"
  | .framingNeedsPrivateKey => "signed-envelope framing requires the client private key"

/-- The words for an encryption fault. -/
def EncryptionFault.message : EncryptionFault → Text
  | .refused => "Encryption failed"
  | .signing fault => fault.message

/-- A message about one chunk. -/
def ofChunk (chunk : Nat) (message : Text) : Text :=
  "chunk " ++ Text.ofNat chunk ++ ": " ++ message

/-- The words for a decryption fault. -/
def DecryptionFault.message : DecryptionFault → Text
  | .noPrivateMaterial => "key has no private material"
  | .responseNeedsPrivateKey => "response decryption requires the client private key"
  | .badPadding scheme chunk =>
      ofChunk chunk ("padding validation failed (" ++ Text.ofString scheme.name ++ ")")

/-- The chunk that a decryption fault belongs to. -/
def DecryptionFault.chunk? : DecryptionFault → Option Nat
  | .badPadding _ chunk => some chunk
  | _ => none

/-- The words for an unsupported use. -/
def UnsupportedUse.message : UnsupportedUse → Text
  | .privateEncryption scheme => scheme.name ++ " has no private-key encryption mode"
  | .publicDecryption scheme => scheme.name ++ " has no public-key decryption mode"
  | .publicRecovery => "public-recover responses require pkcs1v15"

/-- The words for a key that is too small. -/
def KeyTooSmall.message (cause : KeyTooSmall) : Text :=
  "key size " ++ Text.ofInt cause.keySize ++ " bytes does not exceed padding overhead of " ++
    Text.ofNat cause.overhead ++ " bytes"

/-- The words for a failure. -/
def CodecError.message : CodecError → Text
  | .keyTooSmall cause => cause.message
  | .unexpectedKeySize expected actual =>
      "key is not " ++ (expected.bits.toOption.getD []) ++
        "-bit, encrypted output chunk size returned was " ++ Text.ofNat actual
  | .sizeNotShown fault => fault.message
  | .encryption chunk fault => ofChunk chunk fault.message
  | .decryption fault => fault.message
  | .signing fault => fault.message
  | .unsupported use => use.message
  | .malformedCiphertext keySize actual =>
      "ciphertext length " ++ Text.ofNat actual ++ " is not a multiple of the key size " ++
        Text.ofNat keySize

/-- The failure of a key that has not the expected size. -/
def CodecError.ofSize (expected : ExpectedSize) (actual : Nat) : CodecError :=
  match expected.bits with
  | .ok _ => .unexpectedKeySize expected actual
  | .error fault => .sizeNotShown fault

/-- Whether a failure is one of those that callers expect. -/
def CodecError.isNamed : CodecError → Bool
  | .sizeNotShown _ => false
  | _ => true

end SealedRpc
