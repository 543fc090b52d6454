import SealedRpc.Codec.Error
import SealedRpc.Codec.Workers
import SealedRpc.Padding.EncryptionBlock
import SealedRpc.Padding.Oaep
import SealedRpc.Signature

/-!
# The chunked codec

Data of any length is cut into chunks that fit into one block each. Every chunk is padded
and encrypted on its own, and the blocks, each as long as the modulus, follow one another
in the order of the chunks. No data gives an empty message.

Public encryption is undone by private decryption; private encryption, which signs each
chunk, is undone by public decryption.
-/

namespace SealedRpc

/-- The random choices of an operation, for each chunk. -/
structure Coins where
  /-- The octets that fill an encryption block. -/
  filling : Nat → Nat → EncryptionBlock.NonzeroByte
  /-- The seed of a masked block. -/
  seed : Nat → Oaep.Seed
  /-- The factor that blinds a private operation. -/
  factor : Nat → Nat

namespace Codec

/-- What cutting data into chunks of no length says. -/
def chunkSizeMessage : String := "chunk size must be > 0"

/-- Consecutive chunks of at most `size` octets, if there can be any. -/
def chunks? (data : Bytes) (size : Int) : Option (List Bytes) :=
  if size ≤ 0 then none else some (Bytes.pieces size.toNat data)

/-- The block that public encryption of a chunk works on. -/
def padBlock (coins : Coins) (scheme : Scheme) (size index : Nat) (chunk : Bytes) : Bytes :=
  match scheme with
  | .pkcs1v15 => EncryptionBlock.encode (coins.filling index) size chunk
  | .oaepSha256 => Oaep.encode (coins.seed index) size chunk

/-- Encrypts one chunk. -/
def encryptChunk (coins : Coins) (key : PublicKey) (scheme : Scheme) (index : Nat)
    (chunk : Bytes) : Except CodecError Bytes :=
  if key.isRefused then .error (.encryption index .refused)
  else
    let block := padBlock coins scheme key.size index chunk
    .ok (Bytes.ofNat key.size (key.apply block.toNat))

/-- Encrypts data under the public view of a key. -/
def encrypt (coins : Coins) (pool : Pool) (data : Bytes) (key : Key) (scheme : Scheme) :
    Except CodecError Bytes := do
  let size ← (scheme.chunkSize key.size).mapError .keyTooSmall
  let blocks ← pool.map (encryptChunk coins key.publicView scheme) (Bytes.pieces size data)
  return blocks.flatten

/-- The blocks of a message, which are as long as the modulus. -/
def blocks (message : Bytes) (keySize : Nat) : Except CodecError (List Bytes) :=
  if message.length % keySize ≠ 0 then .error (.malformedCiphertext keySize message.length)
  else .ok (Bytes.pieces keySize message)

/-- The block under an encrypted one, if its number is below the modulus. -/
def openBlock? (coins : Coins) (key : PrivateKey) (scheme : Scheme) (index : Nat)
    (block : Bytes) : Option Bytes :=
  let value := block.toNat
  match scheme with
  | .pkcs1v15 =>
      (key.operate? (coins.factor index) value).map (Bytes.ofNat key.toPublic.size)
  | .oaepSha256 =>
      if key.toPublic.modulus ≤ value then none
      else some (Bytes.ofNat key.toPublic.size
        (Number.powMod key.toPublic.modulus value key.exponent))

/-- The data in a block. -/
def unpadBlock? (scheme : Scheme) (block : Bytes) : Option Bytes :=
  match scheme with
  | .pkcs1v15 => EncryptionBlock.decode? block
  | .oaepSha256 => Oaep.decode? block

/-- Decrypts one block. -/
def decryptBlock (coins : Coins) (key : PrivateKey) (scheme : Scheme) (index : Nat)
    (block : Bytes) : Except CodecError Bytes :=
  match (openBlock? coins key scheme index block).bind (unpadBlock? scheme) with
  | some data => .ok data
  | none => .error (.decryption (.badPadding scheme index))

/-- Decrypts a message with the private view of a key. The length of the message is
looked at first. -/
def decrypt (coins : Coins) (pool : Pool) (message : Bytes) (key : Key) (scheme : Scheme) :
    Except CodecError Bytes := do
  let parts ← blocks message key.size
  match key.privateView? with
  | none => .error (.decryption .noPrivateMaterial)
  | some secret =>
      let data ← pool.map (decryptBlock coins secret scheme) parts
      return data.flatten

/-- Encrypts one chunk with the private view of a key. -/
def signChunk (coins : Coins) (key : Key) (index : Nat) (chunk : Bytes) :
    Except CodecError Bytes :=
  (Signature.sign (coins.factor index) chunk key).mapError fun fault =>
    .encryption index (.signing fault)

/-- Encrypts data with the private view of a key, so that everyone who has the public view
can read it. Only the older padding has this mode. -/
def privateEncrypt (coins : Coins) (data : Bytes) (key : Key) (scheme : Scheme) :
    Except CodecError Bytes := do
  if scheme ≠ .pkcs1v15 then .error (.unsupported (.privateEncryption scheme))
  let size ← (scheme.chunkSize key.size).mapError .keyTooSmall
  let blocks ← Pool.single.map (signChunk coins key) (Bytes.pieces size data)
  return blocks.flatten

/-- Recovers the chunk in one block. -/
def recoverBlock (key : PublicKey) (scheme : Scheme) (index : Nat) (block : Bytes) :
    Except CodecError Bytes :=
  match Signature.recover? block key with
  | some data => .ok data
  | none => .error (.decryption (.badPadding scheme index))

/-- Undoes private encryption with the public view of a key. -/
def publicDecrypt (message : Bytes) (key : Key) (scheme : Scheme) : Except CodecError Bytes := do
  if scheme ≠ .pkcs1v15 then .error (.unsupported (.publicDecryption scheme))
  let parts ← blocks message key.size
  let data ← Pool.single.map (recoverBlock key.publicView scheme) parts
  return data.flatten

/-- The data that the self-test encrypts. -/
def sample : Bytes := [1, 2, 3]

/-- The key size that deployments use unless they say otherwise, in octets. -/
def defaultKeySize : Nat := 512

/-- Checks that a key has the expected size and turns the sample into one block. -/
def selfTest (coins : Coins) (key : Key) (scheme : Scheme)
    (expected : ExpectedSize) : Except CodecError Unit := do
  if !expected.is key.size then .error (.ofSize expected key.size)
  let message ← encrypt coins .single sample key scheme
  if !expected.is message.length then .error (.ofSize expected message.length)

end Codec

end SealedRpc
