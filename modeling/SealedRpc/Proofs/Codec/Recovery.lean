import SealedRpc.Proofs.Codec.RoundTrip
import SealedRpc.Proofs.Signature.Exact

/-!
# Private encryption is undone by recovery

Under the older padding data may also be encrypted with the private key, so that everyone who
has the public key can recover it. Each chunk becomes its signature, and a chunk is never
longer than what can be signed. Nothing in the message is random.

## Main results

* `privateEncrypt_eq`: data is encrypted to the signatures of its chunks.
* `length_signedMessage`: there is one signature for each chunk.
* `publicDecrypt_signedMessage`: from these the data is recovered.
-/

namespace SealedRpc.Codec

variable {coins : Coins} {key : PrivateKey}

/-- The message that data is encrypted to by a private key. -/
def signedMessage (key : PrivateKey) (data : Bytes) : Bytes :=
  (Pool.numbered (fun _ => Signature.octets key) 0
    (Bytes.pieces (key.toPublic.size - Scheme.pkcs1v15.overhead) data)).flatten

/-- A chunk is short enough to be signed. -/
theorem fits_of_mem_pieces {size : Nat} (hsize : Scheme.pkcs1v15.overhead < size)
    {data chunk : Bytes} (h : chunk ∈ Bytes.pieces (size - Scheme.pkcs1v15.overhead) data) :
    chunk.length + SignatureBlock.overhead ≤ size := by
  have hle := (Bytes.length_mem_pieces h).2
  have hoverhead : Scheme.pkcs1v15.overhead = SignatureBlock.overhead := rfl
  omega

/-- Private encryption signs the chunks in order. -/
theorem privateEncrypt_eq_inOrder (hsize : Scheme.pkcs1v15.overhead < key.toPublic.size)
    (data : Bytes) :
    privateEncrypt coins data (.ofPrivate key) .pkcs1v15
      = (Pool.inOrder (signChunk coins (.ofPrivate key)) 0
          (Bytes.pieces (key.toPublic.size - Scheme.pkcs1v15.overhead) data)).map List.flatten := by
  have hchunkSize : Scheme.pkcs1v15.chunkSize ((Key.ofPrivate key).size : Int)
      = .ok (key.toPublic.size - Scheme.pkcs1v15.overhead) := chunkSize_natCast hsize
  rw [privateEncrypt, if_neg (by simp), hchunkSize]
  simp only [Except.mapError_ok, bind, Except.bind, Pool.map_eq_inOrder]
  rfl

/-- Data is encrypted to the signatures of its chunks, whatever blinds the operations. -/
theorem privateEncrypt_eq (hkey : key.Valid)
    (hsize : Scheme.pkcs1v15.overhead < key.toPublic.size) (hcoins : coins.Blinds key.toPublic)
    (data : Bytes) :
    privateEncrypt coins data (.ofPrivate key) .pkcs1v15 = .ok (signedMessage key data) := by
  have hsign : ∀ i, ∀ chunk ∈ Bytes.pieces (key.toPublic.size - Scheme.pkcs1v15.overhead) data,
      signChunk coins (.ofPrivate key) i chunk = .ok (Signature.octets key chunk) := by
    intro i chunk hchunk
    refine Except.mapError_eq_ok_iff.mpr ((Signature.sign_eq_ok_iff hkey (hcoins i)).mpr ?_)
    exact ⟨fits_of_mem_pieces hsize hchunk, rfl⟩
  rw [privateEncrypt_eq_inOrder hsize, Pool.inOrder_eq_numbered hsign]
  rfl

/-- A signed message has one signature for each chunk. -/
theorem length_signedMessage (hsize : Scheme.pkcs1v15.overhead < key.toPublic.size)
    (data : Bytes) : (signedMessage key data).length
      = key.toPublic.size
        * (data.length ⌈/⌉ (key.toPublic.size - Scheme.pkcs1v15.overhead)) := by
  rw [signedMessage, Bytes.length_flatten (length_of_mem_numbered fun _ =>
    Signature.length_octets key), Pool.length_numbered,
    Bytes.length_pieces (Nat.sub_pos_of_lt hsize)]

/-- From the signatures of its chunks the data is recovered, unless recovery is refused for
the key. -/
theorem publicDecrypt_signedMessage (hkey : key.Valid)
    (hsize : Scheme.pkcs1v15.overhead < key.toPublic.size)
    (haccepted : key.toPublic.isRefused = false) (data : Bytes) :
    publicDecrypt (signedMessage key data) (Key.ofPrivate key).publicOnly .pkcs1v15
      = .ok data := by
  have hroom : 0 < key.toPublic.size - Scheme.pkcs1v15.overhead := by omega
  have hundo : ∀ i (_ : Nat), ∀ chunk ∈
      Bytes.pieces (key.toPublic.size - Scheme.pkcs1v15.overhead) data,
      recoverBlock key.toPublic .pkcs1v15 i (Signature.octets key chunk) = .ok chunk := by
    intro i _ chunk hchunk
    have hrecover : Signature.recover? (Signature.octets key chunk) key.toPublic = some chunk :=
      (Signature.recover?_eq_some_iff_octets hkey haccepted
        (Signature.length_octets key chunk)).mpr ⟨fits_of_mem_pieces hsize hchunk, rfl⟩
    rw [recoverBlock, hrecover]
  have hparts := blocks_numbered (Nat.zero_lt_of_lt hsize)
    (fun _ => Signature.length_octets key)
    (Bytes.pieces (key.toPublic.size - Scheme.pkcs1v15.overhead) data)
  rw [publicDecrypt, if_neg (by simp), signedMessage]
  simp only [Key.size_publicOnly, Key.publicView_publicOnly, bind, Except.bind, pure, Except.pure,
    Pool.map_eq_inOrder]
  rw [show (Key.ofPrivate key).size = key.toPublic.size from rfl, hparts]
  simp only [show (Key.ofPrivate key).publicView = key.toPublic from rfl, Pool.inOrder_undo hundo,
    Bytes.flatten_pieces hroom]

end SealedRpc.Codec
