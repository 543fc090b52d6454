import SealedRpc.Proofs.Codec.RoundTrip
import SealedRpc.Proofs.Signature.Exact

/-!
# What the codec fails with

Putting a message together fails because of the key only. Taking one apart fails because of its
length, because of a block whose padding is wrong, or because the key or the scheme cannot do it at
all. Valid private keys leave signing nothing to fail with but the length of what is signed.

## Main results

* `failsWith_encrypt`, `failsWith_decrypt`, `failsWith_publicDecrypt`: the failures of encryption,
  of decryption and of recovery.
* `Signature.sign_eq_error_iff`: what a valid private key does not sign.
-/

namespace SealedRpc

/-- What each task fails with, work on many items in order fails with. -/
theorem Pool.failsWith_inOrder {ε α β : Type} {P : ε → Prop} {task : Nat → α → Except ε β}
    {items : List α} (htask : ∀ i, ∀ item ∈ items, Except.FailsWith P (task i item)) (start : Nat) :
    Except.FailsWith P (Pool.inOrder task start items) := by
  induction items generalizing start with
  | nil => exact Except.failsWith_ok []
  | cons item rest ih =>
      refine (htask start item List.mem_cons_self).bind fun result _ => ?_
      refine Except.FailsWith.bind ?_ fun results _ => Except.failsWith_ok _
      exact ih (fun i item hitem => htask i item (List.mem_cons_of_mem _ hitem)) _

namespace Codec

variable {P : CodecError → Prop} {coins : Coins} {scheme : Scheme} {message : Bytes} {key : Key}

/-- Encryption fails because the key is too small for the padding, or because it is refused. -/
theorem failsWith_encrypt (pool : Pool) {data : Bytes} (hsize : ∀ cause, P (.keyTooSmall cause))
    (hrefused : ∀ i, P (.encryption i .refused)) :
    Except.FailsWith P (encrypt coins pool data key scheme) := by
  refine Except.FailsWith.bind (Except.FailsWith.mapError fun cause _ => hsize cause)
    fun size _ => ?_
  rw [Pool.map_eq_inOrder]
  refine Except.FailsWith.bind (Pool.failsWith_inOrder (fun i chunk _ => ?_) 0)
    fun blocks _ => Except.failsWith_ok _
  unfold encryptChunk
  split
  · exact Except.failsWith_error (hrefused i)
  · exact Except.failsWith_ok _

/-- A message is refused because of its length only. -/
theorem failsWith_blocks {size : Nat} (hlength : P (.malformedCiphertext size message.length)) :
    Except.FailsWith P (blocks message size) := by
  unfold blocks
  split
  · exact Except.failsWith_error hlength
  · exact Except.failsWith_ok _

/-- Decryption fails because of the length of the message, because there is no private material,
or because of the padding of a block. -/
theorem failsWith_decrypt (pool : Pool) (hlength : P (.malformedCiphertext key.size message.length))
    (hprivate : key.hasPrivate = false → P (.decryption .noPrivateMaterial))
    (hpadding : ∀ i, P (.decryption (.badPadding scheme i))) :
    Except.FailsWith P (decrypt coins pool message key scheme) := by
  refine (failsWith_blocks hlength).bind fun parts _ => ?_
  split
  · rename_i hnone
    refine Except.failsWith_error (hprivate ?_)
    rw [Key.hasPrivate, hnone]
    rfl
  · rw [Pool.map_eq_inOrder]
    refine Except.FailsWith.bind (Pool.failsWith_inOrder (fun i block _ => ?_) 0)
      fun data _ => Except.failsWith_ok _
    unfold decryptBlock
    split
    · exact Except.failsWith_ok _
    · exact Except.failsWith_error (hpadding i)

/-- Recovery fails because of the length of the message or because of the padding of a block, if
the scheme has it at all. -/
theorem failsWith_publicDecrypt (hscheme : scheme = .pkcs1v15)
    (hlength : P (.malformedCiphertext key.size message.length))
    (hpadding : ∀ i, P (.decryption (.badPadding scheme i))) :
    Except.FailsWith P (publicDecrypt message key scheme) := by
  rw [publicDecrypt, if_neg (not_not.mpr hscheme)]
  refine (failsWith_blocks hlength).bind fun parts _ => ?_
  rw [Pool.map_eq_inOrder]
  refine Except.FailsWith.bind (Pool.failsWith_inOrder (fun i block _ => ?_) 0)
    fun data _ => Except.failsWith_ok _
  unfold recoverBlock
  split
  · exact Except.failsWith_ok _
  · exact Except.failsWith_error (hpadding i)

end Codec

/-- A valid private key does not sign what does not fit into a block, and says how long it was. -/
theorem Signature.sign_eq_error_iff {key : PrivateKey} (hkey : key.Valid) {factor : Nat}
    (hfactor : Nat.Coprime factor key.toPublic.modulus) {data : Bytes} {fault : SigningFault} :
    sign factor data (.ofPrivate key) = .error fault ↔
      key.toPublic.size < data.length + SignatureBlock.overhead ∧
        fault = .tooLong data.length (limit (.ofPrivate key)) := by
  by_cases hfits : data.length + SignatureBlock.overhead ≤ key.toPublic.size
  · have hsigned := (sign_eq_ok_iff hkey hfactor).mpr ⟨hfits, rfl⟩
    simp [hsigned, Nat.not_lt.mpr hfits]
  · simp only [sign_of_not_fits hfits, Except.error.injEq, Nat.lt_of_not_le hfits, true_and]
    exact eq_comm

end SealedRpc
