import SealedRpc.Proofs.Codec.Blocks
import SealedRpc.Proofs.Codec.Recovery
import SealedRpc.Proofs.Key.Refused

/-!
# Recovery is exact

A message is recovered exactly if it is a row of signatures, and what is recovered is the row of
what was signed. This goes in both directions because a block of full size is the signature of at
most one buffer. Where recovery fails, it says which block is the first that is no signature; a
message that cannot be cut into blocks is refused before that.

For a key whose public operation is refused nothing is a signature, as far as recovery can tell.

## Main results

* `publicDecrypt_of_not_dvd`, `publicDecrypt_of_dvd`: the length is looked at first, then the blocks
  in order.
* `publicDecrypt_exact`: what is recovered, and which failure is reported otherwise.
* `publicDecrypt_wide`: a key with which nothing is recovered from its own signatures.
-/

namespace SealedRpc

namespace Signature

variable {key : PrivateKey} {factor : Nat}

/-- Whether octets are the signature of a chunk that fits into a block of a private key. -/
def Signs (factor : Nat) (key : PrivateKey) (chunk block : Bytes) : Prop :=
  chunk.length ≤ key.toPublic.size - SignatureBlock.overhead ∧
    sign factor chunk (.ofPrivate key) = .ok block

/-- What signs a chunk is the signature of the chunk. -/
theorem signs_iff (hkey : key.Valid) (hsize : SignatureBlock.overhead ≤ key.toPublic.size)
    (hfactor : Nat.Coprime factor key.toPublic.modulus) {chunk block : Bytes} :
    Signs factor key chunk block ↔
      chunk.length + SignatureBlock.overhead ≤ key.toPublic.size ∧ block = octets key chunk := by
  rw [Signs, sign_eq_ok_iff hkey hfactor, Nat.le_sub_iff_add_le hsize]
  exact and_self_left

/-- A block of full size carries a chunk exactly if it signs the chunk. -/
theorem recover?_eq_some_iff_signs (hkey : key.Valid)
    (hsize : SignatureBlock.overhead ≤ key.toPublic.size)
    (hrefused : key.toPublic.isRefused = false)
    (hfactor : Nat.Coprime factor key.toPublic.modulus) {chunk block : Bytes}
    (hlength : block.length = key.toPublic.size) :
    recover? block key.toPublic = some chunk ↔ Signs factor key chunk block :=
  (recover?_eq_some_iff_octets hkey hrefused hlength).trans (signs_iff hkey hsize hfactor).symm

end Signature

namespace Codec

open Signature (Signs)

variable {key : PrivateKey} {factor : Nat} {message : Bytes}

/-- A row of signatures has blocks of full size. -/
theorem length_of_signs (hkey : key.Valid) (hsize : SignatureBlock.overhead ≤ key.toPublic.size)
    (hfactor : Nat.Coprime factor key.toPublic.modulus) {chunks signatures : List Bytes}
    (h : List.Forall₂ (Signs factor key) chunks signatures) :
    ∀ block ∈ signatures, block.length = key.toPublic.size := by
  induction h with
  | nil => simp
  | cons hsigns _ ih =>
      obtain ⟨-, rfl⟩ := (Signature.signs_iff hkey hsize hfactor).mp hsigns
      intro block hblock
      rcases List.mem_cons.mp hblock with rfl | hblock
      · exact Signature.length_octets key _
      · exact ih block hblock

/-! ### Blocks -/

/-- A chunk is recovered from a block exactly if the block carries it. -/
theorem recoverBlock_eq_ok_iff {key : PublicKey} {scheme : Scheme} {i : Nat}
    {block chunk : Bytes} :
    recoverBlock key scheme i block = .ok chunk ↔ Signature.recover? block key = some chunk := by
  unfold recoverBlock
  cases Signature.recover? block key <;> simp

/-- Recovery fails on a block that carries nothing, and says where it is. -/
theorem recoverBlock_eq_error_iff {key : PublicKey} {scheme : Scheme} {i : Nat} {block : Bytes}
    {e : CodecError} : recoverBlock key scheme i block = .error e ↔
      Signature.recover? block key = none ∧ e = .decryption (.badPadding scheme i) := by
  unfold recoverBlock
  cases Signature.recover? block key <;> simp [eq_comm]

/-- A message that can be cut is recovered block by block. -/
theorem publicDecrypt_of_dvd {key : Key} (h : key.size ∣ message.length) :
    publicDecrypt message key .pkcs1v15
      = (Pool.inOrder (recoverBlock key.publicView .pkcs1v15) 0
          (Bytes.pieces key.size message)).map List.flatten := by
  rw [publicDecrypt, if_neg (by simp), blocks,
    if_neg (not_not.mpr (Nat.mod_eq_zero_of_dvd h))]
  simp only [bind, Except.bind, Pool.map_eq_inOrder]
  rfl

/-- A message that cannot be cut is refused for its length. -/
theorem publicDecrypt_of_not_dvd {key : Key} (h : ¬ key.size ∣ message.length) :
    publicDecrypt message key .pkcs1v15
      = .error (.malformedCiphertext key.size message.length) := by
  rw [publicDecrypt, if_neg (by simp), blocks,
    if_pos fun hmod => h (Nat.dvd_of_mod_eq_zero hmod)]
  rfl

/-- Recovery of a message that can be cut fails at the first block that carries nothing. -/
theorem publicDecrypt_eq_error_iff {key : Key} (hsize : 0 < key.size)
    (hdvd : key.size ∣ message.length) {e : CodecError} :
    publicDecrypt message key .pkcs1v15 = .error e ↔
      ∃ i, IsLeast {i | key.size * i < message.length ∧
          Signature.recover? (blockAt key.size message i) key.publicView = none} i ∧
        e = .decryption (.badPadding .pkcs1v15 i) := by
  rw [publicDecrypt_of_dvd hdvd, Except.map_eq_error_iff]
  have htask : ∀ i block e, recoverBlock key.publicView .pkcs1v15 i block = .error e ↔
      Signature.recover? block key.publicView = none ∧ e = .decryption (.badPadding .pkcs1v15 i) :=
    fun _ _ _ => recoverBlock_eq_error_iff
  exact inOrder_pieces_eq_error_iff hsize fun i block _ => htask i block

/-- Recovery of a message that can be cut succeeds exactly if the message is a row of
signatures, with what was signed. -/
theorem publicDecrypt_eq_ok_iff_signs (hkey : key.Valid)
    (hsize : SignatureBlock.overhead ≤ key.toPublic.size)
    (hrefused : key.toPublic.isRefused = false)
    (hfactor : Nat.Coprime factor key.toPublic.modulus)
    (hdvd : key.toPublic.size ∣ message.length) {data : Bytes} :
    publicDecrypt message (Key.ofPrivate key).publicOnly .pkcs1v15 = .ok data ↔
      ∃ chunks signatures, List.Forall₂ (Signs factor key) chunks signatures ∧
        message = signatures.flatten ∧ data = chunks.flatten := by
  have hpos : 0 < key.toPublic.size := Nat.lt_of_lt_of_le (by decide) hsize
  have hcarries : ∀ i, ∀ block ∈ Bytes.pieces key.toPublic.size message, ∀ chunk,
      recoverBlock key.toPublic .pkcs1v15 i block = .ok chunk ↔ Signs factor key chunk block := by
    intro i block hblock chunk
    have hlength := length_eq_of_mem_pieces hpos hdvd hblock
    exact recoverBlock_eq_ok_iff.trans
      (Signature.recover?_eq_some_iff_signs hkey hsize hrefused hfactor hlength)
  have hrow : ∀ chunks, Pool.inOrder (recoverBlock key.toPublic .pkcs1v15) 0
        (Bytes.pieces key.toPublic.size message) = .ok chunks ↔
      List.Forall₂ (Signs factor key) chunks (Bytes.pieces key.toPublic.size message) :=
    fun chunks => (Pool.inOrder_eq_ok_iff hcarries).trans
      ⟨List.Forall₂.flip, List.Forall₂.flip⟩
  rw [publicDecrypt_of_dvd hdvd, Except.map_eq_ok_iff]
  constructor
  · rintro ⟨chunks, hchunks, rfl⟩
    exact ⟨chunks, _, (hrow chunks).mp hchunks, (Bytes.flatten_pieces hpos message).symm, rfl⟩
  · rintro ⟨chunks, signatures, hsigns, rfl, rfl⟩
    refine ⟨chunks, (hrow chunks).mpr ?_, rfl⟩
    rwa [Bytes.pieces_flatten hpos (length_of_signs hkey hsize hfactor hsigns)]

/-- Recovery of a message that can be cut fails at the first block that is no signature. -/
theorem publicDecrypt_eq_error_iff_signs (hkey : key.Valid)
    (hsize : SignatureBlock.overhead ≤ key.toPublic.size)
    (hrefused : key.toPublic.isRefused = false)
    (hfactor : Nat.Coprime factor key.toPublic.modulus)
    (hdvd : key.toPublic.size ∣ message.length) {e : CodecError} :
    publicDecrypt message (Key.ofPrivate key).publicOnly .pkcs1v15 = .error e ↔
      ∃ i, IsLeast {i | key.toPublic.size * i < message.length ∧
          ¬ ∃ chunk, Signs factor key chunk (blockAt key.toPublic.size message i)} i ∧
        e = .decryption (.badPadding .pkcs1v15 i) := by
  have hpos : 0 < (Key.ofPrivate key).publicOnly.size := Nat.lt_of_lt_of_le (by decide) hsize
  have hsame : {i | key.toPublic.size * i < message.length ∧
        Signature.recover? (blockAt key.toPublic.size message i) key.toPublic = none}
      = {i | key.toPublic.size * i < message.length ∧
        ¬ ∃ chunk, Signs factor key chunk (blockAt key.toPublic.size message i)} := by
    ext i
    refine and_congr_right fun hlt => ?_
    have hlength := length_blockAt hdvd hlt
    rw [Option.eq_none_iff_forall_ne_some, not_exists]
    exact forall_congr' fun chunk => not_congr
      (Signature.recover?_eq_some_iff_signs hkey hsize hrefused hfactor hlength)
  rw [← hsame]
  exact publicDecrypt_eq_error_iff hpos hdvd

/-- With a refused key only the empty message is recovered. Any other that can be cut fails at
its first block. -/
theorem publicDecrypt_of_refused {key : Key} (hrefused : key.publicView.isRefused = true)
    (hsize : 0 < key.size) (hdvd : key.size ∣ message.length) :
    publicDecrypt message key .pkcs1v15
      = if message = [] then .ok [] else .error (.decryption (.badPadding .pkcs1v15 0)) := by
  rw [publicDecrypt_of_dvd hdvd]
  split
  · rename_i hempty
    rw [hempty, Bytes.pieces_nil]
    rfl
  · rename_i hmessage
    rw [Bytes.pieces_of_ne_nil hsize hmessage, Pool.inOrder_cons, recoverBlock,
      Signature.recover?_of_refused hrefused]
    rfl

/-! ### Whole messages -/

/-- **Recovery is exact.** Under a valid key whose modulus has room for a block, and for which
recovery is not refused, a message is recovered exactly if it is a row of signatures of chunks
that fit, and it is recovered to these chunks. Otherwise it is refused for its length exactly if
that is no multiple of the size, and else recovery fails at the first block that is no signature.
If recovery is refused for the key, this holds with no block for a signature.

A key that is longer than the padding encrypts data of any length to as many blocks as there are
chunks, and what it encrypts is recovered unless recovery is refused. -/
theorem publicDecrypt_exact (hkey : key.Valid)
    (hsize : SignatureBlock.overhead ≤ key.toPublic.size)
    (hfactor : Nat.Coprime factor key.toPublic.modulus) :
    (key.toPublic.isRefused = false → ∀ message,
      (∀ data, publicDecrypt message (Key.ofPrivate key).publicOnly .pkcs1v15 = .ok data ↔
        key.toPublic.size ∣ message.length ∧ ∃ chunks signatures,
          List.Forall₂ (Signs factor key) chunks signatures ∧
            message = signatures.flatten ∧ data = chunks.flatten) ∧
      ∀ e, publicDecrypt message (Key.ofPrivate key).publicOnly .pkcs1v15 = .error e ↔
        (¬ key.toPublic.size ∣ message.length ∧
          e = .malformedCiphertext key.toPublic.size message.length) ∨
        (key.toPublic.size ∣ message.length ∧ ∃ i,
          IsLeast {i | key.toPublic.size * i < message.length ∧
            ¬ ∃ chunk, Signs factor key chunk (blockAt key.toPublic.size message i)} i ∧
          e = .decryption (.badPadding .pkcs1v15 i))) ∧
    (key.toPublic.isRefused = true → ∀ message,
      (∀ data, publicDecrypt message (Key.ofPrivate key).publicOnly .pkcs1v15 = .ok data ↔
        message = [] ∧ data = []) ∧
      ∀ e, publicDecrypt message (Key.ofPrivate key).publicOnly .pkcs1v15 = .error e ↔
        (¬ key.toPublic.size ∣ message.length ∧
          e = .malformedCiphertext key.toPublic.size message.length) ∨
        (key.toPublic.size ∣ message.length ∧ message ≠ [] ∧
          e = .decryption (.badPadding .pkcs1v15 0))) ∧
    (SignatureBlock.overhead < key.toPublic.size → ∀ coins : Coins, coins.Blinds key.toPublic →
      ∀ data, ∃ message, privateEncrypt coins data (.ofPrivate key) .pkcs1v15 = .ok message ∧
        message.length = key.toPublic.size
          * (data.length ⌈/⌉ (key.toPublic.size - SignatureBlock.overhead)) ∧
        (key.toPublic.isRefused = false →
          publicDecrypt message (Key.ofPrivate key).publicOnly .pkcs1v15 = .ok data)) := by
  have hpos : 0 < (Key.ofPrivate key).publicOnly.size := Nat.lt_of_lt_of_le (by decide) hsize
  have hmalformed : ∀ message : Bytes, ¬ key.toPublic.size ∣ message.length →
      publicDecrypt message (Key.ofPrivate key).publicOnly .pkcs1v15
        = .error (.malformedCiphertext key.toPublic.size message.length) :=
    fun message hdvd => publicDecrypt_of_not_dvd hdvd
  refine ⟨fun hrefused message => ?_, fun hrefused message => ?_, fun hroom coins hcoins data => ?_⟩
  · by_cases hdvd : key.toPublic.size ∣ message.length
    · refine ⟨fun data => ?_, fun e => ?_⟩
      · rw [publicDecrypt_eq_ok_iff_signs hkey hsize hrefused hfactor hdvd, and_iff_right hdvd]
      · rw [publicDecrypt_eq_error_iff_signs hkey hsize hrefused hfactor hdvd, and_iff_right hdvd,
          or_iff_right fun h => h.1 hdvd]
    · simp [hmalformed message hdvd, hdvd, eq_comm]
  · by_cases hdvd : key.toPublic.size ∣ message.length
    · have hends : publicDecrypt message (Key.ofPrivate key).publicOnly .pkcs1v15
          = if message = [] then .ok [] else .error (.decryption (.badPadding .pkcs1v15 0)) :=
        publicDecrypt_of_refused hrefused hpos hdvd
      simp only [hends]
      by_cases hempty : message = [] <;> simp [hempty, hdvd, eq_comm]
    · have hne : message ≠ [] := by
        rintro rfl
        exact hdvd (dvd_zero _)
      simp [hmalformed message hdvd, hdvd, hne, eq_comm]
  · refine ⟨_, privateEncrypt_eq hkey hroom hcoins data, length_signedMessage hroom data, ?_⟩
    exact fun hrefused => publicDecrypt_signedMessage hkey hroom hrefused data

/-- Two signatures under a key of fourteen octets, a block of zeros after a signature, and four
octets, which make two blocks. -/
theorem publicDecrypt_exact_sample :
    SignatureBlock.overhead ≤ PrivateKey.sample.toPublic.size ∧
    PrivateKey.sample.toPublic.isRefused = false ∧
    publicDecrypt (Signature.octets .sample [0xFF, 0, 7] ++ Signature.octets .sample [])
        (Key.ofPrivate .sample).publicOnly .pkcs1v15 = .ok [0xFF, 0, 7] ∧
    publicDecrypt (Signature.octets .sample [9] ++ List.replicate 14 0)
        (Key.ofPrivate .sample).publicOnly .pkcs1v15
      = .error (.decryption (.badPadding .pkcs1v15 1)) ∧
    ∃ message, privateEncrypt .constant [1, 2, 3, 4] (.ofPrivate .sample) .pkcs1v15 = .ok message ∧
      message.length = 28 ∧
      publicDecrypt message (Key.ofPrivate .sample).publicOnly .pkcs1v15 = .ok [1, 2, 3, 4] := by
  have hvalid := PrivateKey.valid_sample
  have hsize : PrivateKey.sample.toPublic.size = 14 := by decide +kernel
  have hroom : SignatureBlock.overhead < PrivateKey.sample.toPublic.size := by
    rw [hsize]
    decide
  have hrefused : PrivateKey.sample.toPublic.isRefused = false := by decide +kernel
  have hblinds := Coins.blinds_constant hvalid.odd_modulus
  have hlength : ∀ chunk, (Signature.octets .sample chunk).length = 14 := fun chunk =>
    (Signature.length_octets .sample chunk).trans hsize
  have hsigns : ∀ chunk : Bytes, chunk.length ≤ 3 →
      Signs 2 .sample chunk (Signature.octets .sample chunk) := by
    intro chunk hchunk
    refine (Signature.signs_iff hvalid hroom.le (hblinds 0)).mpr ⟨?_, rfl⟩
    rw [hsize, SignatureBlock.overhead]
    omega
  obtain ⟨hexact, -, hencrypt⟩ := publicDecrypt_exact hvalid hroom.le (hblinds 0)
  refine ⟨hroom.le, hrefused, ?_, ?_, ?_⟩
  · refine ((hexact hrefused _).1 _).mpr ⟨?_, [[0xFF, 0, 7], []],
      [Signature.octets .sample [0xFF, 0, 7], Signature.octets .sample []], ?_, by simp, rfl⟩
    · rw [List.length_append, hlength, hlength, hsize]
      decide
    · exact .cons (hsigns _ (by decide)) (.cons (hsigns _ (by decide)) .nil)
  · have hzeros : ¬ ∃ chunk, Signs 2 .sample chunk (List.replicate 14 0) := by
      rintro ⟨chunk, hchunk⟩
      have hcarried := (Signature.recover?_eq_some_iff_signs hvalid hroom.le hrefused (hblinds 0)
        (hsize ▸ List.length_replicate)).mpr hchunk
      have hnone : Signature.recover? (List.replicate 14 0) PrivateKey.sample.toPublic = none := by
        decide +kernel
      cases hnone.symm.trans hcarried
    refine ((hexact hrefused _).2 _).mpr (Or.inr ⟨?_, 1, ⟨⟨?_, ?_⟩, ?_⟩, rfl⟩)
    · rw [List.length_append, hlength, List.length_replicate, hsize]
      decide
    · rw [List.length_append, hlength, List.length_replicate, hsize]
      decide
    · rw [hsize, blockAt, List.drop_left' (hlength [9])]
      exact hzeros
    · rintro i ⟨-, hi⟩
      refine Nat.pos_of_ne_zero ?_
      rintro rfl
      rw [hsize, blockAt, Nat.mul_zero, List.drop_zero, List.take_left' (hlength [9])] at hi
      exact hi ⟨_, hsigns [9] (by decide)⟩
  · obtain ⟨message, hmessage, hblocks, hdecrypt⟩ := hencrypt hroom .constant hblinds [1, 2, 3, 4]
    refine ⟨message, hmessage, ?_, hdecrypt hrefused⟩
    rw [hsize] at hblocks
    exact hblocks

/-- A valid key of 417 octets with which nothing is recovered: it signs an octet, and the message
that is made of this signature is not recovered. -/
theorem publicDecrypt_wide : PrivateKey.Valid .wide ∧
    SignatureBlock.overhead ≤ PrivateKey.wide.toPublic.size ∧
    Signature.sign 2 [1] (.ofPrivate .wide) = .ok (Signature.octets .wide [1]) ∧
    publicDecrypt (Signature.octets .wide [1]) (Key.ofPrivate .wide).publicOnly .pkcs1v15
      = .error (.decryption (.badPadding .pkcs1v15 0)) := by
  have hvalid := PrivateKey.valid_wide
  have hroom : SignatureBlock.overhead ≤ PrivateKey.wide.toPublic.size := by
    rw [PrivateKey.size_wide]
    decide
  have hlength := Signature.length_octets .wide [1]
  have hsigned : Signature.sign 2 [1] (.ofPrivate .wide) = .ok (Signature.octets .wide [1]) := by
    refine (Signature.sign_eq_ok_iff hvalid (Coins.blinds_constant hvalid.odd_modulus 0)).mpr
      ⟨?_, rfl⟩
    rw [PrivateKey.size_wide]
    decide
  have hne : Signature.octets .wide [1] ≠ [] := by
    refine List.ne_nil_of_length_pos ?_
    rw [hlength, PrivateKey.size_wide]
    decide
  have hrefused : (Key.ofPrivate .wide).publicOnly.publicView.isRefused = true :=
    PrivateKey.isRefused_wide
  have hpos : 0 < (Key.ofPrivate .wide).publicOnly.size := Nat.lt_of_lt_of_le (by decide) hroom
  refine ⟨hvalid, hroom, hsigned, ?_⟩
  rw [publicDecrypt_of_refused hrefused hpos (dvd_of_eq hlength.symm), if_neg hne]

end Codec

end SealedRpc
