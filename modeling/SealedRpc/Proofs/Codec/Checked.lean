import SealedRpc.Proofs.Codec.Exact

/-!
# Only checked signatures are released

A private key may hold wrong numbers for the Chinese remainder theorem, or a private exponent that
belongs to another key. What the private operation then gives is some number, of which nothing is
known but that it is below the modulus. Signing checks it against the block with the public
exponent, and nothing but this check is needed for what leaves: whoever has the public key recovers
the buffer from it, unless recovery is refused for the key.

The bounds that hold the computation together do not depend on the private numbers. A block begins
with a zero, so its number is in range; the result is a remainder, so it fits into the octets of a
block. Hence signing fails in two ways only, for the length of the buffer and by the check.

## Main results

* `Signature.exists_operate?_encode`: the private operation is never refused for a block.
* `Signature.sign_of_operate?`, `Signature.eq_checkFailed_of_sign`: how signing ends.
* `Signature.verify_of_sign`: when a released signature verifies.
* `Codec.privateEncrypt_eq_error_iff`: which messages are not released.
* `Codec.sign_checked`: what is released can be recovered, for single buffers and for messages.
* `Codec.verify_sign_wide`: a key whose signatures pass the check and do not verify.
-/

namespace SealedRpc

namespace Signature

variable {key : PrivateKey} {factor : Nat} {data signature : Bytes}

/-- The private operation gives some number for the block of a buffer, and this number fits into
the octets of a block. -/
theorem exists_operate?_encode (hpos : 0 < key.toPublic.modulus) (factor : Nat)
    (hfits : data.length + SignatureBlock.overhead ≤ key.toPublic.size) :
    ∃ s, key.operate? factor (SignatureBlock.encode key.toPublic.size data).toNat = some s ∧
      s < key.toPublic.modulus := by
  have hrange :
      key.operate? factor (SignatureBlock.encode key.toPublic.size data).toNat ≠ none := by
    have hlt := toNat_encode_lt hpos hfits
    rw [Ne, PrivateKey.operate?_eq_none_iff]
    omega
  obtain ⟨s, hs⟩ := Option.ne_none_iff_exists'.mp hrange
  exact ⟨s, hs, PrivateKey.operate?_lt hpos hs⟩

/-- A buffer that fits is signed if its number passes the check, and not otherwise. -/
theorem sign_of_operate? {s : Nat}
    (hfits : data.length + SignatureBlock.overhead ≤ key.toPublic.size)
    (hs : key.operate? factor (SignatureBlock.encode key.toPublic.size data).toNat = some s) :
    sign factor data (.ofPrivate key)
      = if key.toPublic.apply s = (SignatureBlock.encode key.toPublic.size data).toNat then
          .ok (Bytes.ofNat key.toPublic.size s)
        else .error .checkFailed := by
  have hlimit : ¬ limit (.ofPrivate key) < data.length := limit_lt_iff.not.mpr (not_not.mpr hfits)
  simp only [sign, Key.privateView?, if_neg hlimit]
  rw [show (Key.ofPrivate key).size = key.toPublic.size from rfl, hs]

/-- The check is the only reason not to sign a buffer that fits. -/
theorem eq_checkFailed_of_sign (hpos : 0 < key.toPublic.modulus)
    (hfits : data.length + SignatureBlock.overhead ≤ key.toPublic.size) {fault : SigningFault}
    (h : sign factor data (.ofPrivate key) = .error fault) : fault = .checkFailed := by
  obtain ⟨s, hs, -⟩ := exists_operate?_encode hpos factor hfits
  rw [sign_of_operate? hfits hs] at h
  split at h
  · cases h
  · exact (Except.error.inj h).symm

/-- A signature writes a number below the modulus that passed the check. -/
theorem exists_of_sign (hpos : 0 < key.toPublic.modulus)
    (h : sign factor data (.ofPrivate key) = .ok signature) :
    data.length + SignatureBlock.overhead ≤ key.toPublic.size ∧ ∃ s < key.toPublic.modulus,
      key.toPublic.apply s = (SignatureBlock.encode key.toPublic.size data).toNat ∧
        signature = Bytes.ofNat key.toPublic.size s := by
  by_cases hfits : data.length + SignatureBlock.overhead ≤ key.toPublic.size
  · obtain ⟨s, hs, hlt⟩ := exists_operate?_encode hpos factor hfits
    rw [sign_of_operate? hfits hs] at h
    split at h
    · rename_i hcheck
      exact ⟨hfits, s, hlt, hcheck, (Except.ok.inj h).symm⟩
    · cases h
  · rw [sign_of_not_fits hfits] at h
    cases h

/-- A signature is as long as the modulus. -/
theorem length_of_sign (hpos : 0 < key.toPublic.modulus)
    (h : sign factor data (.ofPrivate key) = .ok signature) :
    signature.length = key.toPublic.size := by
  obtain ⟨-, s, -, -, rfl⟩ := exists_of_sign hpos h
  exact Bytes.length_ofNat _ _

/-- A number that passes the check is all that recovery asks for. -/
theorem recover?_of_sign (hpos : 0 < key.toPublic.modulus)
    (haccepted : key.toPublic.isRefused = false)
    (h : sign factor data (.ofPrivate key) = .ok signature) :
    recover? signature key.toPublic = some data := by
  obtain ⟨hfits, s, hlt, hcheck, rfl⟩ := exists_of_sign hpos h
  have hblock := Bytes.ofNat_toNat (SignatureBlock.encode key.toPublic.size data)
  rw [SignatureBlock.length_encode hfits] at hblock
  rw [recover?_eq_some_iff haccepted, PublicKey.toNat_ofNat_size hlt, hcheck, hblock]
  exact ⟨hlt, hfits, rfl⟩

/-- A signature verifies, unless recovery is refused for the key. -/
theorem verify_of_sign (hpos : 0 < key.toPublic.modulus)
    (h : sign factor data (.ofPrivate key) = .ok signature) :
    verify data signature (Key.ofPrivate key).publicOnly = !key.toPublic.isRefused := by
  cases hrefused : key.toPublic.isRefused with
  | false =>
      exact verify_eq_true_iff.mpr ⟨length_of_sign hpos h, recover?_of_sign hpos hrefused h⟩
  | true =>
      refine Bool.eq_false_iff.mpr fun htrue => ?_
      have hsome := (verify_eq_true_iff.mp htrue).2
      cases (recover?_of_refused hrefused _).symm.trans hsome

end Signature

namespace Codec

variable {coins : Coins} {key : PrivateKey} {data : Bytes}

/-! ### Messages -/

/-- A chunk is not encrypted exactly if its number does not pass the check. -/
theorem signChunk_eq_error_iff (hpos : 0 < key.toPublic.modulus) {i : Nat} {chunk : Bytes}
    (hfits : chunk.length + SignatureBlock.overhead ≤ key.toPublic.size) {e : CodecError} :
    signChunk coins (.ofPrivate key) i chunk = .error e ↔
      Signature.sign (coins.factor i) chunk (.ofPrivate key) = .error .checkFailed ∧
        e = .encryption i (.signing .checkFailed) := by
  rw [signChunk]
  cases hsign : Signature.sign (coins.factor i) chunk (.ofPrivate key) with
  | ok signature => simp
  | error fault =>
      obtain rfl := Signature.eq_checkFailed_of_sign hpos hfits hsign
      simp [eq_comm]

/-- Private encryption fails at the first chunk whose number does not pass the check. -/
theorem privateEncrypt_eq_error_iff (hpos : 0 < key.toPublic.modulus)
    (hroom : SignatureBlock.overhead < key.toPublic.size) {e : CodecError} :
    privateEncrypt coins data (.ofPrivate key) .pkcs1v15 = .error e ↔
      ∃ i, IsLeast {i | (key.toPublic.size - SignatureBlock.overhead) * i < data.length ∧
          Signature.sign (coins.factor i)
            (blockAt (key.toPublic.size - SignatureBlock.overhead) data i) (.ofPrivate key)
              = .error .checkFailed} i ∧
        e = .encryption i (.signing .checkFailed) := by
  rw [privateEncrypt_eq_inOrder hroom data, Except.map_eq_error_iff]
  have htask : ∀ i, ∀ chunk ∈ Bytes.pieces (key.toPublic.size - SignatureBlock.overhead) data,
      ∀ e, signChunk coins (.ofPrivate key) i chunk = .error e ↔
        Signature.sign (coins.factor i) chunk (.ofPrivate key) = .error .checkFailed ∧
          e = .encryption i (.signing .checkFailed) :=
    fun i chunk hchunk e => signChunk_eq_error_iff hpos (fits_of_mem_pieces hroom hchunk)
  exact inOrder_pieces_eq_error_iff (Nat.sub_pos_of_lt hroom) htask

/-- What private encryption gives is a row of blocks, one for each chunk, and from each the chunk is
recovered unless that is refused. -/
theorem exists_of_privateEncrypt (hpos : 0 < key.toPublic.modulus)
    (hroom : SignatureBlock.overhead < key.toPublic.size) {message : Bytes}
    (h : privateEncrypt coins data (.ofPrivate key) .pkcs1v15 = .ok message) :
    ∃ signatures : List Bytes, message = signatures.flatten ∧
      (∀ block ∈ signatures, block.length = key.toPublic.size) ∧
      List.Forall₂ (fun block chunk => key.toPublic.isRefused = false →
          Signature.recover? block key.toPublic = some chunk)
        signatures (Bytes.pieces (key.toPublic.size - SignatureBlock.overhead) data) := by
  rw [privateEncrypt_eq_inOrder hroom data] at h
  obtain ⟨signatures, hsignatures, rfl⟩ := Except.map_eq_ok_iff.mp h
  have hrow : List.Forall₂ (fun chunk block => block.length = key.toPublic.size ∧
        (key.toPublic.isRefused = false → Signature.recover? block key.toPublic = some chunk))
      (Bytes.pieces (key.toPublic.size - SignatureBlock.overhead) data) signatures := by
    refine Pool.forall₂_of_inOrder (fun i chunk _ block hblock => ?_) hsignatures
    have hsign := Except.mapError_eq_ok_iff.mp hblock
    exact ⟨Signature.length_of_sign hpos hsign,
      fun haccepted => Signature.recover?_of_sign hpos haccepted hsign⟩
  exact ⟨signatures, rfl, (List.forall₂_and_left _ _).mp hrow.flip⟩

/-- From what private encryption gives the data is recovered, unless that is refused. -/
theorem publicDecrypt_of_privateEncrypt (hpos : 0 < key.toPublic.modulus)
    (hroom : SignatureBlock.overhead < key.toPublic.size) {message : Bytes}
    (h : privateEncrypt coins data (.ofPrivate key) .pkcs1v15 = .ok message) :
    message.length
        = key.toPublic.size * (data.length ⌈/⌉ (key.toPublic.size - SignatureBlock.overhead)) ∧
      (key.toPublic.isRefused = false →
        publicDecrypt message (Key.ofPrivate key).publicOnly .pkcs1v15 = .ok data) := by
  have hchunk : 0 < key.toPublic.size - SignatureBlock.overhead := Nat.sub_pos_of_lt hroom
  have hsize : 0 < key.toPublic.size := Nat.zero_lt_of_lt hroom
  obtain ⟨signatures, rfl, hlength, hrow⟩ := exists_of_privateEncrypt hpos hroom h
  have htotal := Bytes.length_flatten hlength
  refine ⟨?_, fun haccepted => ?_⟩
  · rw [htotal, hrow.length_eq, Bytes.length_pieces hchunk]
  · have hdvd : (Key.ofPrivate key).publicOnly.size ∣ signatures.flatten.length :=
      Dvd.intro _ htotal.symm
    have hrecovered : Pool.inOrder (recoverBlock key.toPublic .pkcs1v15) 0
        (Bytes.pieces key.toPublic.size signatures.flatten)
          = .ok (Bytes.pieces (key.toPublic.size - SignatureBlock.overhead) data) := by
      have htask : ∀ i, ∀ block ∈ signatures, ∀ chunk,
          recoverBlock key.toPublic .pkcs1v15 i block = .ok chunk ↔
            Signature.recover? block key.toPublic = some chunk :=
        fun _ _ _ _ => recoverBlock_eq_ok_iff
      rw [Bytes.pieces_flatten hsize hlength]
      refine (Pool.inOrder_eq_ok_iff htask).mpr ?_
      exact hrow.imp fun block chunk hrecover => hrecover haccepted
    rw [publicDecrypt_of_dvd hdvd]
    exact Except.map_eq_ok_iff.mpr ⟨_, hrecovered, Bytes.flatten_pieces hchunk data⟩

/-- **Only checked signatures are released.** Let the modulus of a private key not be zero, and let
its other numbers be any, right or wrong. For every buffer that fits, the private operation gives a
number that fits into a block, and signing releases this number if it passes the check and fails if
not. A buffer that does not fit is refused for its length, and signing fails in no other way. What
is released has the length of the modulus, and it verifies unless recovery is refused for the key.

Hence under a key that is longer than the padding, data of any length is either encrypted to a
message from which it is recovered, unless that is refused for the key; or nothing is released, and
the failure names the first chunk whose number does not pass the check. -/
theorem sign_checked (hpos : 0 < key.toPublic.modulus) :
    (∀ (factor : Nat) (data : Bytes),
      (data.length + SignatureBlock.overhead ≤ key.toPublic.size →
        ∃ s, key.operate? factor (SignatureBlock.encode key.toPublic.size data).toNat = some s ∧
          s < 256 ^ key.toPublic.size ∧
          Signature.sign factor data (.ofPrivate key)
            = if key.toPublic.apply s = (SignatureBlock.encode key.toPublic.size data).toNat then
                .ok (Bytes.ofNat key.toPublic.size s)
              else .error .checkFailed) ∧
      (key.toPublic.size < data.length + SignatureBlock.overhead →
        Signature.sign factor data (.ofPrivate key)
          = .error (.tooLong data.length (Signature.limit (.ofPrivate key)))) ∧
      ∀ signature, Signature.sign factor data (.ofPrivate key) = .ok signature →
        signature.length = key.toPublic.size ∧
          Signature.verify data signature (Key.ofPrivate key).publicOnly
            = !key.toPublic.isRefused) ∧
    (SignatureBlock.overhead < key.toPublic.size → ∀ (coins : Coins) (data : Bytes),
      (∃ message, privateEncrypt coins data (.ofPrivate key) .pkcs1v15 = .ok message ∧
        message.length = key.toPublic.size
          * (data.length ⌈/⌉ (key.toPublic.size - SignatureBlock.overhead)) ∧
        (key.toPublic.isRefused = false →
          publicDecrypt message (Key.ofPrivate key).publicOnly .pkcs1v15 = .ok data)) ∨
      ∃ i, IsLeast {i | (key.toPublic.size - SignatureBlock.overhead) * i < data.length ∧
          Signature.sign (coins.factor i)
            (blockAt (key.toPublic.size - SignatureBlock.overhead) data i) (.ofPrivate key)
              = .error .checkFailed} i ∧
        privateEncrypt coins data (.ofPrivate key) .pkcs1v15
          = .error (.encryption i (.signing .checkFailed))) := by
  refine ⟨fun factor data => ⟨fun hfits => ?_, fun hlong => ?_, fun signature hsign => ?_⟩,
    fun hroom coins data => ?_⟩
  · obtain ⟨s, hs, -⟩ := Signature.exists_operate?_encode hpos factor hfits
    exact ⟨s, hs, PrivateKey.lt_of_operate? hpos hs, Signature.sign_of_operate? hfits hs⟩
  · exact Signature.sign_of_not_fits (Nat.not_le.mpr hlong)
  · exact ⟨Signature.length_of_sign hpos hsign, Signature.verify_of_sign hpos hsign⟩
  · cases hends : privateEncrypt coins data (.ofPrivate key) .pkcs1v15 with
    | ok message => exact .inl ⟨message, rfl, publicDecrypt_of_privateEncrypt hpos hroom hends⟩
    | error e =>
        obtain ⟨i, hleast, rfl⟩ := (privateEncrypt_eq_error_iff hpos hroom).mp hends
        exact .inr ⟨i, hleast, rfl⟩

/-- A key of fourteen octets with a wrong inverse of its second factor. -/
def faultyKey : PrivateKey := { PrivateKey.sample with inverseQ := 1 }

/-- With that key nothing is released, neither of a chunk nor of two; with the right one a chunk is
signed, and the signature verifies. -/
theorem sign_checked_faulty : 0 < faultyKey.toPublic.modulus ∧
    Signature.sign 2 [0xFF, 0, 7] (.ofPrivate faultyKey) = .error .checkFailed ∧
    privateEncrypt .constant [0xFF, 0, 7, 9] (.ofPrivate faultyKey) .pkcs1v15
      = .error (.encryption 0 (.signing .checkFailed)) ∧
    ∃ signature, Signature.sign 2 [0xFF, 0, 7] (.ofPrivate .sample) = .ok signature ∧
      Signature.verify [0xFF, 0, 7] signature (Key.ofPrivate .sample).publicOnly = true := by
  have hsize : faultyKey.toPublic.size = 14 := by decide +kernel
  have hpos : 0 < faultyKey.toPublic.modulus := by decide +kernel
  have hsign : Signature.sign 2 [0xFF, 0, 7] (.ofPrivate faultyKey) = .error .checkFailed := by
    decide +kernel
  refine ⟨hpos, hsign, ?_, ?_⟩
  · have hroom : SignatureBlock.overhead < faultyKey.toPublic.size := hsize ▸ by decide
    obtain ⟨message, hmessage, -⟩ | ⟨i, hleast, herror⟩ :=
      (sign_checked hpos).2 hroom .constant [0xFF, 0, 7, 9]
    · have hfails : (privateEncrypt .constant [0xFF, 0, 7, 9] (.ofPrivate faultyKey) .pkcs1v15).isOk
          = false := by decide +kernel
      rw [hmessage] at hfails
      cases hfails
    · obtain rfl : i = 0 := by
        refine Nat.le_zero.mp (hleast.2 ⟨by decide, ?_⟩)
        rw [hsize]
        exact hsign
      exact herror
  · have hvalid := PrivateKey.valid_sample
    have hfits : ([0xFF, 0, 7] : Bytes).length + SignatureBlock.overhead
        ≤ PrivateKey.sample.toPublic.size := by decide +kernel
    have hblinds := Coins.blinds_constant hvalid.odd_modulus
    have hsigned := (Signature.sign_eq_ok_iff hvalid (hblinds 0)).mpr ⟨hfits, rfl⟩
    have hverify := (((sign_checked hvalid.modulus_pos).1 _ _).2.2 _ hsigned).2
    exact ⟨_, hsigned, hverify.trans (by decide +kernel)⟩

/-- A valid key whose signature of an octet passes the check and does not verify, and whose
encryption of the octet is not recovered. -/
theorem verify_sign_wide : PrivateKey.Valid .wide ∧
    ∃ signature, Signature.sign 2 [7] (.ofPrivate .wide) = .ok signature ∧
      Signature.verify [7] signature (Key.ofPrivate .wide).publicOnly = false ∧
      SignatureBlock.overhead < PrivateKey.wide.toPublic.size ∧
      privateEncrypt .constant [7] (.ofPrivate .wide) .pkcs1v15 = .ok signature ∧
      publicDecrypt signature (Key.ofPrivate .wide).publicOnly .pkcs1v15
        = .error (.decryption (.badPadding .pkcs1v15 0)) := by
  have hvalid := PrivateKey.valid_wide
  have hblinds := Coins.blinds_constant hvalid.odd_modulus
  have hroom : SignatureBlock.overhead < PrivateKey.wide.toPublic.size := by
    rw [PrivateKey.size_wide]
    decide
  have hfits : ([7] : Bytes).length + SignatureBlock.overhead ≤ PrivateKey.wide.toPublic.size := by
    rw [PrivateKey.size_wide]
    decide
  have hsigned := (Signature.sign_eq_ok_iff hvalid (hblinds 0)).mpr ⟨hfits, rfl⟩
  have hlength := Signature.length_octets .wide [7]
  refine ⟨hvalid, _, hsigned, ?_, hroom, ?_, ?_⟩
  · rw [Signature.verify_of_sign hvalid.modulus_pos hsigned, PrivateKey.isRefused_wide]
    rfl
  · have hpieces : Bytes.pieces (PrivateKey.wide.toPublic.size - Scheme.pkcs1v15.overhead) [7]
        = [[7]] := by
      rw [PrivateKey.size_wide, Bytes.pieces_of_ne_nil (by decide) (by simp)]
      simp [Bytes.pieces_nil, Scheme.overhead]
    rw [privateEncrypt_eq hvalid hroom hblinds, signedMessage, hpieces]
    simp [Pool.numbered]
  · have hne : Signature.octets .wide [7] ≠ [] := by
      refine List.ne_nil_of_length_pos ?_
      rw [hlength, PrivateKey.size_wide]
      decide
    have hrefused : (Key.ofPrivate .wide).publicOnly.publicView.isRefused = true :=
      PrivateKey.isRefused_wide
    rw [publicDecrypt_of_refused hrefused (Nat.zero_lt_of_lt hroom) (dvd_of_eq hlength.symm),
      if_neg hne]

end Codec

end SealedRpc
