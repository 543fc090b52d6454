import SealedRpc.Proofs.Codec.Decryption

/-!
# What a handle can do

A handle that holds public material only can encrypt and verify. Nothing that asks for private
material succeeds with it, except that private encryption of no data gives no blocks: private
material is asked for once for each chunk, and there is none to ask for. Decryption asks for it
before it looks at the blocks, so there no data makes no difference.

What public material is enough for works on the public view, so private material changes nothing
about it, neither what comes out nor what it fails with.

## Main results

* `privateEncrypt_ofPublic`: private encryption under a public handle, whatever the data is.
* `capabilities_enforced`: all operations under a handle without private material, and the public
  ones under any handle.
* `privateEncrypt_nothing`: no data under a public handle.
-/

namespace SealedRpc.Codec

variable {coins : Coins} {scheme : Scheme} {data : Bytes}

/-- The first chunk of some data stops private encryption under a public handle. -/
theorem inOrder_signChunk_ofPublic (key : PublicKey) {size : Nat} (hsize : 0 < size)
    (hdata : data ≠ []) :
    Pool.inOrder (signChunk coins (.ofPublic key)) 0 (Bytes.pieces size data)
      = .error (.encryption 0 (.signing .noPrivateMaterial)) := by
  rw [Bytes.pieces_of_ne_nil hsize hdata, Pool.inOrder, signChunk, Signature.sign_of_public]
  rfl

/-- Private encryption under a public handle: the scheme is looked at first, then the size of the
key, and private material is missed at the first chunk. -/
theorem privateEncrypt_ofPublic (coins : Coins) (data : Bytes) (key : PublicKey)
    (scheme : Scheme) : privateEncrypt coins data (.ofPublic key) scheme =
      if scheme ≠ .pkcs1v15 then .error (.unsupported (.privateEncryption scheme))
      else if key.size ≤ scheme.overhead then .error (.keyTooSmall ⟨key.size, scheme.overhead⟩)
      else if data = [] then .ok []
      else .error (.encryption 0 (.signing .noPrivateMaterial)) := by
  by_cases hscheme : scheme = .pkcs1v15
  · subst hscheme
    have hsize : (Key.ofPublic key).size = key.size := rfl
    rw [privateEncrypt, hsize, if_neg (not_not.mpr rfl), if_neg (not_not.mpr rfl)]
    by_cases hroom : key.size ≤ Scheme.pkcs1v15.overhead
    · rw [Scheme.chunkSize, if_pos (Int.ofNat_le.mpr hroom), if_pos hroom]
      rfl
    · have hlt : Scheme.pkcs1v15.overhead < key.size := Nat.lt_of_not_le hroom
      rw [chunkSize_natCast hlt, if_neg hroom]
      simp only [Except.mapError_ok, bind, Except.bind, Pool.map_eq_inOrder]
      by_cases hdata : data = []
      · rw [hdata, Bytes.pieces_nil, if_pos rfl]
        rfl
      · rw [inOrder_signChunk_ofPublic key (Nat.sub_pos_of_lt hlt) hdata, if_neg hdata]
  · rw [privateEncrypt, if_pos hscheme, if_pos hscheme]
    rfl

/-- Decryption under a public handle: the length is looked at first, and then private material is
missed, whether there are blocks or not. -/
theorem decrypt_ofPublic (coins : Coins) (pool : Pool) (message : Bytes) (key : PublicKey)
    (scheme : Scheme) : decrypt coins pool message (.ofPublic key) scheme =
      .error (if key.size ∣ message.length then .decryption .noPrivateMaterial
        else .malformedCiphertext key.size message.length) := by
  by_cases hdvd : key.size ∣ message.length
  · rw [if_pos hdvd, decrypt_of_privateView?_none rfl pool hdvd]
  · rw [if_neg hdvd, decrypt_of_not_dvd pool hdvd]
    rfl

/-- **Handles enforce what they can do.** A handle that holds public material only can encrypt and
verify. With it nothing is signed and nothing is decrypted, whatever the octets are. Private
encryption under it succeeds for one input only: no data, under the padding that has this mode and
a key longer than it, which gives no octets. All other data fails, some data for want of private
material at its first chunk.

Under every handle encryption with the same random choices, verification, recovery and the
self-test come to the same, value or failure, as under the handle that holds its public part. -/
theorem capabilities_enforced (key : Key) :
    (key.hasPrivate = false → key.capabilities = [.encrypt, .verify] ∧
      (∀ factor data, Signature.sign factor data key = .error .noPrivateMaterial) ∧
      (∀ coins pool message scheme, decrypt coins pool message key scheme
        = .error (if key.size ∣ message.length then .decryption .noPrivateMaterial
          else .malformedCiphertext key.size message.length)) ∧
      (∀ coins data scheme message, privateEncrypt coins data key scheme = .ok message ↔
        scheme = .pkcs1v15 ∧ scheme.overhead < key.size ∧ data = [] ∧ message = []) ∧
      (∀ coins data, data ≠ [] → Scheme.pkcs1v15.overhead < key.size →
        privateEncrypt coins data key .pkcs1v15
          = .error (.encryption 0 (.signing .noPrivateMaterial)))) ∧
    (∀ coins pool data scheme,
      encrypt coins pool data key scheme = encrypt coins pool data key.publicOnly scheme) ∧
    (∀ data signature,
      Signature.verify data signature key = Signature.verify data signature key.publicOnly) ∧
    (∀ message scheme, publicDecrypt message key scheme
      = publicDecrypt message key.publicOnly scheme) ∧
    ∀ coins scheme expected,
      selfTest coins key scheme expected = selfTest coins key.publicOnly scheme expected := by
  refine ⟨fun hpublic => ?_, fun _ _ _ _ => rfl, fun data signature =>
    (Signature.verify_publicOnly data signature key).symm, fun _ _ => rfl, fun _ _ _ => rfl⟩
  cases key with
  | ofPrivate _ => cases hpublic
  | ofPublic material =>
      have hsize : (Key.ofPublic material).size = material.size := rfl
      refine ⟨rfl, fun factor data => Signature.sign_of_public factor data material,
        fun coins pool message scheme => decrypt_ofPublic coins pool message material scheme,
        fun coins data scheme message => ?_, fun coins data hdata hroom => ?_⟩
      · rw [privateEncrypt_ofPublic, hsize]
        split_ifs with hscheme hroom hdata
        · exact ⟨nofun, fun h => absurd h.1 hscheme⟩
        · exact ⟨nofun, fun h => absurd h.2.1 (Nat.not_lt.mpr hroom)⟩
        · have hfits := Nat.lt_of_not_le hroom
          exact ⟨fun h => ⟨not_not.mp hscheme, hfits, hdata, (Except.ok.inj h).symm⟩,
            fun h => congrArg Except.ok h.2.2.2.symm⟩
        · exact ⟨nofun, fun h => absurd h.2.2.1 hdata⟩
      · rw [hsize] at hroom
        rw [privateEncrypt_ofPublic, if_neg (not_not.mpr rfl), if_neg (Nat.not_le.mpr hroom),
          if_neg hdata]

/-- Under a public handle of fourteen octets private encryption of no data succeeds, while
decryption of no data misses the private material. -/
theorem privateEncrypt_nothing :
    privateEncrypt .constant [] (.ofPublic PrivateKey.sample.toPublic) .pkcs1v15 = .ok [] ∧
      decrypt .constant .single [] (.ofPublic PrivateKey.sample.toPublic) .pkcs1v15
        = .error (.decryption .noPrivateMaterial) := by
  have hroom : ¬ PrivateKey.sample.toPublic.size ≤ Scheme.pkcs1v15.overhead := by decide +kernel
  constructor
  · rw [privateEncrypt_ofPublic, if_neg (not_not.mpr rfl), if_neg hroom, if_pos rfl]
  · exact decrypt_of_privateView?_none rfl .single (Nat.dvd_zero _)

end SealedRpc.Codec
