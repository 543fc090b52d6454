import SealedRpc.Proofs.Key.Permutation
import SealedRpc.Signature

/-!
# Raw signatures are exact

The block of a buffer is determined by the buffer, and a block is read as one buffer only.
The private operation is a permutation, and octets and numbers of one width determine each
other. Put together, a buffer has one signature and a signature belongs to one buffer.

Recovery may be refused for a key as public encryption may. Whatever depends on recovery
being done says so; signing itself does not depend on it.

## Main results

* `sign_eq_ok_iff`: when a buffer is signed, and which octets the signature has.
* `recover?_eq_some_iff`: what a byte string has to be to carry a buffer.
* `verify_exact`: the signature of a buffer, and nothing else, verifies for it.
-/

namespace SealedRpc.Signature

variable {key : PrivateKey} {factor : Nat} {data signature : Bytes}

/-! ### Blocks -/

/-- The number of a block is below the modulus. -/
theorem toNat_encode_lt {key : PublicKey} (hkey : 0 < key.modulus)
    (h : data.length + SignatureBlock.overhead ≤ key.size) :
    (SignatureBlock.encode key.size data).toNat < key.modulus :=
  PublicKey.toNat_lt_modulus hkey (SignatureBlock.length_encode h)

/-- The octets of the signature of a buffer. -/
def octets (key : PrivateKey) (data : Bytes) : Bytes :=
  Bytes.ofNat key.toPublic.size
    ((SignatureBlock.encode key.toPublic.size data).toNat ^ key.exponent % key.toPublic.modulus)

/-- The number of a signature. -/
theorem toNat_octets (hkey : key.Valid) (data : Bytes) : (octets key data).toNat
    = (SignatureBlock.encode key.toPublic.size data).toNat ^ key.exponent
        % key.toPublic.modulus :=
  PublicKey.toNat_ofNat_size (Nat.mod_lt _ hkey.modulus_pos)

/-- A signature is as long as the modulus. -/
theorem length_octets (key : PrivateKey) (data : Bytes) :
    (octets key data).length = key.toPublic.size :=
  Bytes.length_ofNat _ _

/-- The public operation turns the number of a signature back into that of the block. -/
theorem apply_octets (hkey : key.Valid)
    (h : data.length + SignatureBlock.overhead ≤ key.toPublic.size) :
    key.toPublic.apply (octets key data).toNat
      = (SignatureBlock.encode key.toPublic.size data).toNat := by
  rw [toNat_octets hkey, hkey.apply_pow (toNat_encode_lt hkey.modulus_pos h)]

/-! ### Signing -/

/-- The limit on buffers, as an inequality of lengths. -/
theorem limit_lt_iff {key : Key} :
    limit key < data.length ↔ ¬ data.length + SignatureBlock.overhead ≤ key.size := by
  rw [limit]
  omega

/-- A buffer that does not fit is not signed, whatever the key is. -/
theorem sign_of_not_fits (hlong : ¬ data.length + SignatureBlock.overhead ≤ key.toPublic.size) :
    sign factor data (.ofPrivate key)
      = .error (.tooLong data.length (limit (.ofPrivate key))) := by
  have hlimit : limit (.ofPrivate key) < data.length := limit_lt_iff.mpr hlong
  simp only [sign, Key.privateView?, if_pos hlimit]

/-- Exactly the buffers that fit into a block are signed, and the factor does not show in
the signature. -/
theorem sign_eq_ok_iff (hkey : key.Valid) (hfactor : Nat.Coprime factor key.toPublic.modulus) :
    sign factor data (.ofPrivate key) = .ok signature ↔
      data.length + SignatureBlock.overhead ≤ key.toPublic.size ∧ signature = octets key data := by
  simp only [sign, Key.privateView?, limit_lt_iff]
  rw [show (Key.ofPrivate key).size = key.toPublic.size from rfl]
  by_cases h : data.length + SignatureBlock.overhead ≤ key.toPublic.size
  · have hlt := toNat_encode_lt hkey.modulus_pos h
    simp only [h, not_true_eq_false, if_false, hkey.operate?_eq hfactor hlt, hkey.apply_pow hlt,
      if_true, true_and, Except.ok.injEq]
    exact eq_comm
  · simp [h]

/-! ### Recovery -/

/-- A byte string carries a buffer exactly if its number is below the modulus and the public
operation turns it into the block of the buffer. -/
theorem recover?_eq_some_iff {key : PublicKey} (hrefused : key.isRefused = false) :
    recover? signature key = some data ↔
      signature.toNat < key.modulus ∧ data.length + SignatureBlock.overhead ≤ key.size ∧
        Bytes.ofNat key.size (key.apply signature.toNat) = SignatureBlock.encode key.size data := by
  rw [recover?]
  simp only [hrefused, Bool.false_eq_true, or_false]
  by_cases h : key.modulus ≤ signature.toNat
  · simp only [h, if_true, reduceCtorEq, Nat.not_lt.mpr h, false_and]
  · rw [if_neg h, SignatureBlock.decode?_eq_some_iff (Bytes.length_ofNat _ _)]
    simp only [Nat.lt_of_not_le h, true_and]

/-- What is refused carries nothing. -/
theorem recover?_of_refused {key : PublicKey} (h : key.isRefused = true) (signature : Bytes) :
    recover? signature key = none := by
  simp [recover?, h]

/-- A byte string of the length of the modulus carries a buffer exactly if it is the
signature of that buffer. -/
theorem recover?_eq_some_iff_octets (hkey : key.Valid)
    (hrefused : key.toPublic.isRefused = false) (hlength : signature.length = key.toPublic.size) :
    recover? signature key.toPublic = some data ↔
      data.length + SignatureBlock.overhead ≤ key.toPublic.size ∧ signature = octets key data := by
  rw [recover?_eq_some_iff hrefused]
  constructor
  · rintro ⟨hlt, hfits, hblock⟩
    refine ⟨hfits, Bytes.toNat_inj (hlength.trans (length_octets key data).symm) ?_⟩
    have happly := PublicKey.apply_lt hkey.modulus_pos signature.toNat
    rw [toNat_octets hkey, ← hblock, PublicKey.toNat_ofNat_size happly, hkey.pow_apply hlt]
  · rintro ⟨hfits, rfl⟩
    refine ⟨?_, hfits, ?_⟩
    · rw [toNat_octets hkey]
      exact Nat.mod_lt _ hkey.modulus_pos
    · have hblock := Bytes.ofNat_toNat (SignatureBlock.encode key.toPublic.size data)
      rw [SignatureBlock.length_encode hfits] at hblock
      rw [apply_octets hkey hfits, hblock]

/-! ### Verification -/

/-- What verifies is as long as the modulus and carries the buffer. -/
theorem verify_eq_true_iff {key : Key} : verify data signature key = true ↔
    signature.length = key.size ∧ recover? signature key.publicView = some data := by
  simp [verify]

/-- What verifies for a buffer is the signature of the buffer. -/
theorem eq_octets_of_verify (hkey : key.Valid)
    (h : verify data signature (Key.ofPrivate key).publicOnly = true) :
    data.length + SignatureBlock.overhead ≤ key.toPublic.size ∧ signature = octets key data := by
  obtain ⟨hlength, hrecover⟩ := verify_eq_true_iff.mp h
  cases hrefused : key.toPublic.isRefused with
  | true =>
      have hnone := recover?_of_refused hrefused signature
      exact absurd (hnone.symm.trans hrecover) (by simp)
  | false => exact (recover?_eq_some_iff_octets hkey hrefused hlength).mp hrecover

/-- Signatures determine the buffers that fit. -/
theorem octets_inj (hkey : key.Valid) {data' : Bytes}
    (h : data.length + SignatureBlock.overhead ≤ key.toPublic.size)
    (h' : data'.length + SignatureBlock.overhead ≤ key.toPublic.size)
    (heq : octets key data = octets key data') : data = data' := by
  have hnumber : (SignatureBlock.encode key.toPublic.size data).toNat
      = (SignatureBlock.encode key.toPublic.size data').toNat := by
    rw [← apply_octets hkey h, heq, apply_octets hkey h']
  have hblock := Bytes.toNat_inj
    ((SignatureBlock.length_encode h).trans (SignatureBlock.length_encode h').symm) hnumber
  have hread := SignatureBlock.decode?_encode h
  rw [hblock, SignatureBlock.decode?_encode h'] at hread
  exact (Option.some.inj hread).symm

/-- **Signatures are exact.** Under a valid key whose modulus has room for a block, and for
which recovery is not refused, a byte string verifies for a buffer exactly if the buffer fits
and the byte string is what signing it gives. Exactly the buffers that fit are signed, to as
many octets as the modulus has, whatever blinds the operation; nothing else verifies for a
buffer, and a signature verifies for one buffer only. -/
theorem verify_exact (hkey : key.Valid) (hsize : SignatureBlock.overhead ≤ key.toPublic.size)
    (hfactor : Nat.Coprime factor key.toPublic.modulus) :
    (key.toPublic.isRefused = false → ∀ data signature,
      verify data signature (Key.ofPrivate key).publicOnly = true ↔
        data.length ≤ key.toPublic.size - SignatureBlock.overhead ∧
          sign factor data (.ofPrivate key) = .ok signature) ∧
    (∀ data, (∃ signature, sign factor data (.ofPrivate key) = .ok signature) ↔
      data.length ≤ key.toPublic.size - SignatureBlock.overhead) ∧
    (∀ data signature, sign factor data (.ofPrivate key) = .ok signature →
      signature.length = key.toPublic.size ∧
        ∀ other, Nat.Coprime other key.toPublic.modulus →
          sign other data (.ofPrivate key) = .ok signature) ∧
    (∀ data signature signature',
      verify data signature (Key.ofPrivate key).publicOnly = true →
        verify data signature' (Key.ofPrivate key).publicOnly = true → signature = signature') ∧
    ∀ data data' signature, verify data signature (Key.ofPrivate key).publicOnly = true →
      verify data' signature (Key.ofPrivate key).publicOnly = true → data = data' := by
  have hfits : ∀ data : Bytes, data.length ≤ key.toPublic.size - SignatureBlock.overhead ↔
      data.length + SignatureBlock.overhead ≤ key.toPublic.size := by
    intro data
    omega
  simp only [hfits, sign_eq_ok_iff hkey hfactor]
  refine ⟨?_, ?_, ?_, ?_, ?_⟩
  · intro hrefused data signature
    constructor
    · intro h
      have := eq_octets_of_verify hkey h
      exact ⟨this.1, this⟩
    · rintro ⟨-, h⟩
      have hlength : signature.length = key.toPublic.size := h.2 ▸ length_octets key data
      exact verify_eq_true_iff.mpr
        ⟨hlength, (recover?_eq_some_iff_octets hkey hrefused hlength).mpr h⟩
  · intro data
    simp
  · rintro data signature ⟨hfit, rfl⟩
    refine ⟨length_octets key data, ?_⟩
    intro other hother
    exact (sign_eq_ok_iff hkey hother).mpr ⟨hfit, rfl⟩
  · intro data signature signature' h h'
    rw [(eq_octets_of_verify hkey h).2, (eq_octets_of_verify hkey h').2]
  · intro data data' signature h h'
    obtain ⟨hfit, heq⟩ := eq_octets_of_verify hkey h
    obtain ⟨hfit', heq'⟩ := eq_octets_of_verify hkey h'
    exact octets_inj hkey hfit hfit' (heq.symm.trans heq')

/-- Three octets under a key of fourteen, which is the most that fits. -/
theorem verify_exact_sample : SignatureBlock.overhead ≤ PrivateKey.sample.toPublic.size ∧
    PrivateKey.sample.toPublic.isRefused = false ∧
    ∃ signature, sign 2 [0xFF, 0, 7] (.ofPrivate .sample) = .ok signature ∧
      signature.length = 14 ∧
      verify [0xFF, 0, 7] signature (Key.ofPrivate .sample).publicOnly = true ∧
      ∀ other, verify [0xFF, 0, 7] other (Key.ofPrivate .sample).publicOnly = true →
        other = signature := by
  have hvalid := PrivateKey.valid_sample
  have hsize : PrivateKey.sample.toPublic.size = 14 := by decide +kernel
  have hroom : SignatureBlock.overhead ≤ PrivateKey.sample.toPublic.size := by
    rw [hsize]
    decide
  have hrefused : PrivateKey.sample.toPublic.isRefused = false := by decide +kernel
  have hfactor : Nat.Coprime 2 PrivateKey.sample.toPublic.modulus :=
    Nat.coprime_two_left.mpr (Nat.odd_iff.mpr hvalid.odd_modulus)
  obtain ⟨hverify, hsign, hlength, hunique, -⟩ := verify_exact hvalid hroom hfactor
  obtain ⟨signature, h⟩ := (hsign [0xFF, 0, 7]).mpr (by rw [hsize]; decide)
  have htrue := (hverify hrefused [0xFF, 0, 7] signature).mpr ⟨by rw [hsize]; decide, h⟩
  exact ⟨hroom, hrefused, signature, h, hsize ▸ (hlength _ _ h).1, htrue,
    fun other hother => hunique _ _ _ hother htrue⟩

end SealedRpc.Signature
