import SealedRpc.Proofs.Codec.Blocks

/-!
# Decryption is exact

Under the older padding a block is good if its number is below the modulus and the plain private
power of it, written as a block, has the layout of an encryption block: two marker octets, at least
eight octets other than zero, a zero, and the data. The reader of blocks is a search for the first
zero; what is said here about messages follows from its being exact.

A message is decrypted exactly if all its blocks are good. Otherwise the failure names the first one
that is not. Both come after the length of the message and the material of the key, in this order.

Neither blinding nor the workers show in what is decrypted, under either padding.

## Main results

* `openBlock?_eq`: a block is opened to the plain private power of its number.
* `decrypt_eq_of_blinds`: neither blinding nor the workers show in what is decrypted.
* `decryptBlock_eq_ok_iff`, `decryptBlock_eq_error_iff`: which blocks are good.
* `decrypt_exact`: what is decrypted, and which failure is reported otherwise.
-/

namespace SealedRpc.Codec

variable {coins coins' : Coins} {scheme : Scheme} {key : PrivateKey}

/-! ### Opening blocks -/

/-- A block is opened to the plain power of its number, if that is below the modulus. -/
theorem openBlock?_eq (hkey : key.Valid) (hcoins : coins.Blinds key.toPublic) (index : Nat)
    (block : Bytes) : openBlock? coins key scheme index block
      = if block.toNat < key.toPublic.modulus then
          some (Bytes.ofNat key.toPublic.size (block.toNat ^ key.exponent % key.toPublic.modulus))
        else none := by
  rw [openBlock?.eq_def]
  by_cases hlt : block.toNat < key.toPublic.modulus
  · rw [if_pos hlt]
    cases scheme with
    | pkcs1v15 => simp only [hkey.operate?_eq (hcoins index) hlt, Option.map_some]
    | oaepSha256 => simp only [if_neg (Nat.not_le.mpr hlt), Number.powMod_eq]
  · rw [if_neg hlt]
    have hle := Nat.not_lt.mp hlt
    cases scheme with
    | pkcs1v15 =>
        have hnone : key.operate? (coins.factor index) (block.toNat : Int) = none :=
          PrivateKey.operate?_eq_none_iff.mpr (.inr (Int.ofNat_le.mpr hle))
        simp only [hnone, Option.map_none]
    | oaepSha256 => simp only [if_pos hle]

/-- Neither blinding nor the workers show in what is decrypted, or in why it is not. -/
theorem decrypt_eq_of_blinds (hkey : key.Valid) (hcoins : coins.Blinds key.toPublic)
    (hcoins' : coins'.Blinds key.toPublic) (pool pool' : Pool) (message : Bytes) :
    decrypt coins pool message (.ofPrivate key) scheme
      = decrypt coins' pool' message (.ofPrivate key) scheme := by
  have hblock : decryptBlock coins key scheme = decryptBlock coins' key scheme := by
    funext index block
    rw [decryptBlock, decryptBlock, openBlock?_eq hkey hcoins, openBlock?_eq hkey hcoins']
  simp only [decrypt, Key.privateView?, Pool.map_eq_inOrder, hblock]

/-! ### Good blocks -/

/-- Whether a block carries data under the older padding: its number is below the modulus, and the
private power of it has the layout of an encryption block around the data. -/
def Carries (key : PrivateKey) (block data : Bytes) : Prop :=
  block.toNat < key.toPublic.modulus ∧ ∃ filling : Bytes,
    EncryptionBlock.leastFilling ≤ filling.length ∧ (∀ b ∈ filling, b ≠ 0) ∧
      Bytes.ofNat key.toPublic.size (block.toNat ^ key.exponent % key.toPublic.modulus)
        = 0 :: 2 :: filling ++ 0 :: data

/-- Exactly what a block carries is read from it. -/
theorem unpadBlock?_openBlock?_eq_some_iff (hkey : key.Valid) (hcoins : coins.Blinds key.toPublic)
    (index : Nat) {block data : Bytes} :
    (openBlock? coins key .pkcs1v15 index block).bind (unpadBlock? .pkcs1v15) = some data ↔
      Carries key block data := by
  rw [openBlock?_eq hkey hcoins, Carries]
  by_cases hlt : block.toNat < key.toPublic.modulus
  · rw [if_pos hlt, Option.bind_some, unpadBlock?, EncryptionBlock.decode?_eq_some_iff,
      and_iff_right hlt]
  · simp [hlt]

/-- A block is decrypted exactly to what it carries. -/
theorem decryptBlock_eq_ok_iff (hkey : key.Valid) (hcoins : coins.Blinds key.toPublic)
    {index : Nat} {block data : Bytes} :
    decryptBlock coins key .pkcs1v15 index block = .ok data ↔ Carries key block data := by
  rw [← unpadBlock?_openBlock?_eq_some_iff hkey hcoins index, decryptBlock]
  cases (openBlock? coins key .pkcs1v15 index block).bind (unpadBlock? .pkcs1v15) <;> simp

/-- A block that carries nothing fails, and the failure says where it is. -/
theorem decryptBlock_eq_error_iff (hkey : key.Valid) (hcoins : coins.Blinds key.toPublic)
    {index : Nat} {block : Bytes} {e : CodecError} :
    decryptBlock coins key .pkcs1v15 index block = .error e ↔
      (¬ ∃ data, Carries key block data) ∧ e = .decryption (.badPadding .pkcs1v15 index) := by
  simp only [← unpadBlock?_openBlock?_eq_some_iff hkey hcoins index]
  rw [decryptBlock]
  cases (openBlock? coins key .pkcs1v15 index block).bind (unpadBlock? .pkcs1v15) <;>
    simp [eq_comm]

/-! ### Messages -/

/-- A message that cannot be cut is refused for its length, whatever the key holds. -/
theorem decrypt_of_not_dvd {key : Key} (pool : Pool) {message : Bytes}
    (h : ¬ key.size ∣ message.length) : decrypt coins pool message key scheme
      = .error (.malformedCiphertext key.size message.length) := by
  rw [decrypt, blocks, if_pos fun hmod => h (Nat.dvd_of_mod_eq_zero hmod)]
  rfl

/-- A handle without private material decrypts nothing, not even the empty message. -/
theorem decrypt_of_privateView?_none {key : Key} (hpublic : key.privateView? = none) (pool : Pool)
    {message : Bytes} (hdvd : key.size ∣ message.length) :
    decrypt coins pool message key scheme = .error (.decryption .noPrivateMaterial) := by
  rw [decrypt, blocks, if_neg (not_not.mpr (Nat.mod_eq_zero_of_dvd hdvd)), hpublic]
  rfl

variable {handle : Key}

/-- A message that can be cut is decrypted block by block, whatever the number of workers. -/
theorem decrypt_of_dvd (hsecret : handle.privateView? = some key) (pool : Pool) {message : Bytes}
    (hdvd : handle.size ∣ message.length) : decrypt coins pool message handle scheme
      = (Pool.inOrder (decryptBlock coins key scheme) 0
          (Bytes.pieces handle.size message)).map List.flatten := by
  rw [decrypt, blocks, if_neg (not_not.mpr (Nat.mod_eq_zero_of_dvd hdvd)), hsecret]
  simp only [bind, Except.bind, Pool.map_eq_inOrder]
  rfl

/-- A message that can be cut is decrypted exactly if all its blocks are good, to what they carry
in a row. -/
theorem decrypt_eq_ok_iff (hsecret : handle.privateView? = some key) (hkey : key.Valid)
    (hcoins : coins.Blinds key.toPublic) (pool : Pool) {message data : Bytes}
    (hdvd : handle.size ∣ message.length) :
    decrypt coins pool message handle .pkcs1v15 = .ok data ↔
      ∃ chunks, List.Forall₂ (Carries key) (Bytes.pieces handle.size message) chunks ∧
        data = chunks.flatten := by
  rw [decrypt_of_dvd hsecret pool hdvd, Except.map_eq_ok_iff]
  refine exists_congr fun chunks => and_congr ?_ eq_comm
  exact Pool.inOrder_eq_ok_iff fun _ _ _ _ => decryptBlock_eq_ok_iff hkey hcoins

/-- Decryption of a message that can be cut fails at the first block that is not good. -/
theorem decrypt_eq_error_iff (hsecret : handle.privateView? = some key) (hkey : key.Valid)
    (hcoins : coins.Blinds key.toPublic) (pool : Pool) (hsize : 0 < handle.size) {message : Bytes}
    (hdvd : handle.size ∣ message.length) {e : CodecError} :
    decrypt coins pool message handle .pkcs1v15 = .error e ↔
      ∃ i, IsLeast {i | handle.size * i < message.length ∧
          ¬ ∃ data, Carries key (blockAt handle.size message i) data} i ∧
        e = .decryption (.badPadding .pkcs1v15 i) := by
  rw [decrypt_of_dvd hsecret pool hdvd, Except.map_eq_error_iff]
  have htask : ∀ i block e, decryptBlock coins key .pkcs1v15 i block = .error e ↔
      (¬ ∃ data, Carries key block data) ∧ e = .decryption (.badPadding .pkcs1v15 i) :=
    fun _ _ _ => decryptBlock_eq_error_iff hkey hcoins
  exact inOrder_pieces_eq_error_iff hsize fun i block _ => htask i block

/-- **Decryption is exact.** Take a handle with room for a block, whose private material, if it has
any, is valid. A message is refused for its length exactly if that is no multiple of the size.
Otherwise the failure belongs to no block exactly if the handle has no private material, also for
the empty message. Otherwise the message is decrypted exactly if all its blocks are good, to what
they carry in a row; and if one is not, the failure names the first one. The outcome is always one
of these, whatever the number of workers and whatever blinds the operations. -/
theorem decrypt_exact (hvalid : ∀ key, handle.privateView? = some key →
      key.Valid ∧ coins.Blinds key.toPublic)
    (hsize : Scheme.pkcs1v15.overhead ≤ handle.size) (pool : Pool) (message : Bytes) :
    (decrypt coins pool message handle .pkcs1v15
        = .error (.malformedCiphertext handle.size message.length) ↔
      ¬ handle.size ∣ message.length) ∧
    ((∃ fault : DecryptionFault, fault.chunk? = none ∧
        decrypt coins pool message handle .pkcs1v15 = .error (.decryption fault)) ↔
      handle.size ∣ message.length ∧ handle.hasPrivate = false) ∧
    (∀ data, decrypt coins pool message handle .pkcs1v15 = .ok data ↔
      handle.size ∣ message.length ∧ ∃ key, handle.privateView? = some key ∧
        ∃ chunks, List.Forall₂ (Carries key) (Bytes.pieces handle.size message) chunks ∧
          data = chunks.flatten) ∧
    ∀ e, decrypt coins pool message handle .pkcs1v15 = .error e ↔
      (¬ handle.size ∣ message.length ∧ e = .malformedCiphertext handle.size message.length) ∨
      (handle.size ∣ message.length ∧ handle.hasPrivate = false ∧
        e = .decryption .noPrivateMaterial) ∨
      (handle.size ∣ message.length ∧ ∃ key, handle.privateView? = some key ∧
        ∃ i, IsLeast {i | handle.size * i < message.length ∧
            ¬ ∃ data, Carries key (blockAt handle.size message i) data} i ∧
          e = .decryption (.badPadding .pkcs1v15 i)) := by
  by_cases hdvd : handle.size ∣ message.length
  · cases hsecret : handle.privateView? with
    | none =>
        have hfails : decrypt coins pool message handle .pkcs1v15
            = .error (.decryption .noPrivateMaterial) :=
          decrypt_of_privateView?_none hsecret pool hdvd
        simp only [hfails, hdvd, Key.hasPrivate, hsecret]
        refine ⟨by simp, by simp [DecryptionFault.chunk?], by simp, fun e => ?_⟩
        simpa using eq_comm
    | some key =>
        obtain ⟨hkey, hblinds⟩ := hvalid key hsecret
        have hpos : 0 < handle.size := Nat.lt_of_lt_of_le (by decide) hsize
        have herror := @decrypt_eq_error_iff _ _ _ hsecret hkey hblinds pool hpos message hdvd
        have hok := @decrypt_eq_ok_iff _ _ _ hsecret hkey hblinds pool message
        refine ⟨?_, ?_, fun data => ?_, fun e => ?_⟩
        · simp [herror, hdvd]
        · have hchunk : ∀ fault : DecryptionFault,
              decrypt coins pool message handle .pkcs1v15 = .error (.decryption fault) →
                fault.chunk? ≠ none := by
            intro fault hfault
            obtain ⟨i, -, hi⟩ := herror.mp hfault
            obtain rfl := CodecError.decryption.inj hi
            exact nofun
          simpa [Key.hasPrivate, hsecret] using fun fault hnone hfault => hchunk fault hfault hnone
        · simp [hok hdvd, hdvd]
        · simp [herror, hdvd, Key.hasPrivate, hsecret]
  · have hfails : decrypt coins pool message handle .pkcs1v15
        = .error (.malformedCiphertext handle.size message.length) := decrypt_of_not_dvd pool hdvd
    simp only [hfails, hdvd]
    refine ⟨by simp, by simp, by simp, fun e => ?_⟩
    simpa using eq_comm

/-- Under a key of fourteen octets: three octets are no message, a public handle does not decrypt
the empty one, a block around zeros is read, and a block of zeros after it is not. -/
theorem decrypt_exact_sample : PrivateKey.Valid .sample ∧
    Scheme.pkcs1v15.overhead ≤ (Key.ofPrivate .sample).size ∧
    decrypt .constant .single [1, 2, 3] (.ofPrivate .sample) .pkcs1v15
      = .error (.malformedCiphertext 14 3) ∧
    decrypt .constant .single [] (Key.ofPrivate .sample).publicOnly .pkcs1v15
      = .error (.decryption .noPrivateMaterial) ∧
    decrypt .constant .single
        (sealedChunk .constant PrivateKey.sample.toPublic .pkcs1v15 0 [0, 7, 0])
        (.ofPrivate .sample) .pkcs1v15 = .ok [0, 7, 0] ∧
    decrypt .constant ⟨some 2, [1, 0]⟩
        (sealedChunk .constant PrivateKey.sample.toPublic .pkcs1v15 0 [0, 7, 0]
          ++ List.replicate 14 0)
        (.ofPrivate .sample) .pkcs1v15 = .error (.decryption (.badPadding .pkcs1v15 1)) := by
  have hvalid := PrivateKey.valid_sample
  have hblinds := Coins.blinds_constant hvalid.odd_modulus
  have hsize : (Key.ofPrivate .sample).size = 14 := by decide +kernel
  have hroom : Scheme.pkcs1v15.overhead ≤ (Key.ofPrivate .sample).size := by
    rw [hsize]
    decide
  have hprivate : ∀ key, (Key.ofPrivate .sample).privateView? = some key →
      key.Valid ∧ Coins.constant.Blinds key.toPublic := by
    rintro _ ⟨⟩
    exact ⟨hvalid, hblinds⟩
  have hpublic : ∀ key, (Key.ofPrivate .sample).publicOnly.privateView? = some key →
      key.Valid ∧ Coins.constant.Blinds key.toPublic := by
    rintro _ ⟨⟩
  set block := sealedChunk .constant PrivateKey.sample.toPublic .pkcs1v15 0 [0, 7, 0]
  have hlength : block.length = 14 := (length_sealedChunk _ _ _ _ _).trans hsize
  have hgood : Carries .sample block [0, 7, 0] :=
    (decryptBlock_eq_ok_iff hvalid hblinds).mp
      (decryptBlock_sealedChunk hvalid hblinds (by decide +kernel) 0 0)
  have hzeros : ¬ ∃ data, Carries .sample (List.replicate 14 0) data := by
    have hfails : decryptBlock .constant .sample .pkcs1v15 1 (List.replicate 14 0)
        = .error (.decryption (.badPadding .pkcs1v15 1)) := by decide +kernel
    exact ((decryptBlock_eq_error_iff hvalid hblinds).mp hfails).1
  refine ⟨hvalid, hroom, ?_, ?_, ?_, ?_⟩
  · refine ((decrypt_exact hprivate hroom .single [1, 2, 3]).1.mpr ?_).trans (by rw [hsize]; rfl)
    rw [hsize]
    decide
  · refine ((decrypt_exact hpublic hroom .single []).2.2.2 _).mpr (.inr (.inl ⟨?_, rfl, rfl⟩))
    exact dvd_zero _
  · refine ((decrypt_exact hprivate hroom .single block).2.2.1 _).mpr
      ⟨?_, _, rfl, [[0, 7, 0]], ?_, rfl⟩
    · rw [hsize, hlength]
    · have hpieces : Bytes.pieces (Key.ofPrivate .sample).size block = [block] := by
        have hflat := @Bytes.pieces_flatten 14 (by decide) [block] (by simpa using hlength)
        rwa [List.flatten_singleton, ← hsize] at hflat
      rw [hpieces]
      exact .cons hgood .nil
  · have hexact := decrypt_exact hprivate hroom ⟨some 2, [1, 0]⟩ (block ++ List.replicate 14 0)
    refine (hexact.2.2.2 _).mpr (.inr (.inr ⟨?_, _, rfl, 1, ⟨⟨?_, ?_⟩, ?_⟩, rfl⟩))
    · rw [List.length_append, hlength, List.length_replicate, hsize]
      decide
    · rw [List.length_append, hlength, List.length_replicate, hsize]
      decide
    · rw [hsize, blockAt, List.drop_left' hlength]
      exact hzeros
    · rintro i ⟨-, hi⟩
      refine Nat.pos_of_ne_zero ?_
      rintro rfl
      rw [hsize, blockAt, Nat.mul_zero, List.drop_zero, List.take_left' hlength] at hi
      exact hi ⟨_, hgood⟩

end SealedRpc.Codec
