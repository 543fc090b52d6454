import SealedRpc.Codec.Basic
import SealedRpc.Proofs.Except
import SealedRpc.Proofs.Key.Permutation
import SealedRpc.Proofs.Padding.Oaep

/-!
# Public encryption is undone by private decryption

Both paddings put a zero in front of a block, so that its number is below the modulus, and
both are read back at every length of a chunk that leaves room for them. Between the two
stand the public and the private operation, which undo each other. The rest is work on
pieces: chunks become blocks of the size of the modulus, and these are what the message is
cut into again.

## Main results

* `unpadBlock?_padBlock`: a padded chunk is read back.
* `openBlock?_apply`: a block that was encrypted is opened again.
* `encrypt_eq_ok_iff`: when encryption gives a message, and which one.
* `decrypt_encrypt`: messages have the length of their blocks and are decrypted to the data.
-/

namespace SealedRpc

/-- Whether the factors that blind the operations of a key can be divided out again. Factors
are drawn until they can. -/
def Coins.Blinds (coins : Coins) (key : PublicKey) : Prop :=
  ∀ i, Nat.Coprime (coins.factor i) key.modulus

/-- Random choices that are the same for every chunk. -/
def Coins.constant : Coins where
  filling := fun _ _ => ⟨1, by decide⟩
  seed := fun _ => ⟨List.replicate Digest.size 0, List.length_replicate⟩
  factor := fun _ => 2

/-- Two is a factor for every odd modulus. -/
theorem Coins.blinds_constant {key : PublicKey} (h : key.modulus % 2 = 1) :
    Coins.constant.Blinds key :=
  fun _ => Nat.coprime_two_left.mpr (Nat.odd_iff.mpr h)

namespace Codec

variable {coins coins' : Coins} {scheme : Scheme}

/-! ### Padding -/

/-- A padded chunk is as long as the modulus. -/
theorem length_padBlock {size : Nat} {chunk : Bytes} (h : chunk.length + scheme.overhead ≤ size)
    (index : Nat) : (padBlock coins scheme size index chunk).length = size := by
  cases scheme with
  | pkcs1v15 =>
      refine EncryptionBlock.length_encode ?_
      simp only [Scheme.overhead, EncryptionBlock.markers] at h ⊢
      omega
  | oaepSha256 => exact Oaep.length_encode h

/-- A padded chunk begins with a zero. -/
theorem exists_padBlock_eq (coins : Coins) (scheme : Scheme) (size index : Nat) (chunk : Bytes) :
    ∃ rest, padBlock coins scheme size index chunk = 0 :: rest := by
  cases scheme with
  | pkcs1v15 => exact ⟨_, rfl⟩
  | oaepSha256 => exact ⟨_, rfl⟩

/-- A padded chunk is read back, whatever fills its block. -/
theorem unpadBlock?_padBlock {size : Nat} {chunk : Bytes}
    (h : chunk.length + scheme.overhead ≤ size) (index : Nat) :
    unpadBlock? scheme (padBlock coins scheme size index chunk) = some chunk := by
  cases scheme with
  | pkcs1v15 => exact EncryptionBlock.decode?_encode h
  | oaepSha256 => exact Oaep.decode?_encode h

/-- The number of a padded chunk is below the modulus. -/
theorem toNat_padBlock_lt {key : PublicKey} (hkey : 0 < key.modulus) {chunk : Bytes}
    (h : chunk.length + scheme.overhead ≤ key.size) (index : Nat) :
    (padBlock coins scheme key.size index chunk).toNat < key.modulus := by
  obtain ⟨rest, hrest⟩ := exists_padBlock_eq coins scheme key.size index chunk
  have hlength : (padBlock coins scheme key.size index chunk).length = key.size :=
    length_padBlock h index
  rw [hrest] at hlength ⊢
  exact PublicKey.toNat_lt_modulus hkey hlength

/-! ### Blocks -/

/-- The block of an encrypted chunk. -/
def sealedChunk (coins : Coins) (key : PublicKey) (scheme : Scheme) (index : Nat)
    (chunk : Bytes) : Bytes :=
  Bytes.ofNat key.size (key.apply (padBlock coins scheme key.size index chunk).toNat)

/-- The block of a chunk is as long as the modulus. -/
theorem length_sealedChunk (coins : Coins) (key : PublicKey) (scheme : Scheme) (index : Nat)
    (chunk : Bytes) : (sealedChunk coins key scheme index chunk).length = key.size :=
  Bytes.length_ofNat _ _

/-- A block is opened to what the public operation was applied to. -/
theorem openBlock?_apply {key : PrivateKey} (hkey : key.Valid) (hcoins : coins.Blinds key.toPublic)
    {value : Nat} (hvalue : value < key.toPublic.modulus) (index : Nat) :
    openBlock? coins key scheme index (Bytes.ofNat key.toPublic.size (key.toPublic.apply value))
      = some (Bytes.ofNat key.toPublic.size value) := by
  have hlt := PublicKey.apply_lt hkey.modulus_pos value
  rw [openBlock?.eq_def, PublicKey.toNat_ofNat_size hlt]
  cases scheme with
  | pkcs1v15 =>
      simp only [hkey.operate?_eq (hcoins index) hlt, hkey.pow_apply hvalue, Option.map_some]
  | oaepSha256 => simp only [if_neg (Nat.not_le.mpr hlt), Number.powMod_eq, hkey.pow_apply hvalue]

/-- A chunk is found again in its block, at whatever positions the two are worked on. -/
theorem decryptBlock_sealedChunk {key : PrivateKey} (hkey : key.Valid)
    (hcoins : coins'.Blinds key.toPublic) {chunk : Bytes}
    (h : chunk.length + scheme.overhead ≤ key.toPublic.size) (i j : Nat) :
    decryptBlock coins' key scheme i (sealedChunk coins key.toPublic scheme j chunk)
      = .ok chunk := by
  have hlt : (padBlock coins scheme key.toPublic.size j chunk).toNat < key.toPublic.modulus :=
    toNat_padBlock_lt hkey.modulus_pos h j
  have hwritten := Bytes.ofNat_toNat (padBlock coins scheme key.toPublic.size j chunk)
  rw [length_padBlock h] at hwritten
  rw [decryptBlock, sealedChunk, openBlock?_apply hkey hcoins hlt, hwritten, Option.bind_some,
    unpadBlock?_padBlock h]

/-! ### Messages -/

/-- The message that data is encrypted to by a key that is not refused. -/
def message (coins : Coins) (key : PublicKey) (scheme : Scheme) (data : Bytes) : Bytes :=
  (Pool.numbered (sealedChunk coins key scheme) 0
    (Bytes.pieces (key.size - scheme.overhead) data)).flatten

/-- A key that is long enough has room for chunks. -/
theorem chunkSize_natCast {size : Nat} (h : scheme.overhead < size) :
    scheme.chunkSize (size : Int) = .ok (size - scheme.overhead) :=
  Scheme.chunkSize_eq_ok_iff.mpr ⟨by omega, by omega⟩

/-- Encryption works on the chunks in order, whatever the number of workers. -/
theorem encrypt_eq_inOrder {key : Key} (hsize : scheme.overhead < key.size) (pool : Pool)
    (data : Bytes) : encrypt coins pool data key scheme
      = (Pool.inOrder (encryptChunk coins key.publicView scheme) 0
          (Bytes.pieces (key.size - scheme.overhead) data)).map List.flatten := by
  rw [encrypt, chunkSize_natCast hsize]
  simp only [Except.mapError_ok, bind, Except.bind, Pool.map_eq_inOrder]
  cases Pool.inOrder (encryptChunk coins key.publicView scheme) 0
    (Bytes.pieces (key.size - scheme.overhead) data) <;> rfl

/-- Encryption gives a message exactly if the key is not refused or there is nothing to
encrypt, and then it gives this one. -/
theorem encrypt_eq_ok_iff {key : Key} (hsize : scheme.overhead < key.size) {pool : Pool}
    {data sent : Bytes} : encrypt coins pool data key scheme = .ok sent ↔
      (key.publicView.isRefused = false ∨ data = []) ∧
        sent = message coins key.publicView scheme data := by
  have hroom : 0 < key.size - scheme.overhead := by omega
  rw [encrypt_eq_inOrder hsize]
  cases hrefused : key.publicView.isRefused with
  | false =>
      have htask : ∀ i, ∀ chunk ∈ Bytes.pieces (key.size - scheme.overhead) data,
          encryptChunk coins key.publicView scheme i chunk
            = .ok (sealedChunk coins key.publicView scheme i chunk) := by
        intro i chunk _
        rw [encryptChunk, hrefused]
        rfl
      rw [Pool.inOrder_eq_numbered htask]
      simp only [Except.map, Except.ok.injEq, true_or, true_and]
      exact eq_comm
  | true =>
      by_cases hdata : data = []
      · subst hdata
        rw [Bytes.pieces_nil, message, Bytes.pieces_nil]
        simp only [Pool.inOrder, Pool.numbered, Except.map, List.flatten_nil, Except.ok.injEq,
          or_true, true_and]
        exact eq_comm
      · rw [Bytes.pieces_of_ne_nil hroom hdata, Pool.inOrder, encryptChunk, hrefused]
        simp [bind, Except.bind, Except.map, hdata]

/-- A block that is made of a chunk is as long as blocks are. -/
theorem length_of_mem_numbered {size : Nat} {f : Nat → Bytes → Bytes}
    (hf : ∀ i chunk, (f i chunk).length = size) {chunks : List Bytes} :
    ∀ block ∈ Pool.numbered f 0 chunks, block.length = size := by
  intro block hblock
  obtain ⟨i, chunk, -, rfl⟩ := Pool.exists_of_mem_numbered hblock
  exact hf i chunk

/-- A message has one block for each chunk. -/
theorem length_message {key : PublicKey} (hsize : scheme.overhead < key.size) (data : Bytes) :
    (message coins key scheme data).length
      = key.size * (data.length ⌈/⌉ (key.size - scheme.overhead)) := by
  have hblocks := length_sealedChunk coins key scheme
  rw [message, Bytes.length_flatten (length_of_mem_numbered hblocks), Pool.length_numbered,
    Bytes.length_pieces (Nat.sub_pos_of_lt hsize)]

/-- A message is cut into the blocks that it was made of. -/
theorem blocks_numbered {size : Nat} (hsize : 0 < size) {f : Nat → Bytes → Bytes}
    (hf : ∀ i chunk, (f i chunk).length = size) (chunks : List Bytes) :
    blocks (Pool.numbered f 0 chunks).flatten size = .ok (Pool.numbered f 0 chunks) := by
  have hblocks : ∀ block ∈ Pool.numbered f 0 chunks, block.length = size :=
    length_of_mem_numbered hf
  rw [blocks, Bytes.length_flatten hblocks, Nat.mul_mod_right, if_neg (by simp),
    Bytes.pieces_flatten hsize hblocks]

/-- A message is decrypted to the data it was made of. -/
theorem decrypt_message {key : PrivateKey} (hkey : key.Valid)
    (hsize : scheme.overhead < key.toPublic.size) (hcoins : coins'.Blinds key.toPublic)
    (pool : Pool) (data : Bytes) :
    decrypt coins' pool (message coins key.toPublic scheme data) (.ofPrivate key) scheme
      = .ok data := by
  have hroom : 0 < key.toPublic.size - scheme.overhead := by omega
  have hundo : ∀ i j, ∀ chunk ∈ Bytes.pieces (key.toPublic.size - scheme.overhead) data,
      decryptBlock coins' key scheme i (sealedChunk coins key.toPublic scheme j chunk)
        = .ok chunk := by
    intro i j chunk hchunk
    have := (Bytes.length_mem_pieces hchunk).2
    exact decryptBlock_sealedChunk hkey hcoins (by omega) i j
  rw [decrypt, show (Key.ofPrivate key).size = key.toPublic.size from rfl, message,
    blocks_numbered (Nat.zero_lt_of_lt hsize) (length_sealedChunk coins key.toPublic scheme)]
  simp only [Key.privateView?, bind, Except.bind, pure, Except.pure, Pool.map_eq_inOrder,
    Pool.inOrder_undo hundo, Bytes.flatten_pieces hroom]

/-- **Round trip.** Under a valid key that is longer than the padding, encryption gives a
message unless the key is refused and there is something to encrypt. A message has a block
for each chunk, and it is decrypted to the data, whatever the random choices and whatever the
numbers of workers on the two sides. -/
theorem decrypt_encrypt {key : PrivateKey} (hkey : key.Valid)
    (hsize : scheme.overhead < key.toPublic.size) (hcoins : coins'.Blinds key.toPublic)
    (pool pool' : Pool) (data : Bytes) :
    ((∃ sent, encrypt coins pool data (Key.ofPrivate key).publicOnly scheme = .ok sent) ↔
      key.toPublic.isRefused = false ∨ data = []) ∧
    ∀ sent, encrypt coins pool data (Key.ofPrivate key).publicOnly scheme = .ok sent →
      sent.length = key.toPublic.size * (data.length ⌈/⌉ (key.toPublic.size - scheme.overhead)) ∧
        decrypt coins' pool' sent (.ofPrivate key) scheme = .ok data := by
  have hiff : ∀ sent, encrypt coins pool data (Key.ofPrivate key).publicOnly scheme = .ok sent ↔
      (key.toPublic.isRefused = false ∨ data = []) ∧
        sent = message coins key.toPublic scheme data :=
    fun sent => encrypt_eq_ok_iff hsize
  constructor
  · constructor
    · rintro ⟨sent, hsent⟩
      exact ((hiff sent).mp hsent).1
    · intro h
      exact ⟨_, (hiff _).mpr ⟨h, rfl⟩⟩
  · intro sent hsent
    obtain ⟨-, rfl⟩ := (hiff sent).mp hsent
    exact ⟨length_message hsize data, decrypt_message hkey hsize hcoins pool' data⟩

/-- Five octets under a key of fourteen make two blocks. -/
theorem decrypt_encrypt_sample :
    ∃ sent, encrypt .constant ⟨some 2, [1, 0]⟩ [0, 255, 7, 0, 9]
        (Key.ofPrivate .sample).publicOnly .pkcs1v15 = .ok sent ∧ sent.length = 28 ∧
      decrypt .constant .single sent (.ofPrivate .sample) .pkcs1v15 = .ok [0, 255, 7, 0, 9] := by
  have hblinds := Coins.blinds_constant PrivateKey.valid_sample.odd_modulus
  obtain ⟨hiff, hsent⟩ := @decrypt_encrypt .constant .constant .pkcs1v15 .sample
    PrivateKey.valid_sample (by decide +kernel) hblinds ⟨some 2, [1, 0]⟩ .single [0, 255, 7, 0, 9]
  obtain ⟨sent, h⟩ := hiff.mpr (Or.inl (by decide +kernel))
  obtain ⟨hlength, hdecrypt⟩ := hsent sent h
  have hsize : PrivateKey.sample.toPublic.size = 14 := by decide +kernel
  rw [hsize] at hlength
  exact ⟨sent, h, hlength, hdecrypt⟩

end Codec

end SealedRpc
