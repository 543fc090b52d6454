import SealedRpc.Proofs.Codec.Crew
import SealedRpc.Proofs.Codec.Decryption

/-!
# Several workers come to what one comes to

Encryption works on the chunks of the data, and decryption on the blocks of a message. With more
than one worker these are shared by a crew, whose schedule is up to the workers; what both come to
is what they come to in order. In particular a failure names the least position that fails, also if
a later one failed long before.

## Main results

* `encryptsTo_iff`, `decryptsTo_iff`: what encryption and decryption may come to with any number of
  workers.
* `encrypt_eq_error_iff`, `decrypt_eq_error_iff_exists`: the failure of the least position.
* `parallel_eq_sequential`: neither the number of workers nor their schedule shows.
-/

namespace SealedRpc.Codec

variable {coins : Coins} {workers : Option Int} {data message : Bytes} {key : Key}
  {scheme : Scheme} {outcome : Except CodecError Bytes}

/-- Whether encryption may come to an outcome: a key that is too small is refused, and else the
chunks are encrypted, which the workers share if there are several of both. -/
def EncryptsTo (coins : Coins) (workers : Option Int) (data : Bytes) (key : Key) (scheme : Scheme)
    (outcome : Except CodecError Bytes) : Prop :=
  match scheme.chunkSize key.size with
  | .error cause => outcome = .error (.keyTooSmall cause)
  | .ok size => ∃ blocks, Pool.ComesTo workers (encryptChunk coins key.publicView scheme)
      (Bytes.pieces size data) blocks ∧ outcome = blocks.map List.flatten

/-- Whether decryption may come to an outcome: the length of the message and the material of the key
are looked at first, and then the blocks are decrypted, which the workers share if there are several
of both. -/
def DecryptsTo (coins : Coins) (workers : Option Int) (message : Bytes) (key : Key)
    (scheme : Scheme) (outcome : Except CodecError Bytes) : Prop :=
  match blocks message key.size, key.privateView? with
  | .error cause, _ => outcome = .error cause
  | .ok _, none => outcome = .error (.decryption .noPrivateMaterial)
  | .ok parts, some secret => ∃ data, Pool.ComesTo workers (decryptBlock coins secret scheme)
      parts data ∧ outcome = data.map List.flatten

/-- Encryption comes to what it comes to in order, and to nothing else. -/
theorem encryptsTo_iff (pool : Pool) : EncryptsTo coins workers data key scheme outcome ↔
    outcome = encrypt coins pool data key scheme := by
  rw [EncryptsTo, encrypt]
  cases scheme.chunkSize key.size with
  | error cause => exact Iff.rfl
  | ok size =>
      simp only [Pool.comesTo_iff, exists_eq_left, Pool.map_eq_inOrder]
      exact Iff.rfl

/-- Decryption comes to what it comes to in order, and to nothing else. -/
theorem decryptsTo_iff (pool : Pool) : DecryptsTo coins workers message key scheme outcome ↔
    outcome = decrypt coins pool message key scheme := by
  rw [DecryptsTo, decrypt]
  cases blocks message key.size with
  | error cause => exact Iff.rfl
  | ok parts =>
      cases key.privateView? with
      | none => exact Iff.rfl
      | some secret =>
          simp only [Pool.comesTo_iff, exists_eq_left, Pool.map_eq_inOrder]
          exact Iff.rfl

/-- Encryption with a pool comes to what one worker comes to. -/
theorem encrypt_eq_single (pool : Pool) :
    encrypt coins pool data key scheme = encrypt coins .single data key scheme := by
  have h : EncryptsTo coins pool.workers data key scheme (encrypt coins pool data key scheme) :=
    (encryptsTo_iff pool).mpr rfl
  exact (encryptsTo_iff .single).mp h

/-- Decryption with a pool comes to what one worker comes to. -/
theorem decrypt_eq_single (pool : Pool) :
    decrypt coins pool message key scheme = decrypt coins .single message key scheme := by
  have h : DecryptsTo coins pool.workers message key scheme
      (decrypt coins pool message key scheme) := (decryptsTo_iff pool).mpr rfl
  exact (decryptsTo_iff .single).mp h

/-! ### Failures -/

/-- A chunk that is not encrypted fails for the key, and the failure says where it is. -/
theorem encryptChunk_eq_error_iff {key : PublicKey} {i : Nat} {chunk : Bytes} {e : CodecError} :
    encryptChunk coins key scheme i chunk = .error e ↔
      (∃ e, encryptChunk coins key scheme i chunk = .error e) ∧ e = .encryption i .refused := by
  rw [encryptChunk]
  split
  · simpa using eq_comm
  · simp

/-- A block that is not decrypted fails for its padding, and the failure says where it is. -/
theorem decryptBlock_eq_error_iff_exists {key : PrivateKey} {i : Nat} {block : Bytes}
    {e : CodecError} : decryptBlock coins key scheme i block = .error e ↔
      (∃ e, decryptBlock coins key scheme i block = .error e) ∧
        e = .decryption (.badPadding scheme i) := by
  rw [decryptBlock]
  cases (openBlock? coins key scheme i block).bind (unpadBlock? scheme) with
  | some data => simp
  | none => simpa using eq_comm

/-- Encryption under a key that is long enough fails at the first chunk that fails. -/
theorem encrypt_eq_error_iff (hsize : scheme.overhead < key.size) (pool : Pool) {e : CodecError} :
    encrypt coins pool data key scheme = .error e ↔
      ∃ i, IsLeast {i | (key.size - scheme.overhead) * i < data.length ∧
          ∃ e, encryptChunk coins key.publicView scheme i
            (blockAt (key.size - scheme.overhead) data i) = .error e} i ∧
        e = .encryption i .refused := by
  rw [encrypt_eq_inOrder hsize, Except.map_eq_error_iff]
  have htask : ∀ i chunk e, encryptChunk coins key.publicView scheme i chunk = .error e ↔
      (∃ e, encryptChunk coins key.publicView scheme i chunk = .error e) ∧
        e = .encryption i .refused := fun _ _ _ => encryptChunk_eq_error_iff
  exact inOrder_pieces_eq_error_iff (Nat.sub_pos_of_lt hsize) fun i chunk _ => htask i chunk

/-- Decryption of a message that can be cut fails at the first block that fails. -/
theorem decrypt_eq_error_iff_exists {secret : PrivateKey} (hsecret : key.privateView? = some secret)
    (hsize : 0 < key.size) (hdvd : key.size ∣ message.length) (pool : Pool) {e : CodecError} :
    decrypt coins pool message key scheme = .error e ↔
      ∃ i, IsLeast {i | key.size * i < message.length ∧
          ∃ e, decryptBlock coins secret scheme i (blockAt key.size message i) = .error e} i ∧
        e = .decryption (.badPadding scheme i) := by
  rw [decrypt_of_dvd hsecret pool hdvd, Except.map_eq_error_iff]
  have htask : ∀ i block e, decryptBlock coins secret scheme i block = .error e ↔
      (∃ e, decryptBlock coins secret scheme i block = .error e) ∧
        e = .decryption (.badPadding scheme i) := fun _ _ _ => decryptBlock_eq_error_iff_exists
  exact inOrder_pieces_eq_error_iff hsize fun i block _ => htask i block

/-! ### Many workers -/

/-- **Several workers come to what one comes to.** Whatever the number of workers that is asked for,
or if none is, encryption and decryption come to the outcome that they have with one worker who
works in order, and to no other; the octets, or the failure with its position, are the same. So
`encrypt` and `decrypt` themselves come to the same with every pool. If the work is shared by more
than one worker, no schedule is stuck and none goes on forever. A failure of a chunk or of a block
is that of the least position that fails. And what blinds the operations of a valid key makes no
difference to decryption. -/
theorem parallel_eq_sequential (coins : Coins) (workers : Option Int) (data : Bytes) (key : Key)
    (scheme : Scheme) :
    (∀ outcome, EncryptsTo coins workers data key scheme outcome ↔
      outcome = encrypt coins .single data key scheme) ∧
    (∀ outcome, DecryptsTo coins workers data key scheme outcome ↔
      outcome = decrypt coins .single data key scheme) ∧
    (∀ pool, encrypt coins pool data key scheme = encrypt coins .single data key scheme ∧
      decrypt coins pool data key scheme = decrypt coins .single data key scheme) ∧
    (∀ crew : Nat, 1 < crew → (∀ size, scheme.chunkSize key.size = .ok size →
        Crew.Settles crew (encryptChunk coins key.publicView scheme) (Bytes.pieces size data)
          (Pool.inOrder (encryptChunk coins key.publicView scheme) 0 (Bytes.pieces size data))) ∧
      ∀ secret parts, key.privateView? = some secret → blocks data key.size = .ok parts →
        Crew.Settles crew (decryptBlock coins secret scheme) parts
          (Pool.inOrder (decryptBlock coins secret scheme) 0 parts)) ∧
    (scheme.overhead < key.size → ∀ e, encrypt coins .single data key scheme = .error e ↔
      ∃ i, IsLeast {i | (key.size - scheme.overhead) * i < data.length ∧
          ∃ e, encryptChunk coins key.publicView scheme i
            (blockAt (key.size - scheme.overhead) data i) = .error e} i ∧
        e = .encryption i .refused) ∧
    (∀ secret, key.privateView? = some secret → 0 < key.size → key.size ∣ data.length →
      ∀ e, decrypt coins .single data key scheme = .error e ↔
        ∃ i, IsLeast {i | key.size * i < data.length ∧
            ∃ e, decryptBlock coins secret scheme i (blockAt key.size data i) = .error e} i ∧
          e = .decryption (.badPadding scheme i)) ∧
    ∀ secret, key = .ofPrivate secret → secret.Valid → coins.Blinds secret.toPublic →
      ∀ coins' : Coins, coins'.Blinds secret.toPublic →
        decrypt coins' .single data key scheme = decrypt coins .single data key scheme := by
  refine ⟨fun _ => encryptsTo_iff .single, fun _ => decryptsTo_iff .single,
    fun pool => ⟨encrypt_eq_single pool, decrypt_eq_single pool⟩, ?_,
    fun hsize _ => encrypt_eq_error_iff hsize .single,
    fun _ hsecret hsize hdvd _ => decrypt_eq_error_iff_exists hsecret hsize hdvd .single, ?_⟩
  · intro crew hcrew
    have hsome : 0 < crew := Nat.lt_trans Nat.zero_lt_one hcrew
    exact ⟨fun _ _ => Crew.settles hsome _ _, fun _ _ _ _ => Crew.settles hsome _ _⟩
  · rintro secret rfl hvalid hblinds coins' hblinds'
    exact decrypt_eq_of_blinds hvalid hblinds' hblinds .single .single data

/-- Two workers and two blocks of zeros: the second block is finished first, and what comes out is
the failure of the first. -/
theorem parallel_eq_sequential_sample :
    DecryptsTo .constant (some 2) (List.replicate 28 0) (.ofPrivate .sample) .pkcs1v15
      (.error (.decryption (.badPadding .pkcs1v15 0))) ∧
    (Crew.start.run? 2 (decryptBlock .constant .sample .pkcs1v15)
        [List.replicate 14 0, List.replicate 14 0]
        [.handsIn, .takes 0, .handsIn, .takes 1, .finishes 1, .finishes 0, .collects]).bind
          Crew.outcome? = some (.error (.decryption (.badPadding .pkcs1v15 0))) := by
  constructor
  · refine ((parallel_eq_sequential .constant (some 2) (List.replicate 28 0) (.ofPrivate .sample)
      .pkcs1v15).2.1 _).mpr ?_
    decide +kernel
  · decide +kernel

end SealedRpc.Codec
