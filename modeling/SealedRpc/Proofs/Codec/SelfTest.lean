import SealedRpc.Proofs.Codec.RoundTrip

/-!
# What the self-test tells

The self-test turns a sample into one block. It passes exactly if the key has the expected
size, leaves room for the sample besides the padding, and is not refused; the random choices
play no part in it.

Not all keys that encrypt pass. A key that is longer than the padding by less than the sample
encrypts everything, but it makes several blocks of the sample, and the self-test asks for one. It
then reports the length of these blocks as an unexpected size, although the key has the expected
one.

## Main results

* `Usable.encrypt_eq`: under a usable key everything is encrypted.
* `selfTest_eq_ok_iff`: the self-test passes exactly for usable keys.
* `selfTest_eq_error_iff`: the four ways in which it fails.
* `selfTest_exact`: what the verdict says of what the key encrypts.
* `selfTest_narrow`: a key of the expected size that encrypts everything and does not pass.
-/

namespace SealedRpc.Codec

variable {coins : Coins} {scheme : Scheme}

/-- A key of the expected size that encrypts the sample into one block. -/
structure Usable (key : Key) (scheme : Scheme) (expected : ExpectedSize) : Prop where
  size_eq : expected.is key.size = true
  room : sample.length + scheme.overhead ≤ key.size
  accepted : key.publicView.isRefused = false

/-- A usable key is longer than the padding. -/
theorem Usable.overhead_lt {key : Key} {expected : ExpectedSize}
    (h : Usable key scheme expected) : scheme.overhead < key.size := by
  have hroom := h.room
  have hsample : sample.length = 3 := rfl
  omega

/-- Under a usable key everything is encrypted. -/
theorem Usable.encrypt_eq {key : Key} {expected : ExpectedSize} (h : Usable key scheme expected)
    (coins : Coins) (pool : Pool) (data : Bytes) :
    encrypt coins pool data key scheme = .ok (message coins key.publicView scheme data) :=
  (encrypt_eq_ok_iff h.overhead_lt).mpr ⟨.inl h.accepted, rfl⟩

/-- An expected size is the size of keys of one size only. -/
theorem eq_of_expected {expected : ExpectedSize} {m n : Nat} (hm : expected.is m = true)
    (hn : expected.is n = true) : m = n := by
  rw [ExpectedSize.is, decide_eq_true_iff] at hm hn
  exact Int.ofNat_inj.mp (Option.some.inj (hm.symm.trans hn))

/-- A key that encrypts is longer than the padding. -/
theorem overhead_lt_of_encrypt {key : Key} {pool : Pool} {data sent : Bytes}
    (h : encrypt coins pool data key scheme = .ok sent) : scheme.overhead < key.size := by
  rw [encrypt] at h
  obtain ⟨n, hn, -⟩ := Except.bind_eq_ok_iff.mp h
  have := Scheme.chunkSize_eq_ok_iff.mp (Except.mapError_eq_ok_iff.mp hn)
  omega

/-- The self-test looks at the size of the key and at the length of the message. -/
theorem selfTest_eq_ok_iff_exists {key : Key} {expected : ExpectedSize} :
    selfTest coins key scheme expected = .ok () ↔ expected.is key.size = true ∧
      ∃ sent, encrypt coins .single sample key scheme = .ok sent ∧
        expected.is sent.length = true := by
  rw [selfTest]
  cases hsize : expected.is key.size with
  | false => simp [bind, Except.bind]
  | true =>
      cases hsent : encrypt coins .single sample key scheme with
      | error cause => simp [bind, Except.bind]
      | ok sent =>
          cases hlength : expected.is sent.length <;>
            simp [bind, Except.bind, pure, Except.pure, hlength]

/-- The sample makes one block exactly if there is room for it. -/
theorem length_message_sample {key : PublicKey} (hsize : scheme.overhead < key.size) :
    (message coins key scheme sample).length = key.size ↔
      sample.length + scheme.overhead ≤ key.size := by
  have hroom : 0 < key.size - scheme.overhead := by omega
  have hpieces : 0 < sample.length ⌈/⌉ (key.size - scheme.overhead) := by
    rw [← Bytes.length_pieces hroom, Bytes.pieces_of_ne_nil hroom (by decide)]
    exact Nat.succ_pos _
  rw [length_message hsize]
  calc key.size * (sample.length ⌈/⌉ (key.size - scheme.overhead)) = key.size
      ↔ sample.length ⌈/⌉ (key.size - scheme.overhead) ≤ 1 := by
        constructor
        · intro h
          exact (Nat.eq_of_mul_eq_mul_left (by omega) (h.trans (Nat.mul_one _).symm)).le
        · intro h
          rw [Nat.le_antisymm h hpieces, Nat.mul_one]
    _ ↔ sample.length ≤ (key.size - scheme.overhead) * 1 := ceilDiv_le_iff_le_mul hroom
    _ ↔ sample.length + scheme.overhead ≤ key.size := by omega

/-- The self-test passes exactly for usable keys. -/
theorem selfTest_eq_ok_iff {key : Key} {expected : ExpectedSize} :
    selfTest coins key scheme expected = .ok () ↔ Usable key scheme expected := by
  rw [selfTest_eq_ok_iff_exists]
  constructor
  · rintro ⟨hsize, sent, hsent, hlength⟩
    have hover := overhead_lt_of_encrypt hsent
    obtain ⟨haccepted, rfl⟩ := (encrypt_eq_ok_iff hover).mp hsent
    exact ⟨hsize, (length_message_sample hover).mp (eq_of_expected hlength hsize),
      haccepted.resolve_right (by decide)⟩
  · intro h
    have hlength : (message coins key.publicView scheme sample).length = key.size :=
      (length_message_sample h.overhead_lt).mpr h.room
    refine ⟨h.size_eq, _, h.encrypt_eq coins .single sample, ?_⟩
    rw [hlength]
    exact h.size_eq

/-! ### What encryption fails with -/

variable {key : Key} {expected : ExpectedSize}

/-- A key that is no longer than the padding encrypts nothing, not even the empty data. -/
theorem encrypt_of_le_overhead (h : key.size ≤ scheme.overhead) (pool : Pool) (data : Bytes) :
    encrypt coins pool data key scheme = .error (.keyTooSmall ⟨key.size, scheme.overhead⟩) := by
  rw [encrypt, Scheme.chunkSize, if_pos (Int.ofNat_le.mpr h)]
  rfl

/-- A key that is refused fails at the first chunk. -/
theorem encrypt_of_refused (hsize : scheme.overhead < key.size)
    (hrefused : key.publicView.isRefused = true) (pool : Pool) {data : Bytes} (hdata : data ≠ []) :
    encrypt coins pool data key scheme = .error (.encryption 0 .refused) := by
  rw [encrypt_eq_inOrder hsize, Bytes.pieces_of_ne_nil (Nat.sub_pos_of_lt hsize) hdata,
    Pool.inOrder, encryptChunk, if_pos hrefused]
  rfl

/-- A key encrypts all data that is not empty exactly if it is longer than the padding and is not
refused. -/
theorem encrypts_iff {pool : Pool} :
    (∀ data, data ≠ [] → ∃ sent, encrypt coins pool data key scheme = .ok sent) ↔
      scheme.overhead < key.size ∧ key.publicView.isRefused = false := by
  constructor
  · intro h
    obtain ⟨sent, hsent⟩ := h sample (by decide)
    have hsize := overhead_lt_of_encrypt hsent
    obtain ⟨haccepted, -⟩ := (encrypt_eq_ok_iff hsize).mp hsent
    exact ⟨hsize, haccepted.resolve_right (by decide)⟩
  · rintro ⟨hsize, haccepted⟩ data -
    exact ⟨_, (encrypt_eq_ok_iff hsize).mpr ⟨.inl haccepted, rfl⟩⟩

/-! ### What the self-test fails with -/

/-- A key that has not the expected size fails before anything is encrypted. -/
theorem selfTest_of_unexpected (h : expected.is key.size = false) :
    selfTest coins key scheme expected = .error (.ofSize expected key.size) := by
  rw [selfTest, h]
  rfl

/-- With a key of the expected size the self-test fails as encryption of the sample does, or for
the length of the message. -/
theorem selfTest_of_expected (h : expected.is key.size = true) :
    selfTest coins key scheme expected = (encrypt coins .single sample key scheme).bind fun sent =>
      if expected.is sent.length then .ok () else .error (.ofSize expected sent.length) := by
  rw [selfTest, h]
  cases encrypt coins .single sample key scheme with
  | error cause => rfl
  | ok sent => cases hlength : expected.is sent.length <;>
      simp [bind, Except.bind, pure, Except.pure, hlength]

/-- The self-test fails for the size of the key, for a key no longer than the padding, for a key
that is refused, or for a key that makes more than one block of the sample; and it says which. -/
theorem selfTest_eq_error_iff {e : CodecError} :
    selfTest coins key scheme expected = .error e ↔
      (expected.is key.size = false ∧ e = .ofSize expected key.size) ∨
      (expected.is key.size = true ∧ key.size ≤ scheme.overhead ∧
        e = .keyTooSmall ⟨key.size, scheme.overhead⟩) ∨
      (expected.is key.size = true ∧ scheme.overhead < key.size ∧
        key.publicView.isRefused = true ∧ e = .encryption 0 .refused) ∨
      (expected.is key.size = true ∧ scheme.overhead < key.size ∧
        key.size < sample.length + scheme.overhead ∧ key.publicView.isRefused = false ∧
        e = .ofSize expected
          (key.size * (sample.length ⌈/⌉ (key.size - scheme.overhead)))) := by
  cases hsize : expected.is key.size with
  | false =>
      rw [selfTest_of_unexpected hsize]
      simpa using eq_comm
  | true =>
      rw [selfTest_of_expected hsize]
      by_cases hover : key.size ≤ scheme.overhead
      · rw [encrypt_of_le_overhead hover]
        simpa [Except.bind, hover, Nat.not_lt.mpr hover] using eq_comm
      have hlt := Nat.lt_of_not_le hover
      cases hrefused : key.publicView.isRefused with
      | true =>
          rw [encrypt_of_refused hlt hrefused .single (by decide)]
          simpa [Except.bind, hover, hlt] using eq_comm
      | false =>
          have hlength : (message coins key.publicView scheme sample).length
              = key.size * (sample.length ⌈/⌉ (key.size - scheme.overhead)) :=
            length_message hlt sample
          have hone : (message coins key.publicView scheme sample).length = key.size ↔
              sample.length + scheme.overhead ≤ key.size := length_message_sample hlt
          rw [(encrypt_eq_ok_iff hlt).mpr ⟨.inl hrefused, rfl⟩, ← hlength]
          by_cases hroom : sample.length + scheme.overhead ≤ key.size
          · simp [Except.bind, hone.mpr hroom, hsize, hover, Nat.not_lt.mpr hroom]
          · have hmany : expected.is (message coins key.publicView scheme sample).length = false :=
              Bool.eq_false_iff.mpr fun h => hroom (hone.mp (eq_of_expected h hsize))
            simpa [Except.bind, hmany, hover, hlt, Nat.lt_of_not_le hroom] using eq_comm

/-- **The self-test is exact.** It passes exactly if the key has the expected size, leaves room for
the sample in one block, and encrypts all data that is not empty, which it does exactly if it is
longer than the padding and is not refused. Otherwise it says what is wrong: the size of the key;
that the key is no longer than the padding; that it is refused; or, for a key that encrypts but
leaves no room for the sample, the length of the blocks that the sample makes. -/
theorem selfTest_exact (coins : Coins) (pool : Pool) (key : Key) (scheme : Scheme)
    (expected : ExpectedSize) :
    (selfTest coins key scheme expected = .ok () ↔
      expected.is key.size = true ∧ sample.length + scheme.overhead ≤ key.size ∧
        ∀ data, data ≠ [] → ∃ sent, encrypt coins pool data key scheme = .ok sent) ∧
    ((∀ data, data ≠ [] → ∃ sent, encrypt coins pool data key scheme = .ok sent) ↔
      scheme.overhead < key.size ∧ key.publicView.isRefused = false) ∧
    ∀ e, selfTest coins key scheme expected = .error e ↔
      (expected.is key.size = false ∧ e = .ofSize expected key.size) ∨
      (expected.is key.size = true ∧ key.size ≤ scheme.overhead ∧
        e = .keyTooSmall ⟨key.size, scheme.overhead⟩) ∨
      (expected.is key.size = true ∧ scheme.overhead < key.size ∧
        key.publicView.isRefused = true ∧ e = .encryption 0 .refused) ∨
      (expected.is key.size = true ∧ scheme.overhead < key.size ∧
        key.size < sample.length + scheme.overhead ∧ key.publicView.isRefused = false ∧
        e = .ofSize expected
          (key.size * (sample.length ⌈/⌉ (key.size - scheme.overhead)))) := by
  refine ⟨?_, encrypts_iff, fun e => selfTest_eq_error_iff⟩
  rw [selfTest_eq_ok_iff, encrypts_iff]
  constructor
  · exact fun h => ⟨h.size_eq, h.room, h.overhead_lt, h.accepted⟩
  · rintro ⟨hsize, hroom, -, haccepted⟩
    exact ⟨hsize, hroom, haccepted⟩

/-! ### A key that is narrow for the sample -/

/-- An unexpected size is told along with the expected one, if that is no huge number. -/
theorem ofSize_octets {n : Int} (h : (8 * n).natAbs < 10 ^ digitLimit) (actual : Nat) :
    CodecError.ofSize (.octets n) actual = .unexpectedKeySize (.octets n) actual := by
  rw [CodecError.ofSize, ExpectedSize.bits, ExpectedSize.toJson]
  simp only [ExpectedSize.integerBits, if_neg (Nat.not_le.mpr h)]

/-- A public key of twelve octets, one more than the older padding takes. -/
def narrowKey : Key := .ofPublic ⟨0xc0eb801cf357 * 0xddba7dc7abbf, 0x10001⟩

/-- The narrow key has the expected size and encrypts everything, but it makes three blocks of the
sample, and the self-test takes their length for the size of the key. -/
theorem selfTest_narrow : (ExpectedSize.octets 12).is narrowKey.size = true ∧
    (∀ coins pool data, data ≠ [] →
      ∃ sent, encrypt coins pool data narrowKey .pkcs1v15 = .ok sent) ∧
    ∀ coins, selfTest coins narrowKey .pkcs1v15 (.octets 12)
      = .error (.unexpectedKeySize (.octets 12) 36) := by
  have hsize : narrowKey.size = 12 := by decide +kernel
  have haccepted : narrowKey.publicView.isRefused = false := by decide +kernel
  have hexpected : (ExpectedSize.octets 12).is narrowKey.size = true := by rw [hsize]; rfl
  have hlt : Scheme.pkcs1v15.overhead < narrowKey.size := by rw [hsize]; decide
  refine ⟨hexpected, fun coins pool => encrypts_iff.mpr ⟨hlt, haccepted⟩, fun coins => ?_⟩
  have hshown : CodecError.ofSize (.octets 12) 36 = .unexpectedKeySize (.octets 12) 36 :=
    ofSize_octets (by decide +kernel) 36
  refine selfTest_eq_error_iff.mpr (.inr (.inr (.inr ⟨hexpected, hlt, ?_, haccepted, ?_⟩)))
  · rw [hsize]
    decide
  · rw [hsize, ← hshown]
    rfl

end SealedRpc.Codec
