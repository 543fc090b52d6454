import SealedRpc.Proofs.Relay.Startup

/-!
# Replies can be read

The start of a relay tries its keys out on three octets and no more. From that it follows that a
reply of any length is encrypted: a usable key has room for data besides the padding, and the
padding of a signature takes as much of a block as that of an encrypted chunk. A relay that
encrypts replies for its client cannot have started without a key of the client. Whoever holds
the key that matches reads the payload from what is sent.

## Main results

* `encryptReply_decodes`: what a relay that started sends is read as the payload.
-/

namespace SealedRpc.Relay.Service

variable {s : Service} {coins : Coins}

/-- Whether a message is read as a payload by everyone who is meant to: with the private key
that belongs to the key of the client, or with the public key of the relay. -/
structure Decodes (s : Service) (message payload : Bytes) : Prop where
  privateDecrypt : s.settings.decoding = .privateDecrypt →
    ∃ clientKey, s.clientKey? = some clientKey ∧
      ∀ secret : PrivateKey, secret.Valid → secret.toPublic = clientKey.publicView →
        ∀ coins : Coins, coins.Blinds secret.toPublic → ∀ pool,
          Codec.decrypt coins pool message (.ofPrivate secret) s.settings.scheme = .ok payload
  publicRecover : s.settings.decoding = .publicRecover →
    Codec.publicDecrypt message s.key.publicOnly s.settings.scheme = .ok payload

/-- A key that is usable has the size that the settings expect. -/
theorem Ready.keySize_eq (h : Ready s.settings s.key s.clientKey?) :
    s.settings.keySize = s.key.size :=
  (ExpectedSize.is_octets_iff _ _).mp h.usable.size_eq

/-- The key of the client has the size that the settings expect. -/
theorem Ready.keySize_eq_client (h : Ready s.settings s.key s.clientKey?) {clientKey : Key}
    (hclient : s.clientKey? = some clientKey) : s.settings.keySize = clientKey.size :=
  (ExpectedSize.is_octets_iff _ _).mp (h.clientUsable clientKey hclient).size_eq

/-- What is encrypted for the client is read with its private key. -/
theorem Ready.decodes_message (h : Ready s.settings s.key s.clientKey?) {clientKey : Key}
    (hclient : s.clientKey? = some clientKey) (hdecoding : s.settings.decoding = .privateDecrypt)
    (payload : Bytes) :
    s.Decodes (Codec.message coins clientKey.publicView s.settings.scheme payload) payload := by
  refine ⟨fun _ => ⟨clientKey, hclient, ?_⟩, fun hother => ?_⟩
  · intro secret hsecret hview coins' hcoins pool
    have hover := (h.clientUsable clientKey hclient).overhead_lt
    rw [Key.size, ← hview] at hover
    rw [← hview]
    exact Codec.decrypt_message hsecret hover hcoins pool payload
  · cases hdecoding.symm.trans hother

/-- What the relay signs block by block is read with its public key. -/
theorem Ready.decodes_signedMessage (h : Ready s.settings s.key s.clientKey?) {key : PrivateKey}
    (hvalid : key.Valid) (hkey : s.key = .ofPrivate key)
    (hdecoding : s.settings.decoding = .publicRecover) (payload : Bytes) :
    s.Decodes (Codec.signedMessage key payload) payload := by
  refine ⟨fun hother => ?_, fun _ => ?_⟩
  · cases hdecoding.symm.trans hother
  · have husable := h.usable
    rw [hkey, h.recovery hdecoding] at husable
    rw [hkey, h.recovery hdecoding]
    exact Codec.publicDecrypt_signedMessage hvalid husable.overhead_lt husable.accepted payload

/-- **Replies can be read.** A relay that started and that has a valid private key encrypts every
payload. What it sends is made of blocks of the size in its settings, one for each chunk, and it
is read as the payload: with the private key that belongs to the key of the client, of which
there is one then, or with the public key of the relay, as the settings say. -/
theorem encryptReply_decodes [Json.NestingLimit] {key : PrivateKey} (hvalid : key.Valid)
    {startCoins : Coins} {env : Environment} {files : Files} {settings : ServiceSettings}
    {provision : Provision}
    (hstart : start startCoins env files settings provision = .ok s)
    (hkey : s.key = .ofPrivate key) (hcoins : coins.Blinds key.toPublic) (payload : Bytes) :
    ∃ message, s.encryptReply coins payload = .ok message ∧
      (message.length : Int) = settings.keySize
        * (payload.length ⌈/⌉ (s.key.size - settings.scheme.overhead) : Nat) ∧
      s.Decodes message payload := by
  have hready := ready_of_start hstart
  obtain rfl := (checkKeys_of_start hstart).1
  cases hdecoding : s.settings.decoding with
  | privateDecrypt =>
      obtain ⟨clientKey, hclient⟩ := Option.isSome_iff_exists.mp (hready.client hdecoding)
      have hsize : s.key.size = clientKey.size :=
        Int.ofNat_inj.mp (hready.keySize_eq.symm.trans (hready.keySize_eq_client hclient))
      refine ⟨_, hready.encryptReply_privateDecrypt hclient hdecoding payload, ?_,
        hready.decodes_message hclient hdecoding payload⟩
      rw [Codec.length_message (hready.clientUsable clientKey hclient).overhead_lt,
        hready.keySize_eq, hsize]
      exact Int.natCast_mul _ _
  | publicRecover =>
      have hscheme := hready.recovery hdecoding
      have hover := hready.usable.overhead_lt
      refine ⟨_, hready.encryptReply_publicRecover hvalid hkey hcoins hdecoding payload, ?_,
        hready.decodes_signedMessage hvalid hkey hdecoding payload⟩
      rw [hkey, hscheme] at hover
      rw [Codec.length_signedMessage hover, hready.keySize_eq, hkey, hscheme]
      exact Int.natCast_mul _ _

/-! ### A relay of fourteen octets -/

/-- The settings of a small relay. -/
def smallSettings (decoding : ResponseDecoding) : ServiceSettings :=
  { ServiceSettings.default with scheme := .pkcs1v15, keySize := 14, decoding := decoding }

/-- Two keys of fourteen octets fit these settings, however replies are decoded. -/
theorem ready_smallSettings (decoding : ResponseDecoding) :
    Ready (smallSettings decoding) (.ofPrivate .sample) (some (.ofPrivate .secondSample)) := by
  have husable : Codec.Usable (.ofPrivate .sample) .pkcs1v15 (14 : Int) :=
    ⟨by decide +kernel, by decide +kernel, by decide +kernel⟩
  have hclientUsable : Codec.Usable (.ofPrivate .secondSample) .pkcs1v15 (14 : Int) :=
    ⟨by decide +kernel, by decide +kernel, by decide +kernel⟩
  refine ⟨rfl, fun _ => rfl, fun _ => rfl, husable, ?_⟩
  rintro clientKey ⟨⟩
  exact hclientUsable

/-- A small relay that answers null to everything. -/
def smallRelay (decoding : ResponseDecoding) : Service :=
  ⟨smallSettings decoding, .ofPrivate .sample, some (.ofPrivate .secondSample), .always .null, 20⟩

/-- The keys of that relay pass its checks, however its replies are decoded. -/
theorem start_smallRelay (decoding : ResponseDecoding) :
    start .constant [] (Files.ofDirectory []) (smallSettings decoding)
        ⟨some (.ofPrivate .sample), some (.ofPrivate .secondSample), some (.always .null)⟩
      = .ok (smallRelay decoding) :=
  start_of_ready (ready_smallSettings decoding) (by decide +kernel) _ _ _

/-- Five octets make two blocks, for the client as well as for everyone. -/
theorem encryptReply_decodes_sample : PrivateKey.Valid .sample ∧
    start .constant [] (Files.ofDirectory []) (smallSettings .privateDecrypt)
        ⟨some (.ofPrivate .sample), some (.ofPrivate .secondSample), some (.always .null)⟩
      = .ok (smallRelay .privateDecrypt) ∧
    (∃ message,
      (smallRelay .privateDecrypt).encryptReply .constant [0, 255, 7, 0, 9] = .ok message ∧
        message.length = 28 ∧
        Codec.decrypt .constant .single message (.ofPrivate .secondSample) .pkcs1v15
          = .ok [0, 255, 7, 0, 9]) ∧
    ∃ message,
      (smallRelay .publicRecover).encryptReply .constant [0, 255, 7, 0, 9] = .ok message ∧
        message.length = 28 ∧
        Codec.publicDecrypt message (Key.ofPrivate .sample).publicOnly .pkcs1v15
          = .ok [0, 255, 7, 0, 9] := by
  have hblinds := Coins.blinds_constant PrivateKey.valid_sample.odd_modulus
  have hsize : PrivateKey.sample.toPublic.size = 14 := by decide +kernel
  have hblocks : (([0, 255, 7, 0, 9] : Bytes).length
      ⌈/⌉ (PrivateKey.sample.toPublic.size - Scheme.pkcs1v15.overhead)) = 2 := by
    rw [hsize]
    decide
  refine ⟨PrivateKey.valid_sample, start_smallRelay .privateDecrypt, ?_, ?_⟩
  · obtain ⟨message, hmessage, hlength, hdecodes⟩ := encryptReply_decodes PrivateKey.valid_sample
      (start_smallRelay .privateDecrypt) rfl hblinds [0, 255, 7, 0, 9]
    obtain ⟨clientKey, ⟨⟩, hdecrypt⟩ := hdecodes.privateDecrypt rfl
    refine ⟨message, hmessage, Int.ofNat_inj.mp (hlength.trans ?_), ?_⟩
    · exact congrArg (fun n : Nat => (14 : Int) * n) hblocks
    · exact hdecrypt .secondSample PrivateKey.valid_secondSample rfl .constant
        (Coins.blinds_constant PrivateKey.valid_secondSample.odd_modulus) .single
  · obtain ⟨message, hmessage, hlength, hdecodes⟩ := encryptReply_decodes PrivateKey.valid_sample
      (start_smallRelay .publicRecover) rfl hblinds [0, 255, 7, 0, 9]
    refine ⟨message, hmessage, Int.ofNat_inj.mp (hlength.trans ?_), hdecodes.publicRecover rfl⟩
    exact congrArg (fun n : Nat => (14 : Int) * n) hblocks

end SealedRpc.Relay.Service
