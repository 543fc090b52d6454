import SealedRpc.Proofs.Codec.Recovery
import SealedRpc.Proofs.Codec.SelfTest
import SealedRpc.Relay.Startup

/-!
# What a running relay has been checked for

A relay runs only with keys that are usable, its own with private material, and with a way to
encrypt replies. These checks are all that its start looks at in the keys, and they are enough
for every reply to be encrypted.

## Main results

* `checkKeys_eq_ok_iff`: the keys and settings that pass the checks.
* `Ready.exists_encryptReply`: a relay that passed them encrypts every reply.
-/

namespace SealedRpc.Relay.Service

/-- Keys and settings that a relay may run with. -/
structure Ready (settings : ServiceSettings) (key : Key) (clientKey? : Option Key) : Prop where
  hasPrivate : key.hasPrivate = true
  recovery : settings.decoding = .publicRecover → settings.scheme = .pkcs1v15
  client : settings.decoding = .privateDecrypt → clientKey?.isSome = true
  usable : Codec.Usable key settings.scheme settings.keySize
  clientUsable : ∀ clientKey ∈ clientKey?, Codec.Usable clientKey settings.scheme settings.keySize

/-- Exactly these pass the checks, whatever the random choices of the self-tests. -/
theorem checkKeys_eq_ok_iff {coins : Coins} {settings : ServiceSettings} {key : Key}
    {clientKey? : Option Key} :
    checkKeys coins settings key clientKey? = .ok () ↔ Ready settings key clientKey? := by
  have htest : ∀ k : Key, (Codec.selfTest coins k settings.scheme settings.keySize).mapError
      StartFault.codec = .ok () ↔ Codec.Usable k settings.scheme settings.keySize :=
    fun k => Except.mapError_eq_ok_iff.trans Codec.selfTest_eq_ok_iff
  rw [checkKeys.eq_def, Except.ite_error_bind_eq_ok_iff, Except.ite_error_bind_eq_ok_iff,
    Except.ite_error_bind_eq_ok_iff]
  constructor
  · rintro ⟨hprivate, hrecovery, hclient, hrest⟩
    obtain ⟨⟨⟩, hown, hother⟩ := Except.bind_eq_ok_iff.mp hrest
    refine ⟨by simpa using hprivate, ?_, ?_, (htest key).mp hown, ?_⟩
    · intro hd
      exact Decidable.of_not_not fun hs => hrecovery ⟨hd, hs⟩
    · intro hd
      cases clientKey? with
      | none => exact absurd ⟨hd, rfl⟩ hclient
      | some clientKey => rfl
    · rintro clientKey rfl
      exact (htest clientKey).mp hother
  · rintro ⟨hprivate, hrecovery, hclient, hown, hother⟩
    refine ⟨by simp [hprivate], fun h => h.2 (hrecovery h.1), ?_, ?_⟩
    · rintro ⟨hd, hnone⟩
      rw [Option.isNone_iff_eq_none.mp hnone] at hclient
      cases hclient hd
    · refine Except.bind_eq_ok_iff.mpr ⟨(), (htest key).mpr hown, ?_⟩
      cases clientKey? with
      | none => rfl
      | some clientKey => exact (htest clientKey).mpr (hother clientKey rfl)

section

variable [Json.NestingLimit]

/-- A relay whose own key cannot be loaded does not start. -/
theorem startIn_of_load {coins : Coins} {env : Environment} {files : Files} {path : Text}
    {scheme : Scheme} {decoding : ResponseDecoding} {fault : KeyFault}
    (hscheme : env.scheme = .ok scheme) (hdecoding : env.decoding = .ok decoding)
    (hpath : named? (env.presentSetting? "MIRROR_PRIVATE_KEY") = some path)
    (hload : Key.loadPrivate files path [] = .error fault) :
    startIn coins env files = .error (.key fault) := by
  simp only [startIn, ServiceSettings.ofEnvironment, hscheme, hdecoding, bind,
    Except.bind, pure, Except.pure, Except.mapError_ok, start,
    obtainKey, Provision.none, hpath, hload, Except.mapError_error]

/-- A relay that runs has keys and settings that it may run with. -/
theorem ready_of_start {coins : Coins} {env : Environment} {files : Files}
    {settings : ServiceSettings} {provision : Provision} {s : Service}
    (h : start coins env files settings provision = .ok s) :
    Ready s.settings s.key s.clientKey? :=
  checkKeys_eq_ok_iff.mp (checkKeys_of_start h).2

/-- Keys that are handed in and that a relay may run with start it. -/
theorem start_of_ready {settings : ServiceSettings} {key clientKey : Key}
    (h : Ready settings key (some clientKey)) {env : Environment} {threshold : Nat}
    (hthreshold : logThreshold env = .ok threshold) (coins : Coins) (files : Files)
    (handler : Handler) :
    start coins env files settings ⟨some key, some clientKey, some handler⟩
      = .ok ⟨settings, key, some clientKey, handler, threshold⟩ := by
  have hchecked : checkKeys coins settings key (some clientKey) = .ok () :=
    checkKeys_eq_ok_iff.mpr h
  rw [start]
  simp only [obtainKey, obtainClientKey, hchecked, hthreshold, bind, Except.bind]
  rfl

end

/-! ### Replies -/

section Replies

variable {s : Service} {coins : Coins}

/-- A reply that is encrypted for the client. -/
theorem Ready.encryptReply_privateDecrypt (h : Ready s.settings s.key s.clientKey?) {key : Key}
    (hkey : s.clientKey? = some key) (hdecoding : s.settings.decoding = .privateDecrypt)
    (payload : Bytes) : s.encryptReply coins payload
      = .ok (Codec.message coins key.publicView s.settings.scheme payload) := by
  have hsent := (h.clientUsable key hkey).encrypt_eq coins .single payload
  rw [encryptReply, hdecoding]
  simp only [hkey, hsent, Except.mapError_ok]

/-- A reply that the relay signs block by block. -/
theorem Ready.encryptReply_publicRecover (h : Ready s.settings s.key s.clientKey?)
    {key : PrivateKey} (hvalid : key.Valid) (hkey : s.key = .ofPrivate key)
    (hcoins : coins.Blinds key.toPublic) (hdecoding : s.settings.decoding = .publicRecover)
    (payload : Bytes) :
    s.encryptReply coins payload = .ok (Codec.signedMessage key payload) := by
  have hscheme := h.recovery hdecoding
  have husable := h.usable
  rw [hkey, hscheme] at husable
  have hsent := Codec.privateEncrypt_eq hvalid husable.overhead_lt hcoins payload
  rw [encryptReply, hdecoding]
  simp only [hkey, hscheme, hsent, Except.mapError_ok]

/-- A relay that passed the checks encrypts every reply. -/
theorem Ready.exists_encryptReply (h : Ready s.settings s.key s.clientKey?) {key : PrivateKey}
    (hvalid : key.Valid) (hkey : s.key = .ofPrivate key) (hcoins : coins.Blinds key.toPublic)
    (payload : Bytes) : ∃ message, s.encryptReply coins payload = .ok message := by
  cases hdecoding : s.settings.decoding with
  | privateDecrypt =>
      obtain ⟨clientKey, hclient⟩ := Option.isSome_iff_exists.mp (h.client hdecoding)
      exact ⟨_, h.encryptReply_privateDecrypt hclient hdecoding payload⟩
  | publicRecover => exact ⟨_, h.encryptReply_publicRecover hvalid hkey hcoins hdecoding payload⟩

end Replies

end SealedRpc.Relay.Service
