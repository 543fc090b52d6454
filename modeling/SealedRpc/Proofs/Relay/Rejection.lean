import SealedRpc.Proofs.Codec.Decryption
import SealedRpc.Proofs.Relay.Failure
import SealedRpc.Proofs.Relay.Posted
import SealedRpc.Proofs.Relay.Reply

/-!
# Rejections look alike

Who can see why a block was rejected can use the relay as an oracle and read messages that are
not meant for him. So the relay does not say: a body that it cannot decrypt is answered in one
way, whether its length is wrong, a block is no number below the modulus, or the padding of some
block is not what it should be, and a signature that does not verify is answered in one way too.

The statement is about two runs. Each of them may have random choices and a network of its own,
and nothing ties the bodies together but that both are rejected. What makes it true is that there
is no third way out: with a valid key decryption ends with data or with one of the two failures
that the relay maps to its answer, and the text of an envelope that was read has octets on which
a signature either verifies or does not. Which messages are rejected does not depend on the
random choices, because blinding cancels out.

## Main results

* `Codec.eq_of_decrypt_error`: the two ways in which decryption fails.
* `Relay.Service.answer_undecryptable`, `Relay.Service.answer_unverified`: the one answer to what
  is rejected.
* `Relay.Service.answer_rejected`: two rejections cannot be told apart.
-/

namespace SealedRpc

namespace Codec

variable {coins : Coins} {scheme : Scheme} {key : PrivateKey}

/-- With private material decryption fails because of the length of the message or because of the
padding of a block. -/
theorem eq_of_decrypt_error {pool : Pool} {message : Bytes} {error : CodecError}
    (h : decrypt coins pool message (.ofPrivate key) scheme = .error error) :
    error = .malformedCiphertext key.toPublic.size message.length ∨
      ∃ index, error = .decryption (.badPadding scheme index) := by
  have hfails : Except.FailsWith
      (fun error => error = .malformedCiphertext key.toPublic.size message.length ∨
        ∃ index, error = .decryption (.badPadding scheme index))
      (decrypt coins pool message (.ofPrivate key) scheme) :=
    failsWith_decrypt pool (.inl rfl) nofun fun index => .inr ⟨index, rfl⟩
  exact hfails error h

end Codec

namespace Relay.Service

variable {s : Service} {coins coins' : Coins} {network network' : Http.Network} {call call' : Call}

/-! ### What is rejected -/

/-- A post with a body that is not decrypted, whatever the reason is. -/
structure Undecryptable (s : Service) (call : Call) : Prop extends Posts s .encryptedBody call where
  fails : ∃ (coins : Coins) (pool : Pool) (error : CodecError), coins.Blinds s.key.publicView ∧
    Codec.decrypt coins pool call.body s.key s.settings.scheme = .error error

/-- A post with an envelope whose signature is not one of the client. -/
structure Unverified (s : Service) (call : Call) : Prop extends Posts s .signedEnvelope call where
  fails : ∃ (envelope : Envelope) (key : Key), Posted.read call.body = .ok envelope ∧
    s.clientKey? = some key ∧
    ∀ octets, Utf8.encode? envelope.text = some octets →
      Signature.verify octets envelope.signature key = false

/-! ### The answers -/

/-- A refusal in the own words of the relay goes out as it is. -/
theorem respond_refused {refusal : Refusal} (h : refusal.isOwn = true) (id : RequestId) :
    s.respond id (.refused refusal)
      = ⟨refusal.status, .json (detailJson refusal), some id, none⟩ := by
  have hencodable : (detailJson refusal).encodable = true := by
    simp only [detailJson, Json.encodable, Json.every, Json.everyField, Utf8.encodable_ofString,
      Refusal.encodable_detail h, Bool.and_true]
  rw [respond, jsonResponse, Utf8.encode?, Json.encodable_render, hencodable]
  rfl

section

variable [Json.NestingLimit]

/-- A body that is not decrypted has one answer, and nothing else is done with it. -/
theorem answer_undecryptable {key : PrivateKey} (hvalid : key.Valid)
    (hkey : s.key = .ofPrivate key) (hcoins : coins.Blinds key.toPublic) (network : Http.Network)
    (h : s.Undecryptable call) :
    (s.answer coins network call).response
      = ⟨400, .json (detailJson .undecryptable), some (requestId call.headers), none⟩ ∧
    (s.answer coins network call).served.handled = [] ∧
    (s.answer coins network call).served.sent = [] := by
  obtain ⟨coins', pool, error, hcoins', hfails⟩ := h.fails
  rw [hkey] at hcoins' hfails
  rw [Codec.decrypt_eq_of_blinds hvalid hcoins' hcoins pool .single] at hfails
  have hserved : s.dispatch coins network call
      = ⟨.refused .undecryptable, [], [], [.decryptFailed error.message]⟩ := by
    rw [h.toPosts.dispatch_eq]
    dsimp only
    rw [serveEncrypted, hkey]
    obtain rfl | ⟨index, rfl⟩ := Codec.eq_of_decrypt_error hfails
    · simp only [hfails]
    · simp only [hfails]
  have hresponse : (s.answer coins network call).response
      = s.respond (requestId call.headers) (s.dispatch coins network call).ending := rfl
  have hkept : (s.answer coins network call).served = s.dispatch coins network call := rfl
  rw [hresponse, hkept, hserved]
  exact ⟨respond_refused rfl _, rfl, rfl⟩

/-- An envelope whose signature is not one of the client has one answer, and nothing else is done
with it. -/
theorem answer_unverified (coins : Coins) (network : Http.Network) (h : s.Unverified call) :
    (s.answer coins network call).response
      = ⟨403, .json (detailJson .badSignature), some (requestId call.headers), none⟩ ∧
    (s.answer coins network call).served.handled = [] ∧
    (s.answer coins network call).served.sent = [] := by
  obtain ⟨envelope, key, hread, hkey, hverify⟩ := h.fails
  obtain ⟨octets, hoctets⟩ := exists_encode?_of_read hread
  have hserved : s.dispatch coins network call = .early (.refused .badSignature) := by
    rw [h.toPosts.dispatch_eq]
    simp only [serveSigned, hread, serveEnvelope, hkey, verifies, hoctets, hverify octets hoctets]
  have hresponse : (s.answer coins network call).response
      = s.respond (requestId call.headers) (s.dispatch coins network call).ending := rfl
  have hkept : (s.answer coins network call).served = s.dispatch coins network call := rfl
  rw [hresponse, hkept, hserved]
  exact ⟨respond_refused rfl _, rfl, rfl⟩

/-! ### Two runs -/

/-- What a response says besides the id of the request. -/
def Response.withoutId (response : Response) : Response := { response with id? := none }

/-- **Rejections look alike.** Take a relay that started with a valid key, and two runs of it,
each with random choices and a network of its own. If both get bodies that decryption rejects, or
both get envelopes whose signatures do not verify, then the two responses have the same status
and say the same, and in neither run is the handler called or anything sent.

There is no other way to be rejected: whatever octets decryption gets, under either padding, it
fails because of their length or because of the padding of a block. A block has more octets than
the padding asks for, and what the private operation gives always fits into one. -/
theorem answer_rejected {key : PrivateKey} (hvalid : key.Valid) {startCoins : Coins}
    {env : Environment} {files : Files} {settings : ServiceSettings} {provision : Provision}
    (hstart : start startCoins env files settings provision = .ok s)
    (hkey : s.key = .ofPrivate key) (hcoins : coins.Blinds key.toPublic)
    (hcoins' : coins'.Blinds key.toPublic) :
    (∀ pool message scheme error, Codec.decrypt coins pool message s.key scheme = .error error →
      error = .malformedCiphertext s.key.size message.length ∨
        ∃ index, error = .decryption (.badPadding scheme index)) ∧
    s.settings.scheme.overhead < s.key.size ∧
    (∀ factor value result, key.operate? factor value = some result →
      result < 256 ^ s.key.size) ∧
    (s.Undecryptable call → s.Undecryptable call' →
      (s.answer coins network call).response.status = 400 ∧
      (s.answer coins network call).response.withoutId
        = (s.answer coins' network' call').response.withoutId ∧
      (s.answer coins network call).served.handled = [] ∧
      (s.answer coins network call).served.sent = []) ∧
    (s.Unverified call → s.Unverified call' →
      (s.answer coins network call).response.status = 403 ∧
      (s.answer coins network call).response.withoutId
        = (s.answer coins' network' call').response.withoutId ∧
      (s.answer coins network call).served.handled = [] ∧
      (s.answer coins network call).served.sent = []) := by
  refine ⟨fun pool message scheme error herror => ?_, (ready_of_start hstart).usable.overhead_lt,
    fun factor value result hresult => ?_, fun h h' => ?_, fun h h' => ?_⟩
  · rw [hkey] at herror ⊢
    exact Codec.eq_of_decrypt_error herror
  · rw [hkey]
    exact PrivateKey.lt_of_operate? hvalid.modulus_pos hresult
  · obtain ⟨hresponse, hhandled, hsent⟩ := answer_undecryptable hvalid hkey hcoins network h
    obtain ⟨hresponse', -, -⟩ := answer_undecryptable hvalid hkey hcoins' network' h'
    rw [hresponse, hresponse']
    exact ⟨rfl, rfl, hhandled, hsent⟩
  · obtain ⟨hresponse, hhandled, hsent⟩ := answer_unverified coins network h
    obtain ⟨hresponse', -, -⟩ := answer_unverified coins' network' h'
    rw [hresponse, hresponse']
    exact ⟨rfl, rfl, hhandled, hsent⟩

end

/-- A post of an envelope. -/
def envelopePost (envelope : Envelope) : Call :=
  ⟨"POST", "/signed-request", [], (envelope.toBytes?).getD []⟩

/-- The small relay gives one answer to a body that is too short and to one whose number is above
the modulus, and one answer to an envelope without a signature and to one with a wrong
signature. -/
theorem answer_rejected_sample : PrivateKey.Valid .sample ∧
    start .constant [] (Files.ofDirectory []) (smallSettings .publicRecover)
        ⟨some (.ofPrivate .sample), some (.ofPrivate .secondSample), some (.always .null)⟩
      = .ok (smallRelay .publicRecover) ∧
    ((smallRelay .publicRecover).answer .constant sampleNetwork
        ⟨"POST", "/encrypted-request", [], [0xFF]⟩).response.withoutId
      = ((smallRelay .publicRecover).answer .constant sampleNetwork
        ⟨"POST", "/encrypted-request", [], List.replicate 14 0xFF⟩).response.withoutId ∧
    ((smallRelay .publicRecover).answer .constant sampleNetwork
        (envelopePost ⟨"\x7b\x7d", []⟩)).response.withoutId
      = ((smallRelay .publicRecover).answer .constant sampleNetwork
        (envelopePost ⟨"[]", List.replicate 14 1⟩)).response.withoutId := by
  have hblinds := Coins.blinds_constant PrivateKey.valid_sample.odd_modulus
  have hundecryptable (body : Bytes) (hwithin : body.length ≤ 14)
      (hfails :
        (Codec.decrypt .constant .single body (.ofPrivate .sample) .pkcs1v15).isOk = false) :
      (smallRelay .publicRecover).Undecryptable ⟨"POST", "/encrypted-request", [], body⟩ := by
    refine ⟨⟨ofPath?_path .encryptedBody, rfl, ?_⟩, ?_⟩
    · exact (Int.ofNat_le.mpr hwithin).trans (by decide)
    · cases hresult : Codec.decrypt .constant .single body (.ofPrivate .sample) .pkcs1v15 with
      | ok data =>
          rw [hresult] at hfails
          cases hfails
      | error error => exact ⟨.constant, .single, error, hblinds, hresult⟩
  have hunverified (envelope : Envelope) (hlength : envelope.signature.length ≤ 14)
      (hbytes : (envelope.toBytes?).any fun b => b.length ≤ 100)
      (hfails : ∀ octets, Signature.verify octets envelope.signature (.ofPrivate .secondSample)
        = false) :
      (smallRelay .publicRecover).Unverified (envelopePost envelope) := by
    obtain ⟨b, hb⟩ : ∃ b, envelope.toBytes? = some b := by
      cases hb : envelope.toBytes? with
      | none =>
          rw [hb] at hbytes
          cases hbytes
      | some b => exact ⟨b, rfl⟩
    have hwithin : b.length ≤ 100 := by
      rw [hb] at hbytes
      exact of_decide_eq_true hbytes
    have hbody : (envelopePost envelope).body = b := by rw [envelopePost, hb, Option.getD_some]
    have hread : Posted.read b = .ok envelope :=
      Posted.read_toBytes? hb (hlength.trans (by decide))
    refine ⟨⟨ofPath?_path .signedEnvelope, rfl, ?_⟩, envelope, _, ?_, rfl, fun octets _ =>
      hfails octets⟩
    · rw [hbody]
      exact (Int.ofNat_le.mpr hwithin).trans (by decide)
    · rw [hbody, hread]
  have hmissing (octets : Bytes) :
      Signature.verify octets [] (.ofPrivate .secondSample) = false := by
    rw [Signature.verify, Bool.and_eq_false_iff]
    exact .inl (by decide +kernel)
  have hwrong (octets : Bytes) :
      Signature.verify octets (List.replicate 14 1) (.ofPrivate .secondSample) = false := by
    have hnone : Signature.recover? (List.replicate 14 1)
        (Key.ofPrivate .secondSample).publicView = none := by decide +kernel
    rw [Signature.verify, hnone, Bool.and_eq_false_iff]
    exact .inr rfl
  have halike (call call' : Call) := @answer_rejected _ _ _ sampleNetwork sampleNetwork call call'
    _ _ PrivateKey.valid_sample _ _ _ _ _ (start_smallRelay .publicRecover) rfl hblinds hblinds
  refine ⟨PrivateKey.valid_sample, start_smallRelay .publicRecover, ?_, ?_⟩
  · obtain ⟨-, -, -, hbodies, -⟩ := halike ⟨"POST", "/encrypted-request", [], [0xFF]⟩
      ⟨"POST", "/encrypted-request", [], List.replicate 14 0xFF⟩
    exact (hbodies (hundecryptable [0xFF] (by decide) (by decide +kernel))
      (hundecryptable (List.replicate 14 0xFF) (by decide) (by decide +kernel))).2.1
  · obtain ⟨-, -, -, -, henvelopes⟩ := halike (envelopePost ⟨"\x7b\x7d", []⟩)
      (envelopePost ⟨"[]", List.replicate 14 1⟩)
    exact (henvelopes (hunverified _ (by decide) (by decide +kernel) hmissing)
      (hunverified _ (by decide) (by decide +kernel) hwrong)).2.1

end Relay.Service

end SealedRpc
