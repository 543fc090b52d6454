import SealedRpc.Exchange.Client
import SealedRpc.Proofs.Codec.Checked
import SealedRpc.Proofs.Envelope

/-!
# Signed requests on the wire

What a client signs is the UTF-8 form of a request text, and what it sends is an envelope with
the text itself. The service finds the text again, character for character, so it checks the
signature against the octets that were signed. Whether it can check at all depends on the key:
one for which the public operation is refused signs, and nobody can verify it.

## Main results

* `sealRequest_eq`: the envelope of a request whose text fits.
* `sealRequest_wire`: the envelope is read back from its octets, and its signature verifies.
* `verify_sealRequest_wide`: an envelope whose signature is right and does not verify.
-/

namespace SealedRpc

/-- The signature of octets that fit verifies exactly if the key is not refused. -/
theorem Signature.verify_octets {key : PrivateKey} (hkey : key.Valid) {data : Bytes}
    (hfits : data.length + SignatureBlock.overhead ≤ key.toPublic.size) :
    verify data (octets key data) (Key.ofPrivate key).publicOnly = !key.toPublic.isRefused :=
  verify_of_sign hkey.modulus_pos
    ((sign_eq_ok_iff hkey (Nat.coprime_one_left _)).mpr ⟨hfits, rfl⟩)

namespace Deployment

variable {key : PrivateKey} {coins : Coins}

/-- A request whose text fits into a signature is sealed with its text and the signature of the
octets of its text. -/
theorem sealRequest_eq [Json.NestingLimit] (hkey : key.Valid)
    (hcoins : coins.Blinds key.toPublic) {request : Value} {text : Text} {octets : Bytes}
    (htext : Request.text request = .ok text) (hoctets : Utf8.encode? text = some octets)
    (hfits : octets.length + SignatureBlock.overhead ≤ key.toPublic.size) :
    sealRequest coins request (some (.ofPrivate key))
      = .ok ⟨text, Signature.octets key octets⟩ := by
  have hsigned : Signature.sign (coins.factor 0) octets (.ofPrivate key)
      = .ok (Signature.octets key octets) :=
    (Signature.sign_eq_ok_iff hkey (hcoins 0)).mpr ⟨hfits, rfl⟩
  simp only [sealRequest, htext, encodeText, hoctets, need, hsigned, Except.mapError_ok, bind,
    Except.bind, pure, Except.pure]

/-- **Envelopes on the wire.** A valid private key seals every request whose text has a UTF-8
form that fits into a signature. The envelope holds the text, its octets hold the envelope, and
its signature verifies for the UTF-8 form of the text, unless the public operation is refused for
the key.

Any envelope whose text has a UTF-8 form is held by its octets; and a mapping is read as an
envelope exactly if its request is a text and its signature a list of integers from 0 to 255. -/
theorem sealRequest_wire [Json.NestingLimit] (hkey : key.Valid)
    (hcoins : coins.Blinds key.toPublic) :
    (∀ request text octets, Request.text request = .ok text → Utf8.encode? text = some octets →
      octets.length + SignatureBlock.overhead ≤ key.toPublic.size →
      ∃ envelope body, sealRequest coins request (some (.ofPrivate key)) = .ok envelope ∧
        envelope.toBytes? = some body ∧ envelope.Holds body ∧ envelope.text = text ∧
        Signature.verify octets envelope.signature (Key.ofPrivate key).publicOnly
          = !key.toPublic.isRefused) ∧
    (∀ envelope : Envelope, Utf8.encodable envelope.text = true →
      ∃ body, envelope.toBytes? = some body ∧ envelope.Holds body) ∧
    ∀ value, (∃ envelope, Envelope.ofValue value = .ok envelope) ↔
      ∃ text items, value.entry? "request" = some (.text text) ∧
        value.entry? "signature" = some (.list items) ∧
        ∀ item ∈ items, ∃ n : Int, item = .int n ∧ 0 ≤ n ∧ n ≤ 255 := by
  have hwire : ∀ envelope : Envelope, Utf8.encodable envelope.text = true →
      ∃ body, envelope.toBytes? = some body ∧ envelope.Holds body := by
    intro envelope htext
    obtain ⟨body, hbody⟩ := Option.isSome_iff_exists.mp ((Envelope.isSome_toBytes? _).trans htext)
    exact ⟨body, hbody, Envelope.holds_toBytes? hbody⟩
  refine ⟨fun request text octets htext hoctets hfits => ?_, hwire,
    fun value => Envelope.exists_ofValue_iff⟩
  obtain ⟨body, hbody, hholds⟩ := hwire ⟨text, Signature.octets key octets⟩
    (Utf8.encode?_eq_some_iff.mp hoctets).1
  exact ⟨_, body, sealRequest_eq hkey hcoins htext hoctets hfits, hbody, hholds, rfl,
    Signature.verify_octets hkey hfits⟩

/-- A quotation mark and a letter of two octets, under a key of fourteen octets. -/
theorem sealRequest_wire_sample :
    Request.text (.text "\"é") = .ok "\"é" ∧ Utf8.encode? "\"é" = some [0x22, 0xC3, 0xA9] ∧
    ∃ envelope body,
      sealRequest .constant (.text "\"é") (some (.ofPrivate .sample)) = .ok envelope ∧
        envelope.toBytes? = some body ∧ envelope.Holds body ∧ envelope.text = "\"é" ∧
        Signature.verify [0x22, 0xC3, 0xA9] envelope.signature (Key.ofPrivate .sample).publicOnly
          = true := by
  have hvalid := PrivateKey.valid_sample
  have hencoded : Utf8.encode? "\"é" = some [0x22, 0xC3, 0xA9] := by decide +kernel
  have haccepted : PrivateKey.sample.toPublic.isRefused = false := by decide +kernel
  obtain ⟨envelope, body, hsealed, hbody, hholds, htext, hverified⟩ :=
    (sealRequest_wire hvalid (Coins.blinds_constant hvalid.odd_modulus)).1 (.text "\"é") _ _ rfl
      hencoded (by decide +kernel)
  rw [haccepted] at hverified
  exact ⟨rfl, hencoded, envelope, body, hsealed, hbody, hholds, htext, hverified⟩

/-- A valid key of 417 octets whose signatures do not verify: it seals an empty array, and the
signature does not verify for the octets of the text. -/
theorem verify_sealRequest_wide : PrivateKey.Valid .wide ∧
    Request.text (.text "[]") = .ok "[]" ∧ Utf8.encode? "[]" = some [0x5B, 0x5D] ∧
    ([0x5B, 0x5D] : Bytes).length + SignatureBlock.overhead
      ≤ PrivateKey.wide.toPublic.size ∧
    sealRequest .constant (.text "[]") (some (.ofPrivate .wide))
      = .ok ⟨"[]", Signature.octets .wide [0x5B, 0x5D]⟩ ∧
    Signature.verify [0x5B, 0x5D] (Signature.octets .wide [0x5B, 0x5D])
      (Key.ofPrivate .wide).publicOnly = false := by
  have hvalid := PrivateKey.valid_wide
  have hencoded : Utf8.encode? "[]" = some [0x5B, 0x5D] := by decide +kernel
  have hfits : ([0x5B, 0x5D] : Bytes).length + SignatureBlock.overhead
      ≤ PrivateKey.wide.toPublic.size := by
    rw [PrivateKey.size_wide]
    decide
  refine ⟨hvalid, rfl, hencoded, hfits, ?_, ?_⟩
  · exact sealRequest_eq hvalid (Coins.blinds_constant hvalid.odd_modulus) rfl hencoded hfits
  · rw [Signature.verify_octets hvalid hfits, PrivateKey.isRefused_wide]
    rfl

end Deployment

end SealedRpc
