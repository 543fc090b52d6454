import SealedRpc.Proofs.Envelope
import SealedRpc.Relay.Posted

/-!
# Posted envelopes are read back

An envelope goes over the wire as a JSON object, and the relay reads bodies in a dialect of
its own: little nesting, no lone surrogates, no long numbers. An envelope whose text has a
UTF-8 form keeps within all of these, so the relay reads exactly the envelope that was
posted, unless its signature is longer than signatures may be.

## Main results

* `Relay.Posted.ofJson_toJson`: the object of an envelope is taken for the envelope.
* `Relay.Posted.read_toBytes?`: the octets of an envelope are read as the envelope.
-/

namespace SealedRpc

namespace Relay.Posted

/-- An octet that is written as an integer is the octet. -/
theorem readOctet_toNat (b : UInt8) : readOctet (.int b.toNat) = .ok b := by
  have hsmall : ¬ (255 : Int) < (b.toNat : Int) := by
    have := b.toNat_lt
    omega
  have hnatural : ¬ (b.toNat : Int) < 0 := by omega
  simp only [readOctet, readInt, bind, Except.bind, if_neg hsmall, if_neg hnatural, pure,
    Except.pure, Int.toNat_natCast, UInt8.ofNat_toNat]

/-- Octets that are written as integers are the octets, and nothing is wrong with them. -/
theorem readOctets_toNat (index : Nat) (octets : Bytes) :
    readOctets index (octets.map fun b => .int b.toNat) = ([], octets) := by
  induction octets generalizing index with
  | nil => rfl
  | cons b rest ih =>
      rw [List.map_cons, readOctets, ih]
      simp only [readOctet_toNat]

/-- The object of an envelope is read as the envelope. -/
theorem ofJson_toJson {e : Envelope} (he : e.signature.length ≤ signatureLimit) :
    ofJson e.toJson = .ok e := by
  have hrequest : readRequest e.toJson = ([], e.text) := rfl
  have hfield : e.toJson.field? signatureField
      = some (.array (e.signature.map fun b => .int b.toNat)) := rfl
  have hsignature : readSignature (e.toJson.field? signatureField) = ([], e.signature) := by
    rw [hfield, readSignature, List.length_map, if_neg (Nat.not_lt.mpr he), readOctets_toNat]
  rw [Envelope.toJson] at hrequest hsignature ⊢
  simp only [ofJson, hrequest, hsignature]
  rfl

/-- The octets of an envelope are read as the envelope. -/
theorem read_toBytes? {e : Envelope} {b : Bytes} (hb : e.toBytes? = some b)
    (he : e.signature.length ≤ signatureLimit) : read b = .ok e := by
  have htext : Utf8.encodable e.text = true := by
    rw [← Envelope.isSome_toBytes?, hb, Option.isSome_some]
  have hlength : ∀ limit ∈ dialect.wholeLength?, 3 ≤ limit := by
    rintro limit hlimit
    obtain rfl : digitLimit = limit := Option.some.inj hlimit
    decide
  have hparse : Json.parseIn dialect e.wireText = .ok e.toJson :=
    Json.parseIn_render (Envelope.readable_toJson hlength (.inr (Utf8.encodable_iff.mp htext)))
  rw [read, Utf8.decode?_encode? hb]
  simp only [hparse, ofJson_toJson he]
  rfl

end Relay.Posted

end SealedRpc
