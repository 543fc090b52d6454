import SealedRpc.Proofs.Json.Plain
import SealedRpc.Proofs.Relay.Forwarding
import SealedRpc.Proofs.Request

/-!
# Values survive every hop

On its way a value is written and read several times: a client writes a request and the relay reads
it, a relay that forwards writes it again for the service behind, and what a handler returns is
written by the relay and read by the client. All of them write the same compact text, so one round
trip settles them all; what is left is that each of them reads and writes just this text and nothing
else happens to the value.

## Main results

* `Json.Plain.portable`: a plain value can be sent.
* `Relay.Service.handled_answer`: what the relay hands to its handler is what it reads.
* `plain_survives_hops`: a plain list or mapping survives every hop.
-/

namespace SealedRpc

/-! ### Texts -/

section

variable [Json.NestingLimit]

/-- A plain value can be sent. -/
theorem Json.Plain.portable {j : Json} (h : j.Plain) : j.Portable := by
  refine ⟨h.encodable, fun x hx => ?_⟩
  rw [h.noFloats] at hx
  cases hx

/-- Whether a value is an array or an object. -/
def Json.IsContainer (j : Json) : Prop :=
  (∃ items, j = .array items) ∨ ∃ fields, j = .object fields

/-- A request that is an array or an object has the compact text of it. -/
theorem Request.text_ofJson {j : Json} (hcontainer : j.IsContainer) {t : Text}
    (htext : (Value.ofJson j).compactText = .ok t) : text (.ofJson j) = .ok t := by
  have hwritten : text (.ofJson j) = (Value.ofJson j).compactText.mapError .unserializable := by
    rcases hcontainer with ⟨items, rfl⟩ | ⟨fields, rfl⟩
    · exact text_of_ne nofun nofun
    · exact text_of_ne nofun nofun
  rw [hwritten, htext, Except.mapError_ok]

/-- A body that is read as a text is read as the JSON value of that text. -/
theorem Http.Response.json_eq {response : Http.Response} {t : Text} {j : Json}
    (htext : Utf8.decode? response.body = some t) (hparse : Json.parse t = .ok j) :
    response.json = .ok j := by
  rw [json, htext]
  simp only [hparse, Except.mapError_ok]

/-- Plaintext that is read as a text is read as the JSON value of that text. -/
theorem Client.readJson_eq {plaintext : Bytes} {t : Text} {j : Json}
    (htext : Utf8.decode? plaintext = some t) (hparse : Json.parse t = .ok j) :
    readJson plaintext = .ok j := by
  rw [readJson, htext]
  simp only [hparse, Except.mapError_ok]

/-! ### The relay -/

namespace Relay.Service

variable {s : Service} {coins : Coins} {network : Http.Network} {text : Text} {request : Json}

/-- A text that is authorised is handed to the handler as the object that it stands for. -/
theorem handled_of_authorise (h : s.authorise text = .ok request) :
    (s.serveText coins network text).handled = [.ofJson request] := by
  rw [serveText, h]
  dsimp only
  split <;> rfl

/-- What the relay hands to its handler for a post is what the text that it vouches for is read as;
and it hands over an object whose method passes. -/
theorem handled_answer {call : Call} {framing : Framing} (hposts : s.Posts framing call)
    (hvouched : Vouched s coins framing call.body text) (hparse : Json.parse text = .ok request) :
    (∀ handed ∈ (s.answer coins network call).served.handled, handed = .ofJson request) ∧
    ((∃ fields, request = .object fields) → s.checkMethod request = .ok () →
      (s.answer coins network call).served.handled = [.ofJson request]) := by
  have hserved : (s.answer coins network call).served = s.serveText coins network text :=
    hposts.dispatch_of_vouched hvouched
  rw [hserved]
  constructor
  · intro handed hhanded
    obtain ⟨json, hjson, rfl⟩ := (handled_serveText s coins network text handed).mp hhanded
    obtain ⟨hread, -, -⟩ := authorise_eq_ok_iff.mp hjson
    rw [Except.ok.inj (hread.symm.trans hparse)]
  · exact fun hobject hmethod =>
      handled_of_authorise (authorise_eq_ok_iff.mpr ⟨hparse, hobject, hmethod⟩)

end Relay.Service

/-! ### All hops -/

open Relay in
/-- **Values survive every hop.** Take a list or a mapping without floating point numbers, with
integers that have texts, without lone surrogates, with different names in each mapping, and nested
no deeper than is written and read. As a request it has its compact text, which has octets; these
are read as the text, also as a request, and the text is read as the value, with its fields in
order. Of a post with this text the relay hands to its handler just this value, if it hands over
any, and it does so for a mapping whose method passes. A handler that forwards posts these octets,
and reads a reply that has them for its body as the value. The relay sends the value back as these
octets, and whoever calls and gets them reads the value. -/
theorem plain_survives_hops {j : Json} (hj : j.Plain) (hcontainer : j.IsContainer) :
    ∃ octets, Request.text (.ofJson j) = .ok (j.render .compact) ∧
      Utf8.encode? (j.render .compact) = some octets ∧
      Utf8.decode? octets = some (j.render .compact) ∧
      Request.text (.bytes octets) = .ok (j.render .compact) ∧
      Json.parse (j.render .compact) = .ok j ∧
      (∀ (s : Service) (coins : Coins) (network : Http.Network) (framing : Framing)
        (call : Service.Call), s.Posts framing call →
        Service.Vouched s coins framing call.body (j.render .compact) →
          (∀ handed ∈ (s.answer coins network call).served.handled, handed = .ofJson j) ∧
          ((∃ fields, j = .object fields) → s.checkMethod j = .ok () →
            (s.answer coins network call).served.handled = [.ofJson j])) ∧
      (∀ address url timeout network, Http.Url.forRequest address = .ok url →
        (Handler.forward address timeout network (.ofJson j)).sent
          = [⟨url, octets, "application/json", timeout⟩]) ∧
      (∀ headers, Handler.readReply ⟨200, headers, octets⟩ = .ok (.ofJson j)) ∧
      Service.payload (.ofJson j) = .ok octets ∧
      ∀ called : Client.Called, called.result = .ok octets → called.json = .ok j := by
  obtain ⟨octets, htext, hoctets, hdecoded, hparse⟩ := hj.portable.exists_octets hj.parse_render
  refine ⟨octets, Request.text_ofJson hcontainer htext, hoctets, hdecoded, ?_, hparse, ?_, ?_, ?_,
    Service.payload_eq_ok_iff.mpr ⟨_, htext, hoctets⟩, ?_⟩
  · rw [Request.text_bytes, hdecoded]
  · exact fun s coins network framing call hposts hvouched =>
      Service.handled_answer hposts hvouched hparse
  · intro address url timeout network haddress
    rw [Handler.forward_eq haddress (Handler.forwardedBody_eq htext hoctets)]
  · intro headers
    have hjson : (⟨200, headers, octets⟩ : Http.Response).json = .ok j :=
      Http.Response.json_eq hdecoded hparse
    simp only [Handler.readReply, hjson]
    rfl
  · intro called hresult
    rw [Client.Called.json, hresult]
    exact Client.readJson_eq hdecoded hparse

end

/-- A mapping with texts beyond ASCII, nested containers and a negative number. -/
def samplePayload : Json :=
  .object [("method", .text "gr\u00fc\u00dfe\n\"\u20ac\""),
    ("params", .array [.object [], .int (-5), .null, .array [.bool true], .text []])]

/-- That mapping is plain. -/
theorem plain_samplePayload : samplePayload.Plain where
  noFloats := rfl
  fits := by decide +kernel
  encodable := by decide +kernel
  namesDiffer := ⟨by decide, True.intro, ⟨⟨List.nodup_nil, True.intro⟩, True.intro, True.intro,
    ⟨True.intro, True.intro⟩, True.intro, True.intro⟩, True.intro⟩
  nesting_le := by decide

/-- The sample is read back from its text and forwarded, and the empty object is handed to the
handler of a relay that gets a post with it. -/
theorem plain_survives_hops_sample : samplePayload.Plain ∧ samplePayload.IsContainer ∧
    Json.parse (samplePayload.render .compact) = .ok samplePayload ∧
    (∃ octets, Request.text (.bytes octets) = Request.text (.ofJson samplePayload) ∧
      ∀ network, (Relay.Handler.forward "http://mirror/base/x" Http.Endpoint.defaultTimeout network
          (.ofJson samplePayload)).sent.map Http.Request.body = [octets]) ∧
    ((Relay.Service.forwardingRelay "http://mirror/base/x").answer .constant
      (fun _ => .failed (.unnumbered "refused")) Relay.Service.emptyPost).served.handled
        = [.ofJson (.object [])] := by
  have hcontainer : samplePayload.IsContainer := .inr ⟨_, rfl⟩
  obtain ⟨octets, htext, -, -, hagain, hparse, -, hforward, -⟩ :=
    plain_survives_hops plain_samplePayload hcontainer
  refine ⟨plain_samplePayload, hcontainer, hparse, ⟨octets, hagain.trans htext.symm, ?_⟩, ?_⟩
  · intro network
    obtain ⟨url, hurl, -⟩ := Http.wellFormed_sample.exists_forRequest_eq
    rw [hforward _ url _ network hurl]
    rfl
  · have hempty : (Json.object []).Plain :=
      ⟨rfl, rfl, rfl, ⟨List.nodup_nil, True.intro⟩, by decide⟩
    obtain ⟨-, -, -, -, -, -, hrelay, -⟩ := plain_survives_hops hempty (.inr ⟨[], rfl⟩)
    exact (hrelay _ _ _ _ _ (Relay.Service.posts_emptyPost _)
      (Relay.Service.vouched_emptyPost _)).2 ⟨[], rfl⟩ rfl

end SealedRpc
