import SealedRpc.Proofs.Codec.Recovery
import SealedRpc.Proofs.Exchange.Call
import SealedRpc.Proofs.Relay.Gate
import SealedRpc.Proofs.Relay.Posted
import SealedRpc.Proofs.Relay.Startup

/-!
# From one end to the other

A client and a relay that were set up for each other, on a network that carries posts and
answers. Whatever the framing of requests and the decoding of responses are, the text of a
request arrives at the handler as its object, and what the handler returns arrives at the
caller as compact JSON.

There are two halves, which meet in the handler. What a client puts on the wire, the relay
turns back into the text of the request; what the relay answers, the client turns back into
the payload of the reply. In each half a framing or a decoding is a case of its own, and the
case is closed by the round trip of the codec that it uses.

## Main results

* `exists_encodeBody_serve`: a request is put on the wire, and the relay serves its text.
* `exists_reply_decode`: a value is answered, and the answer is decoded to its payload.
* `call_eq_payload`: a call returns what the handler returned.
-/

namespace SealedRpc

open Relay

/-! ### Two sides of a deployment -/

/-- A client's deployment and a relay that were set up for each other, with the private keys
of both. A relay that gets signed requests has a key of the client, whose signatures are no
longer than envelopes may hold. -/
structure Paired (d : Deployment) (s : Service) (relayKey clientKey : PrivateKey) : Prop where
  scheme_eq : s.settings.scheme = d.scheme
  decoding_eq : s.settings.decoding = d.decoding
  key_eq : s.key = .ofPrivate relayKey
  clientKey_eq : ∀ key ∈ s.clientKey?, key.publicView = clientKey.toPublic
  signed : d.framing = .signedEnvelope →
    s.clientKey?.isSome = true ∧ clientKey.toPublic.size ≤ Posted.signatureLimit
  requestKey_eq : d.requestKey = some (match d.framing with
    | .encryptedBody => (Key.ofPrivate relayKey).publicOnly
    | .signedEnvelope => .ofPrivate clientKey)
  responseKey_eq : d.responseKey = some (match d.decoding with
    | .privateDecrypt => .ofPrivate clientKey
    | .publicRecover => (Key.ofPrivate relayKey).publicOnly)

/-- The call that the relay receives for a post. -/
def EncodedRequest.toCall (encoded : EncodedRequest) (headers : Http.Headers) : Service.Call :=
  ⟨"POST", encoded.path, headers, encoded.body⟩

section

variable [Json.NestingLimit]

/-- Whether what became of a post is that it reached a relay and the answer came back. The
random choices of the relay and the headers may be any. -/
def Delivers (s : Service) (network : Http.Network) (encoded : EncodedRequest)
    (delivery : Http.Delivery) : Prop :=
  ∃ (coins : Coins) (headers : Http.Headers) (response : Http.Response),
    coins.Blinds s.key.publicView ∧ delivery.outcome = .ok response ∧
      response.status = (s.answer coins network (encoded.toCall headers)).response.status ∧
      ∀ message, (s.answer coins network (encoded.toCall headers)).response.content
        = .octets message → response.body = message

variable {d : Deployment} {s : Service} {relayKey clientKey : PrivateKey} {pool : Pool}
  {coins relayCoins : Coins} {network : Http.Network}

/-! ### Requests -/

/-- A request that is encrypted as a whole reaches the relay as its text. -/
theorem exists_encodeBody_serveEncrypted (network : Http.Network) (hrelay : relayKey.Valid)
    (hpaired : Paired d s relayKey clientKey) (hready : d.Ready)
    (hworkers : d.workers = .pool pool) (hframing : d.framing = .encryptedBody)
    {request : Value} {text : Text} {octets : Bytes} (htext : Request.text request = .ok text)
    (hoctets : Utf8.encode? text = some octets) :
    ∃ body, d.encodeBody coins request = .ok body ∧
      ∀ relayCoins : Coins, relayCoins.Blinds relayKey.toPublic →
        s.serveEncrypted relayCoins network body = s.serveText relayCoins network text := by
  obtain ⟨key, hkey, husable, -⟩ := hready.request
  have hrequestKey := hpaired.requestKey_eq
  rw [hframing] at hrequestKey
  obtain rfl := Option.some.inj (hkey.symm.trans hrequestKey)
  have hsent : Codec.encrypt coins pool octets (Key.ofPrivate relayKey).publicOnly d.scheme
      = .ok (Codec.message coins relayKey.toPublic d.scheme octets) :=
    husable.encrypt_eq coins pool octets
  refine ⟨Codec.message coins relayKey.toPublic d.scheme octets, ?_, ?_⟩
  · rw [Deployment.encodeBody, hframing]
    simp only [htext, Deployment.encodeText, hoctets, hkey, Deployment.need, Deployment.encrypt,
      hworkers, hsent, Except.mapError_ok, bind, Except.bind]
  · intro relayCoins hcoins
    have hopened : Codec.decrypt relayCoins .single
        (Codec.message coins relayKey.toPublic d.scheme octets) (.ofPrivate relayKey) d.scheme
          = .ok octets := Codec.decrypt_message hrelay husable.overhead_lt hcoins .single octets
    rw [Service.serveEncrypted, hpaired.key_eq, hpaired.scheme_eq, hopened]
    simp only [Utf8.decode?_encode? hoctets]

/-- A signed request reaches the relay as its text, if the text is short enough to be
signed. -/
theorem exists_encodeBody_serveSigned (network : Http.Network) (hclient : clientKey.Valid)
    (hpaired : Paired d s relayKey clientKey) (hready : d.Ready)
    (hcoins : coins.Blinds clientKey.toPublic) (hframing : d.framing = .signedEnvelope)
    {request : Value} {text : Text} {octets : Bytes} (htext : Request.text request = .ok text)
    (hoctets : Utf8.encode? text = some octets)
    (hfits : octets.length + SignatureBlock.overhead ≤ clientKey.toPublic.size) :
    ∃ body, d.encodeBody coins request = .ok body ∧ ∀ relayCoins : Coins,
      s.serveSigned relayCoins network body = s.serveText relayCoins network text := by
  obtain ⟨key, hkey, husable, -⟩ := hready.request
  have hrequestKey := hpaired.requestKey_eq
  rw [hframing] at hrequestKey
  obtain rfl := Option.some.inj (hkey.symm.trans hrequestKey)
  obtain ⟨hsome, hlimit⟩ := hpaired.signed hframing
  obtain ⟨verifier, hverifier⟩ := Option.isSome_iff_exists.mp hsome
  have hview := hpaired.clientKey_eq verifier hverifier
  have hsignature : Signature.sign (coins.factor 0) octets (.ofPrivate clientKey)
      = .ok (Signature.octets clientKey octets) :=
    (Signature.sign_eq_ok_iff hclient (hcoins 0)).mpr ⟨hfits, rfl⟩
  have hencodable : (Envelope.toBytes? ⟨text, Signature.octets clientKey octets⟩).isSome
      = true := by
    rw [Envelope.isSome_toBytes?]
    exact (Utf8.encode?_eq_some_iff.mp hoctets).1
  obtain ⟨body, hbody⟩ := Option.isSome_iff_exists.mp hencodable
  have hread := Posted.read_toBytes? hbody
    ((Signature.length_octets clientKey octets).trans_le hlimit)
  have hverified : Signature.verify octets (Signature.octets clientKey octets) verifier = true := by
    refine Signature.verify_eq_true_iff.mpr ⟨?_, ?_⟩
    · rw [Key.size, hview, Signature.length_octets]
    · rw [hview]
      exact (Signature.recover?_eq_some_iff_octets hclient husable.accepted
        (Signature.length_octets clientKey octets)).mpr ⟨hfits, rfl⟩
  refine ⟨body, ?_, ?_⟩
  · rw [Deployment.encodeBody, hframing]
    simp only [Deployment.sealRequest, htext, Deployment.encodeText, hoctets, hkey, Deployment.need,
      hsignature, Except.mapError_ok, bind, Except.bind, pure, Except.pure, hbody]
  · intro relayCoins
    rw [Service.serveSigned, hread]
    simp only [Service.serveEnvelope, hverifier, Service.verifies, hoctets, hverified]

/-- **Requests arrive.** A request is put on the wire, and the relay serves its text. -/
theorem exists_encodeBody_serve (network : Http.Network) (hrelay : relayKey.Valid)
    (hclient : clientKey.Valid) (hpaired : Paired d s relayKey clientKey) (hready : d.Ready)
    (hworkers : d.workers = .pool pool) (hcoins : coins.Blinds clientKey.toPublic)
    {request : Value} {text : Text} {octets : Bytes}
    (htext : Request.text request = .ok text) (hoctets : Utf8.encode? text = some octets)
    (hfits : d.framing = .signedEnvelope →
      octets.length + SignatureBlock.overhead ≤ clientKey.toPublic.size) :
    ∃ body, d.encodeBody coins request = .ok body ∧ (body.length ≤ s.settings.bodyLimit →
      ∀ relayCoins : Coins, relayCoins.Blinds relayKey.toPublic →
        s.serve relayCoins network d.framing body = s.serveText relayCoins network text) := by
  cases hframing : d.framing with
  | encryptedBody =>
      obtain ⟨body, hbody, hserve⟩ := exists_encodeBody_serveEncrypted network hrelay hpaired
        hready hworkers hframing htext hoctets
      refine ⟨body, hbody, fun hlimit relayCoins hrelayCoins => ?_⟩
      rw [Service.serve, if_neg (Int.not_lt.mpr hlimit)]
      exact hserve relayCoins hrelayCoins
  | signedEnvelope =>
      obtain ⟨body, hbody, hserve⟩ := exists_encodeBody_serveSigned network hclient hpaired hready
        hcoins hframing htext hoctets (hfits hframing)
      refine ⟨body, hbody, fun hlimit relayCoins _ => ?_⟩
      rw [Service.serve, if_neg (Int.not_lt.mpr hlimit)]
      exact hserve relayCoins

/-! ### Replies -/

omit [Json.NestingLimit] in
/-- A reply that is encrypted for the client is decrypted with its key. -/
theorem exists_encryptReply_privateDecrypt (hclient : clientKey.Valid)
    (hpaired : Paired d s relayKey clientKey)
    (hrunning : Service.Ready s.settings s.key s.clientKey?) (hworkers : d.workers = .pool pool)
    (hcoins : coins.Blinds clientKey.toPublic) (hdecoding : d.decoding = .privateDecrypt)
    (relayCoins : Coins) (payload : Bytes) :
    ∃ message, s.encryptReply relayCoins payload = .ok message ∧
      d.decode coins 200 message = .ok payload := by
  have hresponseKey := hpaired.responseKey_eq
  rw [hdecoding] at hresponseKey
  have hsettings := hpaired.decoding_eq.trans hdecoding
  obtain ⟨key, hkey⟩ := Option.isSome_iff_exists.mp (hrunning.client hsettings)
  have hview := hpaired.clientKey_eq key hkey
  have husable := hrunning.clientUsable key hkey
  rw [hpaired.scheme_eq] at husable
  have hover : d.scheme.overhead < clientKey.toPublic.size := by
    rw [← hview]
    exact husable.overhead_lt
  refine ⟨Codec.message relayCoins clientKey.toPublic d.scheme payload, ?_, ?_⟩
  · rw [hrunning.encryptReply_privateDecrypt hkey hsettings, hview, hpaired.scheme_eq]
  · have hopened : Codec.decrypt coins pool
        (Codec.message relayCoins clientKey.toPublic d.scheme payload) (.ofPrivate clientKey)
          d.scheme = .ok payload := Codec.decrypt_message hclient hover hcoins pool payload
    rw [Deployment.decode, if_neg (by simp), hdecoding]
    simp only [hresponseKey, Deployment.need, Deployment.decrypt, hworkers, hopened,
      Except.mapError_ok, bind, Except.bind]

omit [Json.NestingLimit] in
/-- A reply that the relay signs block by block is recovered with its public key. -/
theorem exists_encryptReply_publicRecover (hrelay : relayKey.Valid)
    (hpaired : Paired d s relayKey clientKey)
    (hrunning : Service.Ready s.settings s.key s.clientKey?)
    (hrelayCoins : relayCoins.Blinds relayKey.toPublic) (hdecoding : d.decoding = .publicRecover)
    (coins : Coins) (payload : Bytes) :
    ∃ message, s.encryptReply relayCoins payload = .ok message ∧
      d.decode coins 200 message = .ok payload := by
  have hresponseKey := hpaired.responseKey_eq
  rw [hdecoding] at hresponseKey
  have hsettings := hpaired.decoding_eq.trans hdecoding
  have hscheme := hrunning.recovery hsettings
  have hscheme' : d.scheme = .pkcs1v15 := hpaired.scheme_eq.symm.trans hscheme
  have husable := hrunning.usable
  rw [hpaired.key_eq, hscheme] at husable
  refine ⟨Codec.signedMessage relayKey payload, ?_, ?_⟩
  · exact hrunning.encryptReply_publicRecover hrelay hpaired.key_eq hrelayCoins hsettings payload
  · have hopened :=
      Codec.publicDecrypt_signedMessage hrelay husable.overhead_lt husable.accepted payload
    rw [Deployment.decode, if_neg (by simp), hdecoding]
    simp only [hscheme', ne_eq, not_true_eq_false, if_false, hresponseKey, Deployment.need,
      hopened, Except.mapError_ok, bind, Except.bind]

/-- **Replies arrive.** A value is answered, and the answer is decoded to its payload. -/
theorem exists_reply_decode (hrelay : relayKey.Valid) (hclient : clientKey.Valid)
    (hpaired : Paired d s relayKey clientKey)
    (hrunning : Service.Ready s.settings s.key s.clientKey?) (hworkers : d.workers = .pool pool)
    (hcoins : coins.Blinds clientKey.toPublic) (hrelayCoins : relayCoins.Blinds relayKey.toPublic)
    {value : Value} {payload : Bytes} (hpayload : Service.payload value = .ok payload) :
    ∃ message, s.reply relayCoins value = .answered message ∧
      d.decode coins 200 message = .ok payload := by
  have hhalf : ∃ message, s.encryptReply relayCoins payload = .ok message ∧
      d.decode coins 200 message = .ok payload := by
    cases hdecoding : d.decoding with
    | privateDecrypt =>
        exact exists_encryptReply_privateDecrypt hclient hpaired hrunning hworkers hcoins hdecoding
          relayCoins payload
    | publicRecover =>
        exact exists_encryptReply_publicRecover hrelay hpaired hrunning hrelayCoins hdecoding
          coins payload
  obtain ⟨message, hmessage, hdecode⟩ := hhalf
  refine ⟨message, ?_, hdecode⟩
  rw [Service.reply, hpayload]
  simp only [Except.bind, hmessage]

/-! ### Calls -/

omit [Json.NestingLimit] in
/-- The path of a framing leads to it. -/
theorem ofPath?_path (framing : Framing) :
    Service.Route.ofPath? framing.path = some (.post framing) := by
  cases framing <;> decide

/-- The text of an authorised object is served with one call of the handler. -/
theorem serveText_of_authorises {text : Text} {object value : Value}
    (hobject : s.Authorises text object)
    (hvalue : (s.handler network object).result = .ok value) (relayCoins : Coins) :
    s.serveText relayCoins network text
      = ⟨s.reply relayCoins value, [object], (s.handler network object).sent, []⟩ := by
  obtain ⟨fields, hparse, rfl, hmethod⟩ := hobject
  have hauthorised : s.authorise text = .ok (.object fields) :=
    Service.authorise_eq_ok_iff.mpr
      ⟨hparse, ⟨fields, rfl⟩, Service.checkMethod_eq_ok_iff.mpr hmethod⟩
  rw [Service.serveText, hauthorised]
  simp only [hvalue]

/-- A post whose serving is known is answered with its ending. -/
theorem answer_toCall {encoded : EncodedRequest} {framing : Framing}
    (hpath : encoded.path = Text.ofString framing.path) {served : Served}
    (hserve : s.serve relayCoins network framing encoded.body = served) (headers : Http.Headers) :
    (s.answer relayCoins network (encoded.toCall headers)).served = served ∧
      ∃ id, (s.answer relayCoins network (encoded.toCall headers)).response
        = s.respond id served.ending := by
  have hroute : Service.Route.ofPath? (encoded.toCall headers).path = some (.post framing) := by
    rw [EncodedRequest.toCall, hpath, ofPath?_path]
  have hdispatch : s.dispatch relayCoins network (encoded.toCall headers) = served :=
    (Service.dispatch_post hroute rfl).trans hserve
  rw [Service.answer]
  simp only [hdispatch]
  exact ⟨True.intro, _, rfl⟩

/-- **From one end to the other.** A relay that runs and a client whose keys pass its checks
were set up for each other with valid keys, and the network carries posts and answers. Then a
call with a request whose text is an object that passes authorisation, that is not too long for
the relay nor, if it is signed, for the key, makes one post. For this post the handler is called
once, with that object, the relay answers with success, and the call returns the compact JSON of
what the handler returns, in whichever framing and decoding the two agree on and whatever the
random choices on both sides are. -/
theorem call_eq_payload (hrelay : relayKey.Valid) (hclient : clientKey.Valid)
    {startCoins checkCoins : Coins} {env : Environment} {files : Files}
    {settings : ServiceSettings} {provision : Provision}
    (hstart : Service.start startCoins env files settings provision = .ok s)
    {c : Client} (hcheck : c.deployment.validate checkCoins = .ok ())
    (hpaired : Paired c.deployment s relayKey clientKey)
    (hworkers : c.deployment.workers = .pool pool) (hcoins : coins.Blinds clientKey.toPublic)
    {request : Value} {transport : Client.Transport}
    (hpost : ∀ encoded, c.deployment.encode coins request = .ok encoded →
      Delivers s network encoded (transport.post encoded))
    (hpostAsync : ∀ encoded, c.deployment.encode coins request = .ok encoded →
      ∀ post ∈ transport.postAsync?, Delivers s network encoded (post encoded))
    {text : Text} {octets : Bytes} (htext : Request.text request = .ok text)
    (hoctets : Utf8.encode? text = some octets)
    {object : Value} (hobject : s.Authorises text object)
    (hlimit : ∀ body, c.deployment.encodeBody coins request = .ok body →
      (body.length : Int) ≤ s.settings.bodyLimit)
    (hfits : c.deployment.framing = .signedEnvelope →
      octets.length + SignatureBlock.overhead ≤ clientKey.toPublic.size)
    {value : Value} (hvalue : (s.handler network object).result = .ok value)
    {payload : Bytes} (hpayload : Service.payload value = .ok payload) :
    ∃ encoded, c.deployment.encode coins request = .ok encoded ∧
      (∀ relayCoins : Coins, relayCoins.Blinds relayKey.toPublic → ∀ headers,
        (s.answer relayCoins network (encoded.toCall headers)).served.handled = [object] ∧
          (s.answer relayCoins network (encoded.toCall headers)).response.status = 200) ∧
      ∀ called ∈ [c.call coins transport request, c.callAsync coins transport request],
        called.result = .ok payload ∧ called.posts.map Prod.snd = [encoded] ∧
          called.client.lastCycle? = some Client.done := by
  have hrunning := Service.ready_of_start hstart
  have hready := Deployment.validate_eq_ok_iff.mp hcheck
  have hvalid : c.deployment.validate coins = .ok () := Deployment.validate_eq_ok_iff.mpr hready
  obtain ⟨body, hbody, hserve⟩ := exists_encodeBody_serve network hrelay hclient hpaired hready
    hworkers hcoins htext hoctets hfits
  obtain ⟨encoded, hencode, hpath, hserve⟩ : ∃ encoded,
      c.deployment.encode coins request = .ok encoded ∧
        encoded.path = Text.ofString c.deployment.framing.path ∧
        ∀ relayCoins : Coins, relayCoins.Blinds relayKey.toPublic →
          s.serve relayCoins network c.deployment.framing encoded.body
            = s.serveText relayCoins network text := by
    refine ⟨⟨c.deployment.framing.path, c.deployment.framing.contentType, body⟩, ?_, rfl,
      hserve (hlimit body hbody)⟩
    rw [Deployment.encode, hbody]
    rfl
  have hanswer : ∀ relayCoins : Coins, relayCoins.Blinds relayKey.toPublic → ∀ headers,
      (s.answer relayCoins network (encoded.toCall headers)).served.handled = [object] ∧
        (s.answer relayCoins network (encoded.toCall headers)).response.status = 200 ∧
        ∃ message, (s.answer relayCoins network (encoded.toCall headers)).response.content
            = .octets message ∧ c.deployment.decode coins 200 message = .ok payload := by
    intro relayCoins hrelayCoins headers
    obtain ⟨message, hreply, hdecode⟩ := exists_reply_decode hrelay hclient hpaired hrunning
      hworkers hcoins hrelayCoins hpayload
    obtain ⟨hserved, id, hresponse⟩ := answer_toCall hpath (hserve relayCoins hrelayCoins) headers
    rw [serveText_of_authorises hobject hvalue, hreply] at hserved hresponse
    rw [hserved, hresponse]
    exact ⟨rfl, rfl, message, rfl, hdecode⟩
  refine ⟨encoded, hencode, ?_, ?_⟩
  · intro relayCoins hrelayCoins headers
    obtain ⟨hhandled, hstatus, -⟩ := hanswer relayCoins hrelayCoins headers
    exact ⟨hhandled, hstatus⟩
  · -- both ways of calling post over a way that delivers
    have hvia : ∀ via post, Delivers s network encoded (post encoded) →
        (c.callVia coins via post request).result = .ok payload ∧
          (c.callVia coins via post request).posts.map Prod.snd = [encoded] ∧
          (c.callVia coins via post request).client.lastCycle? = some Client.done := by
      rintro via post ⟨relayCoins, headers, response, hrelayCoins, hresponse, hstatus, hcontent⟩
      rw [hpaired.key_eq] at hrelayCoins
      obtain ⟨-, hsuccess, message, hmessage, hdecode⟩ := hanswer relayCoins hrelayCoins headers
      have hdecoded : c.deployment.decode coins response.status response.body = .ok payload := by
        rw [hstatus, hsuccess, hcontent message hmessage]
        exact hdecode
      obtain ⟨hresult, hposts, hcycle⟩ :=
        Client.callVia_of_ok (.inr hvalid) hencode hresponse hdecoded
      exact ⟨hresult, by rw [hposts]; rfl, hcycle⟩
    intro called hcalled
    rw [List.mem_pair] at hcalled
    obtain rfl | rfl := hcalled
    · exact hvia .post transport.post (hpost encoded hencode)
    · rw [Client.callAsync]
      cases hasync : transport.postAsync? with
      | none => exact hvia .post transport.post (hpost encoded hencode)
      | some post => exact hvia .postAsync post (hpostAsync encoded hencode post hasync)

end

/-! ### A pair of fourteen octets -/

/-- The settings of a small relay whose replies are recovered with its public key. -/
def sampleSettings : ServiceSettings :=
  { ServiceSettings.default with scheme := .pkcs1v15, keySize := 14, decoding := .publicRecover }

/-- A small relay that answers null to everything. -/
def sampleRelay : Service :=
  ⟨sampleSettings, .ofPrivate .sample, some (.ofPrivate .secondSample), .always .null, 20⟩

/-- A client that signs its requests for that relay. -/
def sampleClient : Client := .ofDeployment
  { framing := .signedEnvelope
    scheme := .pkcs1v15
    decoding := .publicRecover
    requestKey := some (.ofPrivate .secondSample)
    responseKey := some (Key.ofPrivate .sample).publicOnly
    expectedKeySize := .octets 14
    workers := .pool .single }

/-- A network with nothing behind the relay. -/
def sampleNetwork : Http.Network := fun _ => .answered 404 [] [] none

/-- A transport that hands every request to that relay. -/
def sampleTransport : Client.Transport where
  post encoded :=
    let response := (sampleRelay.answer .constant sampleNetwork (encoded.toCall [])).response
    let body := match response.content with
      | .octets message => message
      | _ => []
    ⟨.ok ⟨response.status, [], body⟩, [], []⟩
  postAsync? := none

/-- An empty object is sent and null comes back. -/
theorem call_eq_payload_sample :
    Service.start .constant [] (Files.ofDirectory []) sampleSettings
        ⟨some (.ofPrivate .sample), some (.ofPrivate .secondSample), some (.always .null)⟩
      = .ok sampleRelay ∧
    sampleClient.deployment.validate .constant = .ok () ∧
    ∃ encoded, sampleClient.deployment.encode .constant (.text "\x7b\x7d") = .ok encoded ∧
      (sampleRelay.answer .constant sampleNetwork (encoded.toCall [])).served.handled = [.dict []] ∧
      (sampleRelay.answer .constant sampleNetwork (encoded.toCall [])).response.status = 200 ∧
      (sampleClient.call .constant sampleTransport (.text "\x7b\x7d")).result
        = .ok [0x6E, 0x75, 0x6C, 0x6C] := by
  have hrelayUsable : Codec.Usable (.ofPrivate .sample) .pkcs1v15 (.octets 14) :=
    ⟨by decide +kernel, by decide +kernel, by decide +kernel⟩
  have hclientUsable : Codec.Usable (.ofPrivate .secondSample) .pkcs1v15 (.octets 14) :=
    ⟨by decide +kernel, by decide +kernel, by decide +kernel⟩
  have hready : Service.Ready sampleSettings (.ofPrivate .sample)
      (some (.ofPrivate .secondSample)) := by
    refine ⟨rfl, fun _ => rfl, fun _ => rfl, hrelayUsable, ?_⟩
    rintro key ⟨⟩
    exact hclientUsable
  have hstart : Service.start .constant [] (Files.ofDirectory []) sampleSettings
        ⟨some (.ofPrivate .sample), some (.ofPrivate .secondSample), some (.always .null)⟩
      = .ok sampleRelay := Service.start_of_ready hready (by decide +kernel) _ _ _
  have hcheck : sampleClient.deployment.validate .constant = .ok () :=
    Deployment.validate_eq_ok_iff.mpr
      ⟨⟨_, rfl, hclientUsable, fun _ => rfl⟩,
        ⟨_, rfl, ⟨hrelayUsable.size_eq, hrelayUsable.room, hrelayUsable.accepted⟩, nofun⟩⟩
  have hpaired : Paired sampleClient.deployment sampleRelay .sample .secondSample := by
    refine ⟨rfl, rfl, rfl, ?_, ?_, rfl, rfl⟩
    · rintro key ⟨⟩
      rfl
    · exact fun _ => ⟨rfl, by decide +kernel⟩
  have hblinds := Coins.blinds_constant PrivateKey.valid_sample.odd_modulus
  have hclientBlinds := Coins.blinds_constant PrivateKey.valid_secondSample.odd_modulus
  have hpost : ∀ encoded,
      sampleClient.deployment.encode .constant (.text "\x7b\x7d") = .ok encoded →
      Delivers sampleRelay sampleNetwork encoded (sampleTransport.post encoded) := by
    intro encoded _
    refine ⟨.constant, [], _, hblinds, rfl, rfl, ?_⟩
    intro message hmessage
    simp only [hmessage]
  have hpostAsync : ∀ encoded,
      sampleClient.deployment.encode .constant (.text "\x7b\x7d") = .ok encoded →
      ∀ post ∈ sampleTransport.postAsync?,
        Delivers sampleRelay sampleNetwork encoded (post encoded) := nofun
  have hobject : sampleRelay.Authorises "\x7b\x7d" (.dict []) := by
    refine ⟨[], by decide +kernel, rfl, fun h => absurd rfl h⟩
  have hlimit : ∀ body, sampleClient.deployment.encodeBody .constant (.text "\x7b\x7d") = .ok body →
      (body.length : Int) ≤ sampleRelay.settings.bodyLimit := by
    have hall : (sampleClient.deployment.encodeBody .constant (.text "\x7b\x7d")).toOption.all
        (fun body => (body.length : Int) ≤ sampleRelay.settings.bodyLimit) = true := by
      decide +kernel
    intro body hbody
    rw [hbody] at hall
    exact of_decide_eq_true hall
  obtain ⟨encoded, hencode, hhandled, hcalled⟩ := call_eq_payload PrivateKey.valid_sample
    PrivateKey.valid_secondSample hstart hcheck hpaired rfl hclientBlinds hpost hpostAsync rfl
    (show Utf8.encode? "\x7b\x7d" = some [0x7B, 0x7D] by decide +kernel) hobject hlimit
    (fun _ => by decide +kernel) rfl
    (show Service.payload .null = .ok [0x6E, 0x75, 0x6C, 0x6C] from rfl)
  obtain ⟨honce, hstatus⟩ := hhandled _ hblinds []
  refine ⟨hstart, hcheck, encoded, hencode, honce, hstatus, ?_⟩
  exact (hcalled _ List.mem_cons_self).1

end SealedRpc
