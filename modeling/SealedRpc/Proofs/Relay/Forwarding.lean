import SealedRpc.Proofs.Http.Exchange
import SealedRpc.Proofs.Json.Reread
import SealedRpc.Proofs.Relay.Failure
import SealedRpc.Proofs.Relay.Reply

/-!
# Failures of the service behind the relay never look like success

A relay that forwards has a client of its own: it writes the request object again, posts it, and
reads what comes back. Request and reply are both read and written on the way, so all that goes
through has to survive that. A text that was read does, as long as it has a UTF-8 form and its
floating point numbers are read back.

What comes back is told apart three times: the exchange ends with a response or with a transport
error, the handler takes a response for a reply if it has status 200 and its body is JSON, and
the relay answers with what the handler made of it. `replyOf?` says in one place what counts as a
reply, and each layer is a lemma about it. Everything else is a failure of the service, which the
relay reports with status 502.

In one case it cannot even do that: the report repeats the words of the transport error, and if
these hold a lone surrogate, there is no response that can be written, and the caller gets 500.
Also the address is not kept in one respect: the mark of an empty fragment is taken off.

## Main results

* `Json.Portable.exists_octets`: what was read can be sent, and is read as it was.
* `Handler.forward_eq`: what is posted, and what becomes of the outcome.
* `Service.answer_forwarded`: what the service behind the relay gets, and what the caller gets.
-/

namespace SealedRpc

section

variable [Json.NestingLimit]

/-- What can be sent as JSON and is read as it was: there are no lone surrogates in it, and its
floating point numbers are read back from their texts. -/
structure Json.Portable (j : Json) : Prop where
  encodable : j.encodable = true
  floats : j.FloatsReadBack .lenient

/-- What was read can be sent, and is read as it was. -/
theorem Json.Portable.exists_octets {j : Json} (h : j.Portable) {t : Text}
    (hparse : Json.parse t = .ok j) : ∃ octets,
      (Value.ofJson j).compactText = .ok (j.render .compact) ∧
      Utf8.encode? (j.render .compact) = some octets ∧
      Utf8.decode? octets = some (j.render .compact) ∧ Json.parse (j.render .compact) = .ok j := by
  have htext : (Value.ofJson j).compactText = .ok (j.render .compact) :=
    Value.compactText_ofJson_eq_ok_iff.mpr
      ⟨Json.fits_of_parseIn hparse, Json.nesting_le_of_parseIn rfl hparse, rfl⟩
  have hoctets : Utf8.encode? (j.render .compact)
      = some ((j.render .compact).flatMap CodePoint.utf8) :=
    Utf8.encode?_eq_some_iff.mpr ⟨(Json.encodable_render j).trans h.encodable, rfl⟩
  exact ⟨_, htext, hoctets, Utf8.decode?_encode? hoctets,
    Json.parseIn_render_of_parseIn hparse h.floats⟩

end

namespace Relay

/-! ### The handler -/

section

variable [Json.NestingLimit]

/-- The reply that an exchange ended with: the value of a response with status 200 whose body is
JSON. -/
def replyOf? : Except Http.Fault Http.Response → Option Json
  | .ok response => if response.ok then response.json.toOption else none
  | .error _ => none

/-- A reply comes with status 200, in octets that are UTF-8 and whose text stands for it. -/
theorem replyOf?_eq_some_iff {outcome : Except Http.Fault Http.Response} {reply : Json} :
    replyOf? outcome = some reply ↔ ∃ response t, outcome = .ok response ∧ response.status = 200 ∧
      Utf8.decode? response.body = some t ∧ Json.parse t = .ok reply := by
  cases outcome with
  | error fault => simp [replyOf?]
  | ok response =>
      have hjson : response.json = .ok reply ↔
          ∃ t, Utf8.decode? response.body = some t ∧ Json.parse t = .ok reply := by
        rw [Http.Response.json]
        cases Utf8.decode? response.body <;> simp [Except.mapError_eq_ok_iff]
      have hsome : response.json.toOption = some reply ↔ response.json = .ok reply := by
        cases response.json <;> simp [Except.toOption]
      rw [replyOf?]
      by_cases hstatus : response.status = 200
      · simp [Http.Response.ok, hstatus, hsome, hjson]
      · simp [Http.Response.ok, hstatus]

/-- Whether an exchange ended with a transport error whose words have no UTF-8 form. -/
def isUnspeakable : Except Http.Fault Http.Response → Bool
  | .error (.transport error) => !Utf8.encodable error.message
  | _ => false

/-- What an exchange with the service behind the relay may end with: a response, though none with
status 200 that nests too deeply to be read, or a transport error. -/
inductive Concludes : Except Http.Fault Http.Response → Prop
  | response {response : Http.Response} :
      (response.ok = true → response.json ≠ .error (.malformed .tooDeep)) →
      Concludes (.ok response)
  | transport (error : Http.TransportError) : Concludes (.error (.transport error))

namespace Handler

/-- What the forwarding handler makes of the outcome of its exchange. -/
def passOn : Except Http.Fault Http.Response → Except HandlerFault Value
  | .error (.transport error) => .error (.backend (.unreachable error))
  | .error fault => .error (.ofFault fault)
  | .ok response => readReply response

/-- A request that has octets is posted once, to the address, and the outcome is passed on. -/
theorem forward_eq {address url : Text} (haddress : Http.Url.forRequest address = .ok url)
    {request : Value} {body : Bytes} (hbody : forwardedBody request = .ok body)
    (timeout : Binary64) (network : Http.Network) :
    forward address timeout network request
      = ⟨[⟨url, body, "application/json", timeout⟩],
        passOn (Http.settle ⟨url, body, "application/json", timeout⟩ Http.Endpoint.defaultLimit
          (network ⟨url, body, "application/json", timeout⟩))⟩ := by
  obtain ⟨hsent, houtcome⟩ := @Http.Endpoint.postUrl_eq
    (.ofBase address timeout Http.Endpoint.defaultLimit) network address url haddress body
    "application/json"
  rw [forward, hbody]
  dsimp only
  rw [hsent, houtcome, passOn.eq_def]
  rfl

/-- A request that can be sent has octets. -/
theorem forwardedBody_eq {request : Json} {text : Text} {octets : Bytes}
    (htext : (Value.ofJson request).compactText = .ok text)
    (hoctets : Utf8.encode? text = some octets) :
    forwardedBody (.ofJson request) = .ok octets := by
  simp only [forwardedBody, htext, hoctets, Except.mapError_ok, bind, Except.bind, pure,
    Except.pure]

variable {outcome : Except Http.Fault Http.Response}

/-- A reply is passed on as the value that it is. -/
theorem passOn_of_reply {reply : Json} (h : replyOf? outcome = some reply) :
    passOn outcome = .ok (.ofJson reply) := by
  cases outcome with
  | error fault => cases h
  | ok response =>
      rw [replyOf?] at h
      rw [passOn, readReply]
      cases hok : response.ok with
      | false =>
          rw [hok] at h
          cases h
      | true =>
          rw [hok, if_pos rfl] at h
          cases hjson : response.json with
          | error fault =>
              rw [hjson] at h
              cases h
          | ok json =>
              rw [hjson] at h
              obtain rfl : json = reply := Option.some.inj h
              rfl

/-- Anything else that an exchange concludes with is a failure of the service. Its words have a
UTF-8 form, unless they repeat those of a transport error that have none. -/
theorem passOn_of_none (hconcludes : Concludes outcome) (h : replyOf? outcome = none) :
    ∃ fault, passOn outcome = .error (.backend fault) ∧
      Utf8.encodable fault.message = !isUnspeakable outcome := by
  cases hconcludes with
  | transport error =>
      refine ⟨.unreachable error, rfl, ?_⟩
      rw [BackendFault.message, Utf8.encodable_append, Utf8.encodable_ofString, isUnspeakable,
        Bool.true_and, Bool.not_not]
  | @response response hshallow =>
      rw [replyOf?] at h
      rw [passOn, readReply]
      cases hok : response.ok with
      | false =>
          refine ⟨.status response.status, rfl, ?_⟩
          rw [BackendFault.message, Utf8.encodable_append, Utf8.encodable_ofString,
            Utf8.encodable_ofInt]
          rfl
      | true =>
          rw [hok, if_pos rfl] at h
          have hshallow := hshallow hok
          cases hjson : response.json with
          | ok json =>
              rw [hjson] at h
              cases h
          | error fault =>
              rw [hjson] at hshallow
              refine ⟨.malformedReply, ?_, Utf8.encodable_ofString _⟩
              cases fault with
              | notUtf8 => rfl
              | malformed cause =>
                  cases cause with
                  | tooDeep => exact absurd rfl hshallow
                  | _ => rfl

end Handler

end

namespace Service

variable {s : Service} {coins : Coins} {network : Http.Network}

/-! ### Answers -/

section

variable [Json.NestingLimit]

/-- What the caller reads from an answer: the compact text of a value, which stands for the
value. -/
structure Delivers (s : Service) (response : Response) (reply : Json) : Prop where
  status : response.status = 200
  content : ∃ message payload, response.content = .octets message ∧ s.Decodes message payload ∧
    Utf8.encode? (reply.render .compact) = some payload
  parse : Json.parse (reply.render .compact) = .ok reply

/-- What is sent to serve a request that is authorised is what the handler sends. -/
theorem sent_serveText (coins : Coins) {text : Text} {request : Json}
    (hauthorised : s.authorise text = .ok request) :
    (s.serveText coins network text).sent = (s.handler network (.ofJson request)).sent := by
  rw [serveText, hauthorised]
  dsimp only
  split <;> rfl

/-- A value that the handler returns and that can be sent is what the caller reads. -/
theorem delivers_of_result {key : PrivateKey} (hvalid : key.Valid) {startCoins : Coins}
    {env : Environment} {files : Files} {settings : ServiceSettings} {provision : Provision}
    (hstart : start startCoins env files settings provision = .ok s)
    (hkey : s.key = .ofPrivate key) (hcoins : coins.Blinds key.toPublic) {text t : Text}
    {request reply : Json} (hauthorised : s.authorise text = .ok request)
    (hresult : (s.handler network (.ofJson request)).result = .ok (.ofJson reply))
    (hparse : Json.parse t = .ok reply) (hreply : reply.Portable) (id : RequestId) :
    s.Delivers (s.respond id (s.serveText coins network text).ending) reply := by
  obtain ⟨octets, htext, hoctets, -, hreparsed⟩ := hreply.exists_octets hparse
  obtain ⟨message, hmessage, -, hdecodes⟩ :=
    encryptReply_decodes hvalid hstart hkey hcoins octets
  have hpayload : payload (.ofJson reply) = .ok octets :=
    payload_eq_ok_iff.mpr ⟨_, htext, hoctets⟩
  have hending : (s.serveText coins network text).ending = .answered message := by
    rw [serveText, hauthorised]
    simp only [hresult, Service.reply, hpayload, Except.bind, hmessage]
  rw [hending]
  exact ⟨rfl, ⟨message, octets, rfl, hdecodes, hoctets⟩, hreparsed⟩

/-- A failure that the handler reports has status 502, if its words have a UTF-8 form. -/
theorem status_of_backend (coins : Coins) {text : Text} {request : Json}
    (hauthorised : s.authorise text = .ok request) {fault : BackendFault}
    (hresult : (s.handler network (.ofJson request)).result = .error (.backend fault))
    (id : RequestId) : (s.respond id (s.serveText coins network text).ending).status
      = if Utf8.encodable fault.message then 502 else 500 := by
  have hending : (s.serveText coins network text).ending = .refused (.backend fault) := by
    rw [serveText, hauthorised]
    simp only [hresult]
  rw [hending, status_respond (by simp), Ending.crashes, Refusal.detail]
  cases Utf8.encodable fault.message <;> rfl

/-- **Failures of the service behind the relay never look like success.** Take a relay that
started with a valid key and forwards to a well-formed address on the web, and a post that it
vouches for, with a request that is authorised and can be sent as JSON. Then the service gets one
request: it goes to the address, less the mark of an empty fragment, and its body stands for the
request object. Let the exchange conclude with any response or with a transport error. The caller
gets 200 exactly if the service answered with status 200 and a body that is JSON, and then he
decodes the compact text of that value, as long as the value can be sent. Otherwise he gets 502;
only where the words of the transport error have no UTF-8 form it is 500. -/
theorem answer_forwarded {key : PrivateKey} (hvalid : key.Valid) {startCoins : Coins}
    {env : Environment} {files : Files} {settings : ServiceSettings} {provision : Provision}
    (hstart : start startCoins env files settings provision = .ok s)
    (hkey : s.key = .ofPrivate key) (hcoins : coins.Blinds key.toPublic)
    {address : Text} {timeout : Binary64} (hhandler : s.handler = .forward address timeout)
    (haddress : Http.Url.WellFormed address) {call : Call} {framing : Framing}
    (hposts : s.Posts framing call) {text : Text}
    (hvouched : Vouched s coins framing call.body text) {request : Json}
    (hauthorised : s.authorise text = .ok request) (hrequest : request.Portable)
    (network : Http.Network) :
    ∃ posted : Http.Request, (s.answer coins network call).served.sent = [posted] ∧
      (address = posted.url ∨ address = posted.url ++ Text.ofString "#") ∧
      (∃ body, Utf8.decode? posted.body = some body ∧ Json.parse body = .ok request) ∧
      ∀ outcome, Http.settle posted Http.Endpoint.defaultLimit (network posted) = outcome →
        Concludes outcome → (∀ reply, replyOf? outcome = some reply → reply.Portable) →
        ((s.answer coins network call).response.status = 200 ↔
          ∃ reply, replyOf? outcome = some reply) ∧
        (∀ reply, replyOf? outcome = some reply →
          s.Delivers (s.answer coins network call).response reply) ∧
        (replyOf? outcome = none → (s.answer coins network call).response.status
          = if isUnspeakable outcome then 500 else 502) := by
  obtain ⟨url, hurl, hgiven⟩ := haddress.exists_forRequest_eq
  obtain ⟨hparse, -, -⟩ := authorise_eq_ok_iff.mp hauthorised
  obtain ⟨body, htext, hbody, hdecoded, hreparsed⟩ := hrequest.exists_octets hparse
  have hforward := Handler.forward_eq hurl (Handler.forwardedBody_eq htext hbody) timeout network
  rw [← hhandler] at hforward
  have hserved : s.dispatch coins network call = s.serveText coins network text :=
    hposts.dispatch_of_vouched hvouched
  have hresponse : (s.answer coins network call).response
      = s.respond (requestId call.headers) (s.serveText coins network text).ending := by
    rw [← hserved]
    rfl
  have hsent : (s.answer coins network call).served.sent
      = (s.handler network (.ofJson request)).sent := by
    have hkept : (s.answer coins network call).served = s.dispatch coins network call := rfl
    rw [hkept, hserved, sent_serveText coins hauthorised]
  refine ⟨⟨url, body, "application/json", timeout⟩, by rw [hsent, hforward], hgiven,
    ⟨_, hdecoded, hreparsed⟩, ?_⟩
  rintro outcome rfl hconcludes hportable
  have hresult := congrArg Handled.result hforward
  dsimp only at hresult hconcludes hportable ⊢
  generalize Http.settle _ _ _ = outcome at hresult hconcludes hportable ⊢
  rw [hresponse]
  cases hreply : replyOf? outcome with
  | some reply =>
      obtain ⟨response, t, -, -, -, ht⟩ := replyOf?_eq_some_iff.mp hreply
      have hdelivers := delivers_of_result hvalid hstart hkey hcoins hauthorised
        (hresult.trans (Handler.passOn_of_reply hreply)) ht (hportable reply hreply)
        (requestId call.headers)
      refine ⟨iff_of_true hdelivers.status ⟨reply, rfl⟩, ?_, fun h => absurd h (by simp)⟩
      rintro other ⟨⟩
      exact hdelivers
  | none =>
      obtain ⟨fault, hfault, hwords⟩ := Handler.passOn_of_none hconcludes hreply
      have hstatus := status_of_backend coins hauthorised (hresult.trans hfault)
        (requestId call.headers)
      rw [hwords] at hstatus
      rw [hstatus]
      refine ⟨iff_of_false ?_ (by simp), fun _ h => absurd h (by simp), fun _ => ?_⟩
      · cases isUnspeakable outcome <;> simp
      · cases isUnspeakable outcome <;> rfl

end

/-! ### A relay that forwards -/

/-- A small relay that forwards to an address. -/
def forwardingRelay (address : Text) : Service :=
  ⟨smallSettings .publicRecover, .ofPrivate .sample, some (.ofPrivate .secondSample),
    .forward address Http.Endpoint.defaultTimeout, 20⟩

/-- The keys of that relay pass its checks. -/
theorem start_forwardingRelay (address : Text) :
    start .constant [] (Files.ofDirectory []) (smallSettings .publicRecover)
        ⟨some (.ofPrivate .sample), some (.ofPrivate .secondSample),
          some (.forward address Http.Endpoint.defaultTimeout)⟩
      = .ok (forwardingRelay address) :=
  start_of_ready (ready_smallSettings .publicRecover) (by decide +kernel) _ _ _

/-- A post with an empty object in it, encrypted for that relay. -/
def emptyPost : Call :=
  ⟨"POST", "/encrypted-request", [],
    Codec.message .constant PrivateKey.sample.toPublic .pkcs1v15 [0x7B, 0x7D]⟩

/-- The post is within the limit of that relay. -/
theorem posts_emptyPost (address : Text) :
    (forwardingRelay address).Posts .encryptedBody emptyPost := by
  have hsize : Scheme.pkcs1v15.overhead < PrivateKey.sample.toPublic.size := by decide +kernel
  refine ⟨ofPath?_path .encryptedBody, rfl, ?_⟩
  have hwithin : (PrivateKey.sample.toPublic.size
      * (([0x7B, 0x7D] : Bytes).length ⌈/⌉ (PrivateKey.sample.toPublic.size
        - Scheme.pkcs1v15.overhead)) : Nat) ≤ (smallSettings .publicRecover).bodyLimit := by
    decide +kernel
  rw [emptyPost, Codec.length_message hsize]
  exact hwithin

/-- The relay vouches for the object in the post. -/
theorem vouched_emptyPost (address : Text) :
    Vouched (forwardingRelay address) .constant .encryptedBody emptyPost.body "\x7b\x7d" := by
  have hdecrypted : Codec.decrypt .constant .single emptyPost.body (.ofPrivate .sample) .pkcs1v15
      = .ok [0x7B, 0x7D] := Codec.decrypt_message PrivateKey.valid_sample (by decide +kernel)
    (Coins.blinds_constant PrivateKey.valid_sample.odd_modulus) .single _
  exact .decrypted hdecrypted (Utf8.decode?_encode? (by decide +kernel))

/-- An object is authorised where methods are not restricted. -/
theorem authorise_empty (address : Text) :
    (forwardingRelay address).authorise "\x7b\x7d" = .ok (.object []) :=
  authorise_eq_ok_iff.mpr ⟨by decide +kernel, ⟨[], rfl⟩, rfl⟩

/-- An empty object has no texts and no numbers in it. -/
theorem portable_empty : (Json.object []).Portable :=
  ⟨rfl, nofun⟩

/-- The null of a service is passed on, and that a service refuses connections is reported. -/
theorem answer_forwarded_sample :
    PrivateKey.Valid .sample ∧ Http.Url.WellFormed "http://mirror/base/x" ∧
    start .constant [] (Files.ofDirectory []) (smallSettings .publicRecover)
        ⟨some (.ofPrivate .sample), some (.ofPrivate .secondSample),
          some (.forward "http://mirror/base/x" Http.Endpoint.defaultTimeout)⟩
      = .ok (forwardingRelay "http://mirror/base/x") ∧
    (forwardingRelay "http://mirror/base/x").Delivers
      ((forwardingRelay "http://mirror/base/x").answer .constant
        (fun _ => .answered 200 [] [0x6E, 0x75, 0x6C, 0x6C] none) emptyPost).response .null ∧
    ((forwardingRelay "http://mirror/base/x").answer .constant
      (fun _ => .failed (.unnumbered "refused")) emptyPost).response.status = 502 := by
  have hblinds := Coins.blinds_constant PrivateKey.valid_sample.odd_modulus
  have hforwarded := answer_forwarded PrivateKey.valid_sample
    (start_forwardingRelay "http://mirror/base/x") rfl hblinds rfl Http.wellFormed_sample
    (posts_emptyPost _) (vouched_emptyPost _) (authorise_empty _) portable_empty
  refine ⟨PrivateKey.valid_sample, Http.wellFormed_sample,
    start_forwardingRelay "http://mirror/base/x", ?_, ?_⟩
  · obtain ⟨posted, -, -, -, hends⟩ :=
      hforwarded fun _ => .answered 200 [] [0x6E, 0x75, 0x6C, 0x6C] none
    have hreply : replyOf? (.ok ⟨200, [], [0x6E, 0x75, 0x6C, 0x6C]⟩) = some .null :=
      replyOf?_eq_some_iff.mpr ⟨_, "null", rfl, rfl, Utf8.decode?_encode? (by decide +kernel),
        by decide +kernel⟩
    have hshallow : (⟨200, [], [0x6E, 0x75, 0x6C, 0x6C]⟩ : Http.Response).json
        ≠ .error (.malformed .tooDeep) := by
      obtain ⟨_, _, ⟨⟩, -, hdecoded, hparse⟩ := replyOf?_eq_some_iff.mp hreply
      rw [Http.Response.json, hdecoded]
      simp [hparse]
    refine (hends (.ok ⟨200, [], [0x6E, 0x75, 0x6C, 0x6C]⟩) rfl (.response fun _ => hshallow)
      fun reply h => ?_).2.1 .null hreply
    obtain rfl := Option.some.inj (hreply.symm.trans h)
    exact ⟨rfl, nofun⟩
  · obtain ⟨posted, -, -, -, hends⟩ := hforwarded fun _ => .failed (.unnumbered "refused")
    exact (hends (.error (.transport (.connection (.network "refused") []))) rfl (.transport _)
      nofun).2.2 rfl

/-- What serving that post comes to. -/
theorem dispatch_emptyPost (address : Text) (network : Http.Network) :
    (forwardingRelay address).dispatch .constant network emptyPost
      = (forwardingRelay address).serveText .constant network "\x7b\x7d" :=
  (posts_emptyPost address).dispatch_of_vouched (vouched_emptyPost address)

/-- An address with the mark of an empty fragment is well-formed. -/
theorem wellFormed_emptyFragment : Http.Url.WellFormed "http://mirror/base/x#" :=
  Http.Url.wellFormed_http "mirror" "/base/x#" (by decide) (by decide) (by decide) (by decide)
    (by decide)

/-- Words that a system gives in another encoding: they hold a lone surrogate. -/
def foreignWords : Text := "Connexion refus" ++ [(0xDCE9 : CodePoint)] ++ "e"

/-- There are a relay that started, a well-formed address and a request that can be sent such that
a failure of the connection is answered with 500, and such that the request goes to another
address than the one that is given. -/
theorem answer_foreignWords : PrivateKey.Valid .sample ∧
    Http.Url.WellFormed "http://mirror/base/x#" ∧
    start .constant [] (Files.ofDirectory []) (smallSettings .publicRecover)
        ⟨some (.ofPrivate .sample), some (.ofPrivate .secondSample),
          some (.forward "http://mirror/base/x#" Http.Endpoint.defaultTimeout)⟩
      = .ok (forwardingRelay "http://mirror/base/x#") ∧
    Vouched (forwardingRelay "http://mirror/base/x#") .constant .encryptedBody emptyPost.body
      "\x7b\x7d" ∧
    (forwardingRelay "http://mirror/base/x#").authorise "\x7b\x7d" = .ok (.object []) ∧
    (∃ cause, ∀ request, Http.settle request Http.Endpoint.defaultLimit
      (.failed (.unnumbered foreignWords)) = .error (.transport (.connection cause []))) ∧
    ((forwardingRelay "http://mirror/base/x#").answer .constant
      (fun _ => .failed (.unnumbered foreignWords)) emptyPost).response.status = 500 ∧
    ((forwardingRelay "http://mirror/base/x#").answer .constant
      (fun _ => .failed (.unnumbered foreignWords)) emptyPost).served.sent.map Http.Request.url
        = ["http://mirror/base/x"] := by
  refine ⟨PrivateKey.valid_sample, wellFormed_emptyFragment, start_forwardingRelay _,
    vouched_emptyPost _, authorise_empty _, ⟨_, fun _ => rfl⟩, ?_, ?_⟩
  · rw [answer, dispatch_emptyPost]
    decide +kernel
  · rw [answer, dispatch_emptyPost]
    decide +kernel

end Service

end Relay

end SealedRpc
