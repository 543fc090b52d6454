import SealedRpc.Proofs.Exchange.Stages
import SealedRpc.Proofs.Http.Exchange

/-!
# Answers are taken whole

The body of an answer is read up to one octet more than is allowed, and refused if that octet is
there. So a post comes back with all of the body or with none of it. This is so for every limit,
also for one below zero, under which no body is allowed; reading all of a body, which is what a
count below zero asks for, makes no difference then. And it is so for error responses, whose bodies
are read at another place.

What is left is to follow the response through a call. A call decodes the response that its post
came back with and nothing else, so a message that is decoded is the whole one. Under a padding
scheme a message that is cut at the end of a block could not be told from a whole one.

## Main results

* `Http.settle_eq_ok_iff`: an exchange succeeds exactly with an answer that is within the limit.
* `Http.Endpoint.postUrl_eq_ok_iff`: so does a post.
* `Client.callVia_cases`: a call sends nothing and fails, or comes to what its post comes to.
* `postUrl_whole`: posts and calls take answers whole or refuse them.
-/

namespace SealedRpc

namespace Http

variable {request : Request} {limit : Int} {opening : Opening} {response : Response}

/-- No fault but an error response is recovered from with a response. -/
theorem recover_ne_ok {fault : Fault} (h : fault.reply? = none) :
    recover request limit fault ≠ .ok response := by
  cases fault with
  | errorResponse code reason headers body bodyFault =>
      cases bodyFault with
      | none => cases h
      | some bodyFault => exact nofun
  | unreachableBecause cause =>
      simp only [recover]
      split <;> exact nofun
  | system number text =>
      simp only [recover]
      split <;> exact nofun
  | _ => exact nofun

/-- An exchange succeeds exactly if there is an answer that is within the limit, and then with that
answer. -/
theorem settle_eq_ok_iff : settle request limit opening = .ok response ↔
    opening.reply? = some response ∧ (response.body.length : Int) ≤ limit := by
  cases hreply : opening.reply? with
  | none =>
      obtain ⟨fault, hfault, hnone⟩ := exists_fault_of_reply? hreply
      rw [settle_eq_recover hfault]
      exact iff_of_false (recover_ne_ok hnone) nofun
  | some answer =>
      rw [settle_of_reply hreply]
      constructor
      · intro h
        split at h
        · cases h
        · obtain rfl := Except.ok.inj h
          exact ⟨rfl, Int.not_lt.mp ‹_›⟩
      · rintro ⟨hanswer, hlimit⟩
        obtain rfl := Option.some.inj hanswer
        rw [if_neg (Int.not_lt.mpr hlimit)]

/-- A post sends nothing and fails, or it sends one request and comes to what that meets. -/
theorem Endpoint.postUrl_cases (e : Endpoint) (network : Network) (url : Text) (body : Bytes)
    (contentType : Text) :
    (∃ fault, (e.postUrl network url body contentType).outcome = .error fault ∧
      (e.postUrl network url body contentType).sent = []) ∨
    ∃ request, (e.postUrl network url body contentType).outcome
        = settle request e.limit (network request) ∧
      (e.postUrl network url body contentType).sent = [request] := by
  cases haddress : Url.forRequest url with
  | error fault =>
      rw [postUrl, haddress]
      exact .inl ⟨_, rfl, rfl⟩
  | ok address =>
      obtain ⟨hsent, houtcome⟩ := @postUrl_eq e network url address haddress body contentType
      exact .inr ⟨_, houtcome, hsent⟩

/-- A post to an address that a request can be sent to comes back exactly with an answer that is
within the limit. -/
theorem Endpoint.postUrl_eq_ok_iff {e : Endpoint} {network : Network} {url address : Text}
    (haddress : Url.forRequest url = .ok address) {body : Bytes} {contentType : Text} :
    (e.postUrl network url body contentType).outcome = .ok response ↔
      (network ⟨address, body, contentType, e.timeout⟩).reply? = some response ∧
        (response.body.length : Int) ≤ e.limit := by
  rw [(postUrl_eq haddress body contentType).2]
  exact settle_eq_ok_iff

/-- A post to a path, too, sends nothing and fails, or comes to what its one request meets. -/
theorem Endpoint.post_cases (e : Endpoint) (network : Network) (path : Text) (body : Bytes)
    (contentType : Text) :
    (∃ fault, (e.post network path body contentType).outcome = .error fault ∧
      (e.post network path body contentType).sent = []) ∨
    ∃ request, (e.post network path body contentType).outcome
        = settle request e.limit (network request) ∧
      (e.post network path body contentType).sent = [request] := by
  cases hurl : e.address path with
  | error fault =>
      rw [post, hurl]
      exact .inl ⟨_, rfl, rfl⟩
  | ok url =>
      rw [post_eq hurl]
      exact e.postUrl_cases network url body contentType

end Http

namespace Client

open Http (Endpoint Network Request Response)

/-- The transport that posts to paths under an endpoint, also for callers that do not wait. -/
def Transport.ofEndpoint (e : Endpoint) (network : Network) : Transport :=
  let way := fun encoded : EncodedRequest =>
    e.post network encoded.path encoded.body encoded.contentType
  ⟨way, some way⟩

variable {coins : Coins} {via : Via} {request : Value}

section

variable [Json.NestingLimit]

/-- A call sends nothing and fails, or it comes to what its post and the response come to. -/
theorem callVia_cases (c : Client) (coins : Coins) (via : Via)
    (post : EncodedRequest → Http.Delivery) (request : Value) :
    (∃ e, (c.callVia coins via post request).result = .error e ∧
      (c.callVia coins via post request).sent = []) ∨
    ∃ encoded, (c.callVia coins via post request).result
        = decoded c.deployment coins (post encoded).outcome ∧
      (c.callVia coins via post request).sent = (post encoded).sent := by
  have hbegins := begins_begin c coins request
  rw [callVia]
  generalize c.begin coins request = begun at hbegins
  cases hbegins with
  | refused hnot hcheck => exact .inl ⟨_, rfl, rfl⟩
  | unencoded hadmits hencode => exact .inl ⟨_, rfl, rfl⟩
  | @waits encoded hadmits hencode =>
      simp only [finish_waits]
      exact .inr ⟨encoded, snd_conclude c.deployment coins (post encoded).outcome, rfl⟩

/-- What a client makes of an answer: it decodes the whole of it, or refuses it as too large. -/
def taken (d : Deployment) (coins : Coins) (limit : Int) (response : Response) :
    Except CallError Bytes :=
  if limit < response.body.length then
    .error (.fault (.transport (.connection (.tooLarge limit) [])))
  else d.decode coins response.status response.body

/-- A call over an endpoint that is answered takes the answer whole or refuses it, and a call that
returns has decoded the whole of an answer. -/
theorem callVia_whole (c : Client) (e : Endpoint) (network : Network) :
    (∀ sent ∈ (c.callVia coins via (Transport.ofEndpoint e network).post request).sent,
      ∀ response, (network sent).reply? = some response →
        (c.callVia coins via (Transport.ofEndpoint e network).post request).result
          = taken c.deployment coins e.limit response) ∧
    ∀ plaintext,
      (c.callVia coins via (Transport.ofEndpoint e network).post request).result = .ok plaintext →
        ∃ sent response,
          (c.callVia coins via (Transport.ofEndpoint e network).post request).sent = [sent] ∧
            (network sent).reply? = some response ∧ (response.body.length : Int) ≤ e.limit ∧
            c.deployment.decode coins response.status response.body = .ok plaintext := by
  rcases c.callVia_cases coins via (Transport.ofEndpoint e network).post request with
    ⟨error, hresult, hsent⟩ | ⟨encoded, hresult, hsent⟩
  · rw [hresult, hsent]
    exact ⟨nofun, nofun⟩
  rw [hresult, hsent]
  rcases e.post_cases network encoded.path encoded.body encoded.contentType with
    ⟨fault, houtcome, hnone⟩ | ⟨posted, houtcome, hone⟩
  · simp only [Transport.ofEndpoint, houtcome, hnone]
    exact ⟨nofun, nofun⟩
  · simp only [Transport.ofEndpoint, houtcome, hone]
    constructor
    · intro sent hmem response hreply
      obtain rfl := List.mem_singleton.mp hmem
      rw [Http.settle_of_reply hreply, taken]
      split <;> rfl
    · intro plaintext hdecoded
      cases hsettle : Http.settle posted e.limit (network posted) with
      | error fault =>
          rw [hsettle] at hdecoded
          cases hdecoded
      | ok response =>
          rw [hsettle] at hdecoded
          obtain ⟨hreply, hlimit⟩ := Http.settle_eq_ok_iff.mp hsettle
          exact ⟨posted, response, rfl, hreply, hlimit, hdecoded⟩

/-- **Answers are taken whole.** A post to an address that a request can be sent to sends one
request. Let the service answer, with a response of any status or with an error response, and let
nothing interrupt the reading of the body. Then the post comes back with a response exactly if the
body is within the limit, whatever integer that is, and the response is the answer with the whole of
its body; otherwise the post fails as a connection does. In a call the answer is decoded whole, or
the call fails as the post does; and whatever a call returns is decoded from a whole answer. -/
theorem postUrl_whole {e : Endpoint} {network : Network} {url address : Text}
    (haddress : Http.Url.forRequest url = .ok address) (body : Bytes) (contentType : Text) :
    (∃ posted : Request, posted = ⟨address, body, contentType, e.timeout⟩ ∧
      (e.postUrl network url body contentType).sent = [posted] ∧
      ∀ response, (network posted).reply? = some response →
        ((∃ got, (e.postUrl network url body contentType).outcome = .ok got) ↔
          (response.body.length : Int) ≤ e.limit) ∧
        (∀ got, (e.postUrl network url body contentType).outcome = .ok got → got = response) ∧
        (e.limit < response.body.length → (e.postUrl network url body contentType).outcome
          = .error (.transport (.connection (.tooLarge e.limit) [])))) ∧
    ∀ (c : Client) (coins : Coins) (request : Value),
      ∀ called ∈ [c.call coins (.ofEndpoint e network) request,
          c.callAsync coins (.ofEndpoint e network) request],
        (∀ sent ∈ called.sent, ∀ response, (network sent).reply? = some response →
          called.result = taken c.deployment coins e.limit response) ∧
        ∀ plaintext, called.result = .ok plaintext → ∃ sent response,
          called.sent = [sent] ∧ (network sent).reply? = some response ∧
            (response.body.length : Int) ≤ e.limit ∧
            c.deployment.decode coins response.status response.body = .ok plaintext := by
  constructor
  · obtain ⟨hsent, houtcome⟩ :=
      @Endpoint.postUrl_eq e network url address haddress body contentType
    refine ⟨_, rfl, hsent, fun response hreply => ?_⟩
    have hwhole : ∀ got, (e.postUrl network url body contentType).outcome = .ok got →
        got = response ∧ (response.body.length : Int) ≤ e.limit := by
      intro got hgot
      obtain ⟨hgotten, hlimit⟩ := (Endpoint.postUrl_eq_ok_iff haddress).mp hgot
      obtain rfl := Option.some.inj (hreply.symm.trans hgotten)
      exact ⟨rfl, hlimit⟩
    refine ⟨⟨?_, fun hlimit => ⟨response, ?_⟩⟩, fun got hgot => (hwhole got hgot).1, ?_⟩
    · rintro ⟨got, hgot⟩
      exact (hwhole got hgot).2
    · exact (Endpoint.postUrl_eq_ok_iff haddress).mpr ⟨hreply, hlimit⟩
    · intro hlarge
      rw [houtcome, Http.settle_of_reply hreply, if_pos hlarge]
  · intro c coins request called hcalled
    rw [List.mem_pair] at hcalled
    obtain rfl | rfl := hcalled
    · exact c.callVia_whole e network
    · exact c.callVia_whole e network

end

/-- The sample endpoint with another limit. -/
def limited (limit : Int) : Endpoint := { Endpoint.sample with limit }

/-- Three octets of an error response are within a limit of three, and beyond one of two. -/
theorem postUrl_whole_sample :
    Http.Url.forRequest "http://mirror/base/x" = .ok "http://mirror/base/x" ∧
    ((limited 3).postUrl (fun _ => .failed (.errorResponse 500 "broken" [] [1, 2, 3] none))
      "http://mirror/base/x" [] "application/json").outcome = .ok ⟨500, [], [1, 2, 3]⟩ ∧
    ((limited 2).postUrl (fun _ => .failed (.errorResponse 500 "broken" [] [1, 2, 3] none))
      "http://mirror/base/x" [] "application/json").outcome
      = .error (.transport (.connection (.tooLarge 2) [])) ∧
    ((limited (-1)).postUrl (fun _ => .answered 200 [] [] none)
      "http://mirror/base/x" [] "application/json").outcome
      = .error (.transport (.connection (.tooLarge (-1)) [])) := by
  have haddress : Http.Url.forRequest "http://mirror/base/x" = .ok "http://mirror/base/x" := by
    decide +kernel
  refine ⟨haddress, ?_, ?_, ?_⟩
  · obtain ⟨⟨posted, -, -, hposted⟩, -⟩ := @postUrl_whole _ (limited 3)
      (fun _ => .failed (.errorResponse 500 "broken" [] [1, 2, 3] none)) _ _ haddress []
      "application/json"
    obtain ⟨htaken, hwhole, -⟩ := hposted _ rfl
    obtain ⟨got, hgot⟩ := htaken.mpr (by decide)
    rwa [hwhole got hgot] at hgot
  · obtain ⟨⟨posted, -, -, hposted⟩, -⟩ := @postUrl_whole _ (limited 2)
      (fun _ => .failed (.errorResponse 500 "broken" [] [1, 2, 3] none)) _ _ haddress []
      "application/json"
    exact (hposted _ rfl).2.2 (by decide)
  · obtain ⟨⟨posted, -, -, hposted⟩, -⟩ := @postUrl_whole _ (limited (-1))
      (fun _ => .answered 200 [] [] none) _ _ haddress [] "application/json"
    exact (hposted _ rfl).2.2 (by decide)

end Client

end SealedRpc
