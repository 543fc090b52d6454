import SealedRpc.Http.Exchange
import SealedRpc.Proofs.Http.Url

/-!
# How a post ends

Opening a connection and reading an answer may fail with whatever networks raise. A post reports
each such fault as a timeout or as a connection failure; an error response is a fault of the
network too, but a response for the caller.

There is one gap. The body of an error response is read while the fault that brought it is being
handled, and what goes wrong there is not handled again: it comes through as it is. A post on
which this is not so ends in one of three ways.

## Main results

* `settle_of_reply`, `settle_of_fault`: what an answer or a fault becomes.
* `settle_of_bodyFault`: what goes wrong in the body of an error response comes through.
* `post_ends`: how posts to well-formed addresses end.
* `postUrl_brokenResponse`: a timeout that comes through.
-/

namespace SealedRpc.Http

/-! ### What networks raise -/

/-- Whether networks raise a fault: an error response, an address that cannot be opened for any
reason, a timeout, or a failure of the system. What reading the body of an error response raises
is such a fault again. -/
inductive Fault.OfNetwork : Fault → Prop
  | errorResponse {code : Int} {reason : Text} {headers : Headers} {body : Bytes} :
      OfNetwork (.errorResponse code reason headers body none)
  | brokenResponse {code : Int} {reason : Text} {headers : Headers} {body : Bytes}
      {bodyFault : Fault} (h : OfNetwork bodyFault) :
      OfNetwork (.errorResponse code reason headers body (some bodyFault))
  | unreachable {reason : Text} : OfNetwork (.unreachable reason)
  | unreachableBecause {cause : Fault} : OfNetwork (.unreachableBecause cause)
  | timeout {text : Text} : OfNetwork (.timeout text)
  | system {number : Int} {text : Text} : OfNetwork (.system number text)
  | unnumbered {text : Text} : OfNetwork (.unnumbered text)

namespace Fault

/-- The response that an error response is, if its body can be read. -/
def reply? : Fault → Option Response
  | .errorResponse code _ headers body none => some ⟨code, headers, body⟩
  | _ => none

/-- What reading the body of an error response raises. -/
def bodyFault? : Fault → Option Fault
  | .errorResponse _ _ _ _ bodyFault => bodyFault
  | _ => none

/-- Whether a fault says that a wait was in vain: it is a timeout, or an address cannot be opened
because of one. -/
def timesOut : Fault → Bool
  | .unreachableBecause cause => cause.isTimeout
  | fault => fault.isTimeout

/-- The reason that a fault gives for a connection failure. -/
def reason : Fault → Text
  | .unreachable reason => reason
  | .unreachableBecause cause => cause.message
  | fault => fault.message

end Fault

namespace Opening

/-- What is raised before the answer is there as a whole. -/
def fault? : Opening → Option Fault
  | .answered _ _ _ readFault => readFault
  | .failed fault => some fault

/-- Whether everything that an opening raises is raised by networks. -/
def OfNetwork (opening : Opening) : Prop :=
  ∀ fault ∈ opening.fault?, fault.OfNetwork

/-- The answer of the service, if there is one whose body can be read. -/
def reply? : Opening → Option Response
  | .answered status headers body none => some ⟨status, headers, body⟩
  | .answered _ _ _ (some fault) | .failed fault => fault.reply?

/-- What reading the body of an error response raises. -/
def bodyFault? (opening : Opening) : Option Fault :=
  opening.fault?.bind Fault.bodyFault?

/-- Whether a wait was in vain. -/
def timesOut (opening : Opening) : Bool :=
  opening.fault?.any Fault.timesOut

end Opening

/-! ### What becomes of it -/

section Settling

variable {request : Request} {limit : Int} {opening : Opening} {fault : Fault}

/-- A fault is recovered from at whichever point it is raised. -/
theorem settle_eq_recover (h : opening.fault? = some fault) :
    settle request limit opening = recover request limit fault := by
  cases opening with
  | answered status headers body readFault =>
      obtain rfl : readFault = some fault := h
      rfl
  | failed other =>
      obtain rfl : other = fault := Option.some.inj h
      rfl

/-- An answer comes undisturbed, or as an error response whose body can be read. -/
theorem exists_of_reply? {response : Response} (h : opening.reply? = some response) :
    opening = .answered response.status response.headers response.body none ∨
      ∃ reason, opening.fault?
        = some (.errorResponse response.status reason response.headers response.body none) := by
  have herror : ∀ fault : Fault, fault.reply? = some response → ∃ reason,
      fault = .errorResponse response.status reason response.headers response.body none := by
    intro fault hfault
    unfold Fault.reply? at hfault
    split at hfault
    · obtain rfl := Option.some.inj hfault
      exact ⟨_, rfl⟩
    · cases hfault
  cases opening with
  | answered status headers body readFault =>
      cases readFault with
      | none =>
          obtain rfl := Option.some.inj h
          exact .inl rfl
      | some fault => exact .inr ((herror fault h).imp fun _ => congrArg some)
  | failed fault => exact .inr ((herror fault h).imp fun _ => congrArg some)

/-- An answer is taken whole or refused as too large, be it an error response or not. -/
theorem settle_of_reply {response : Response} (h : opening.reply? = some response) :
    settle request limit opening
      = if limit < response.body.length then
          .error (.transport (.connection (.tooLarge limit) []))
        else .ok response := by
  have hwhole := settle_answered request limit response.status response.headers response.body
  rcases exists_of_reply? h with hanswered | ⟨reason, hfault⟩
  · rw [hanswered, hwhole]
  · rw [settle_eq_recover hfault, ← hwhole]
    rfl

/-- An answer is no wait in vain. -/
theorem timesOut_of_reply {response : Response} (h : opening.reply? = some response) :
    opening.timesOut = false := by
  rcases exists_of_reply? h with hanswered | ⟨reason, hfault⟩
  · rw [hanswered]
    rfl
  · rw [Opening.timesOut, hfault]
    rfl

/-- What reading the body of an error response raises comes through. -/
theorem settle_of_bodyFault (h : opening.bodyFault? = some fault) :
    settle request limit opening = .error fault := by
  obtain ⟨raised, hraised, hbody⟩ := Option.bind_eq_some_iff.mp h
  rw [settle_eq_recover hraised]
  cases raised with
  | errorResponse code reason headers body bodyFault =>
      obtain rfl : bodyFault = some fault := hbody
      rfl
  | _ => cases hbody

/-- Any other fault that networks raise is reported: as a timeout if a wait was in vain, and else
as a connection failure. -/
theorem settle_of_fault (hnetwork : fault.OfNetwork) (hfault : opening.fault? = some fault)
    (hreply : fault.reply? = none) (hbody : fault.bodyFault? = none) :
    settle request limit opening
      = if fault.timesOut then
          .error (.transport (.timeout (.waited request.timeout request.url) []))
        else .error (.transport (.connection (.network fault.reason) [])) := by
  rw [settle_eq_recover hfault]
  cases hnetwork with
  | errorResponse => cases hreply
  | brokenResponse => cases hbody
  | _ => rfl

/-- Without an answer there is a fault, and it is no error response that can be read. -/
theorem exists_fault_of_reply? (h : opening.reply? = none) :
    ∃ fault, opening.fault? = some fault ∧ fault.reply? = none := by
  cases opening with
  | answered status headers body readFault =>
      cases readFault with
      | none => cases h
      | some fault => exact ⟨fault, rfl, h⟩
  | failed fault => exact ⟨fault, rfl, h⟩

/-- An exchange in which no body of an error response fails ends with the answer, with a timeout
or with a connection failure. -/
theorem settle_cases (hnetwork : opening.OfNetwork) (hbody : opening.bodyFault? = none) :
    ((∃ response, settle request limit opening = .ok response ∧
        opening.reply? = some response) ∨
      settle request limit opening
        = .error (.transport (.timeout (.waited request.timeout request.url) [])) ∨
      ∃ cause, settle request limit opening = .error (.transport (.connection cause []))) ∧
    ((∃ cause, settle request limit opening = .error (.transport (.timeout cause []))) ↔
      opening.timesOut = true) := by
  cases hreply : opening.reply? with
  | some response =>
      rw [settle_of_reply hreply, timesOut_of_reply hreply]
      by_cases hlarge : limit < response.body.length <;> simp [hlarge]
  | none =>
      obtain ⟨fault, hfault, hnone⟩ := exists_fault_of_reply? hreply
      have hraised : fault.bodyFault? = none := by
        rw [Opening.bodyFault?, hfault] at hbody
        exact hbody
      have htimes : opening.timesOut = fault.timesOut := by
        rw [Opening.timesOut, hfault]
        rfl
      rw [settle_of_fault (hnetwork fault hfault) hfault hnone hraised, htimes]
      cases fault.timesOut <;> simp

end Settling

/-! ### Posts -/

section Posts

variable {e : Endpoint} {network : Network} {url : Text}

/-- A post to a path is a post to the address that the path joins to. -/
theorem Endpoint.post_eq {path : Text} (h : e.address path = .ok url) (body : Bytes)
    (contentType : Text) :
    e.post network path body contentType = e.postUrl network url body contentType := by
  rw [post, h]

/-- A post to an address that a request can be sent to sends that request, once. -/
theorem Endpoint.postUrl_eq {address : Text} (h : Url.forRequest url = .ok address) (body : Bytes)
    (contentType : Text) :
    (e.postUrl network url body contentType).sent = [⟨address, body, contentType, e.timeout⟩] ∧
    (e.postUrl network url body contentType).outcome
      = settle ⟨address, body, contentType, e.timeout⟩ e.limit
          (network ⟨address, body, contentType, e.timeout⟩) := by
  rw [postUrl, h]
  exact ⟨rfl, rfl⟩

/-- **How a post ends.** A post to a well-formed address on the web, or to a path that joins to
one, sends one request, to the address as it is given less the mark of an empty fragment. Let the
network raise what networks raise. If the body of an error response fails, what reading it raises
comes through as it is. Otherwise the post ends in one of three ways: with the answer that the
service gave, with a timeout, or with a connection failure; and it ends with a timeout exactly if
a wait was in vain. -/
theorem post_ends {body : Bytes} {contentType : Text} {delivery : Delivery}
    (hurl : Url.WellFormed url) (hnetwork : ∀ request, (network request).OfNetwork)
    (hdelivery : delivery = e.postUrl network url body contentType ∨
      ∃ path, e.address path = .ok url ∧ delivery = e.post network path body contentType) :
    ∃ address, (url = address ∨ url = address ++ Text.ofString "#") ∧
      delivery.sent = [⟨address, body, contentType, e.timeout⟩] ∧
      ∀ opening, network ⟨address, body, contentType, e.timeout⟩ = opening →
        (∀ fault, opening.bodyFault? = some fault → delivery.outcome = .error fault) ∧
        (opening.bodyFault? = none →
          ((∃ response, delivery.outcome = .ok response ∧ opening.reply? = some response) ∨
            delivery.outcome = .error (.transport (.timeout (.waited e.timeout address) [])) ∨
            ∃ cause, delivery.outcome = .error (.transport (.connection cause []))) ∧
          ((∃ cause, delivery.outcome = .error (.transport (.timeout cause []))) ↔
            opening.timesOut = true)) := by
  obtain ⟨address, haddress, hgiven⟩ := hurl.exists_forRequest_eq
  obtain ⟨hsent, houtcome⟩ := @Endpoint.postUrl_eq e network url address haddress body contentType
  have hposted : delivery = e.postUrl network url body contentType := by
    rcases hdelivery with hdelivery | ⟨path, hpath, hdelivery⟩
    · exact hdelivery
    · rw [hdelivery, Endpoint.post_eq hpath]
  rw [hposted, hsent, houtcome]
  refine ⟨address, hgiven, rfl, ?_⟩
  rintro opening rfl
  exact ⟨fun fault hfault => settle_of_bodyFault hfault, settle_cases (hnetwork _)⟩

end Posts

/-! ### An endpoint -/

/-- An endpoint under a path. -/
def Endpoint.sample : Endpoint :=
  .ofBase "http://mirror/base" defaultTimeout defaultLimit

/-- An address under that endpoint is well-formed. -/
theorem wellFormed_sample : Url.WellFormed "http://mirror/base/x" :=
  Url.wellFormed_http "mirror" "/base/x" (by decide) (by decide) (by decide) (by decide) (by decide)

/-- A timeout in front of the service, which a post to a path reports as one. -/
theorem post_ends_sample : Url.WellFormed "http://mirror/base/x" ∧
    Endpoint.sample.address "/x" = .ok "http://mirror/base/x" ∧
    (Opening.failed (.unreachableBecause (.timeout "timed out"))).OfNetwork ∧
    (Endpoint.sample.post (fun _ => .failed (.unreachableBecause (.timeout "timed out"))) "/x" []
      "application/json").sent.length = 1 ∧
    ∃ cause, (Endpoint.sample.post
      (fun _ => .failed (.unreachableBecause (.timeout "timed out"))) "/x" []
      "application/json").outcome = .error (.transport (.timeout cause [])) := by
  have hpath : Endpoint.sample.address "/x" = .ok "http://mirror/base/x" := rfl
  have hnetwork : (Opening.failed (.unreachableBecause (.timeout "timed out"))).OfNetwork := by
    rintro fault ⟨⟩
    exact .unreachableBecause
  obtain ⟨address, -, hsent, hends⟩ := post_ends wellFormed_sample (fun _ => hnetwork)
    (.inr ⟨"/x", hpath, rfl⟩)
  refine ⟨wellFormed_sample, hpath, hnetwork, ?_, ?_⟩
  · rw [hsent]
    rfl
  · exact ((hends _ rfl).2 rfl).2.mpr rfl

/-- An error response whose body does not arrive in time. -/
def Opening.brokenResponse : Opening :=
  .failed (.errorResponse 503 "Service Unavailable" [] [] (some (.timeout "timed out")))

/-- A timeout comes through if it is met in the body of an error response: the post does not end
in one of the three ways. -/
theorem postUrl_brokenResponse : Url.WellFormed "http://mirror/base/x" ∧
    Opening.brokenResponse.OfNetwork ∧
    (Endpoint.sample.postUrl (fun _ => .brokenResponse) "http://mirror/base/x" []
      "application/json").outcome = .error (.timeout "timed out") := by
  refine ⟨wellFormed_sample, ?_, ?_⟩
  · rintro fault ⟨⟩
    exact .brokenResponse .timeout
  · obtain ⟨address, haddress, -⟩ := wellFormed_sample.exists_forRequest_eq
    rw [(Endpoint.postUrl_eq haddress [] "application/json").2]
    exact settle_of_bodyFault rfl

end SealedRpc.Http
