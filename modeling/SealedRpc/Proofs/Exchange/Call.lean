import SealedRpc.Exchange.Client
import SealedRpc.Proofs.Codec.SelfTest

/-!
# Calls that come to an answer

What the checks of a client ask of its keys, and what a call is made of when nothing goes
wrong: the keys pass, the request is encoded, one post is made, and its response is decoded.

## Main results

* `Deployment.validate_eq_ok_iff`: the deployments that pass the checks.
* `Client.callVia_of_ok`: a call whose steps succeed makes one post and returns the plaintext.
-/

namespace SealedRpc

/-! ### Checks -/

namespace Deployment

/-- A deployment whose keys can do what is asked of them. -/
structure Ready (d : Deployment) : Prop where
  request : ∃ key, d.requestKey = some key ∧ Codec.Usable key d.scheme d.expectedKeySize ∧
    (d.framing = .signedEnvelope → key.hasPrivate = true)
  response : ∃ key, d.responseKey = some key ∧ Codec.Usable key d.scheme d.expectedKeySize ∧
    (d.decoding = .privateDecrypt → key.hasPrivate = true)

/-- A deployment that is not refused is left as it is. -/
theorem eq_of_create {d created : Deployment} (h : d.create = .ok created) : created = d := by
  unfold create at h
  split at h
  · cases h
  · exact (Except.ok.inj h).symm

/-- A key that must be there is there. -/
theorem need_eq_ok_iff {key? : Option Key} {key : Key} : need key? = .ok key ↔ key? = some key := by
  cases key? <;> simp [need]

/-- Exactly these deployments pass the checks, whatever the random choices of the
self-tests. -/
theorem validate_eq_ok_iff {d : Deployment} {coins : Coins} :
    d.validate coins = .ok () ↔ d.Ready := by
  have htest : ∀ k : Key, (Codec.selfTest coins k d.scheme d.expectedKeySize).mapError
      CallError.codec = .ok () ↔ Codec.Usable k d.scheme d.expectedKeySize :=
    fun k => Except.mapError_eq_ok_iff.trans Codec.selfTest_eq_ok_iff
  rw [validate]
  constructor
  · intro h
    obtain ⟨requestKey, hrequest, h⟩ := Except.bind_eq_ok_iff.mp h
    obtain ⟨⟨⟩, hrequestTest, h⟩ := Except.bind_eq_ok_iff.mp h
    obtain ⟨responseKey, hresponse, h⟩ := Except.bind_eq_ok_iff.mp h
    obtain ⟨⟨⟩, hresponseTest, h⟩ := Except.bind_eq_ok_iff.mp h
    obtain ⟨hsigning, h⟩ := Except.ite_error_bind_eq_ok_iff.mp h
    have hdecrypting := Except.ite_error_eq_ok_iff.mp h
    refine ⟨⟨requestKey, need_eq_ok_iff.mp hrequest, (htest _).mp hrequestTest, ?_⟩,
      ⟨responseKey, need_eq_ok_iff.mp hresponse, (htest _).mp hresponseTest, ?_⟩⟩
    · intro hframing
      simpa [hframing] using hsigning
    · intro hdecoding
      simpa [hdecoding] using hdecrypting
  · rintro ⟨⟨requestKey, hrequest, hrequestTest, hsigning⟩,
      ⟨responseKey, hresponse, hresponseTest, hdecrypting⟩⟩
    refine Except.bind_eq_ok_iff.mpr ⟨_, need_eq_ok_iff.mpr hrequest, ?_⟩
    refine Except.bind_eq_ok_iff.mpr ⟨(), (htest _).mpr hrequestTest, ?_⟩
    refine Except.bind_eq_ok_iff.mpr ⟨_, need_eq_ok_iff.mpr hresponse, ?_⟩
    refine Except.bind_eq_ok_iff.mpr ⟨(), (htest _).mpr hresponseTest, ?_⟩
    refine Except.ite_error_bind_eq_ok_iff.mpr ⟨?_, Except.ite_error_eq_ok_iff.mpr ?_⟩
    · rintro ⟨hframing, hno⟩
      simp [hsigning hframing] at hno
    · rintro ⟨hdecoding, hno⟩
      simp [hdecrypting hdecoding] at hno

end Deployment

/-! ### Cycles -/

namespace Client

variable {c : Client} {coins : Coins} {request : Value} {encoded : EncodedRequest}

/-- The cycle of a request that waits for its response. -/
def waiting : Cycle CallError :=
  ⟨.awaitingResponse, [.idle, .encoding, .sent, .awaitingResponse], none⟩

/-- The cycle of a request whose response was decoded. -/
def done : Cycle CallError :=
  ⟨.decoded, [.idle, .encoding, .sent, .awaitingResponse, .decoded], none⟩

/-- What a call goes through before its request leaves, if its keys pass and the request is
encoded. -/
theorem prepare_of_ok [Json.NestingLimit]
    (hvalid : c.validated = true ∨ c.deployment.validate coins = .ok ())
    (hencode : c.deployment.encode coins request = .ok encoded) :
    c.prepare coins request = (true, waiting, .ok encoded) := by
  have hcheck : (if c.validated then .ok () else c.deployment.validate coins) = .ok () := by
    split
    · rfl
    · exact hvalid.resolve_left ‹_›
  rw [prepare, hcheck, hencode]
  rfl

/-- What a waiting call comes to if its response is decoded. -/
theorem conclude_of_ok {d : Deployment} {response : Http.Response} {plaintext : Bytes}
    (h : d.decode coins response.status response.body = .ok plaintext) :
    conclude d coins waiting (.ok response) = (done, .ok plaintext) := by
  rw [conclude]
  simp only [h]
  rfl

/-- A call whose steps succeed makes one post and returns the plaintext of its response. -/
theorem callVia_of_ok [Json.NestingLimit] {via : Via} {post : EncodedRequest → Http.Delivery}
    {response : Http.Response} {plaintext : Bytes}
    (hvalid : c.validated = true ∨ c.deployment.validate coins = .ok ())
    (hencode : c.deployment.encode coins request = .ok encoded)
    (hpost : (post encoded).outcome = .ok response)
    (hdecode : c.deployment.decode coins response.status response.body = .ok plaintext) :
    (c.callVia coins via post request).result = .ok plaintext ∧
      (c.callVia coins via post request).posts = [(via, encoded)] ∧
      (c.callVia coins via post request).client.lastCycle? = some done := by
  have hbegin : c.begin coins request
      = ({ c with validated := true, cycles := c.cycles ++ [waiting] },
        .ok ⟨c.cycles.length, encoded⟩) := by
    rw [begin, prepare_of_ok hvalid hencode]
  have hcycle : (c.cycles ++ [waiting])[c.cycles.length]? = some waiting := by
    rw [List.getElem?_append_right (Nat.le_refl _), Nat.sub_self]
    rfl
  rw [callVia, hbegin]
  simp only [finish, hpost, hcycle, Option.getD_some, conclude_of_ok hdecode, true_and, lastCycle?]
  rw [List.set_append_right _ _ (Nat.le_refl _), Nat.sub_self]
  exact List.getLast?_concat

end Client

end SealedRpc
