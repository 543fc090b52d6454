import SealedRpc.Proofs.Codec.Failure
import SealedRpc.Proofs.Envelope
import SealedRpc.Proofs.Exchange.Outcome

/-!
# Calls stage by stage

The first call of a client is a chain of four stages: the keys are checked, the request is
encoded, the transport brings a response, and the response is decoded. The first stage that
fails stops the call with its failure, and a call that stops at one of the first two sends
nothing. The cycle that a call keeps along the way makes no difference to this.

Most of what stops a call has a name in the library. For a client with both keys that calls with
a text there are three exceptions, each at a stage of its own: an expected key size that is too
long to be shown, a text that has no octets, and a fault of the transport that it does not report
as one of its own.

## Main results

* `Client.callVia_ofDeployment`: the first call of a client goes through its stages.
* `Deployment.unnamed_iff_of_stages`: the stops without a name are these three.
-/

namespace SealedRpc

/-- The stage at which a call stops, with what stops it there. -/
inductive Stop where
  | checks (error : CallError)
  | encoding (error : CallError)
  | exchange (fault : Http.Fault)
  | decoding (error : CallError)

namespace Stop

/-- What the call raises. -/
def error : Stop → CallError
  | .checks e | .encoding e | .decoding e => e
  | .exchange fault => .fault fault

/-- Whether the call stops before its request leaves. -/
def isUnsent : Stop → Bool
  | .checks _ | .encoding _ => true
  | .exchange _ | .decoding _ => false

end Stop

/-- The stages of a call. -/
def Deployment.stages [Json.NestingLimit] (d : Deployment) (coins : Coins)
    (post : EncodedRequest → Http.Delivery) (request : Value) : Except Stop Bytes := do
  (d.validate coins).mapError .checks
  let encoded ← (d.encode coins request).mapError .encoding
  let response ← (post encoded).outcome.mapError .exchange
  (d.decode coins response.status response.body).mapError .decoding

variable {d : Deployment} {coins : Coins} {post : EncodedRequest → Http.Delivery}
  {request : Value} {via : Via}

/-! ### The first call of a client -/

namespace Client

/-- A waiting call comes to what the transport and the response come to. -/
theorem snd_conclude (d : Deployment) (coins : Coins)
    (outcome : Except Http.Fault Http.Response) :
    (conclude d coins waiting outcome).2 = decoded d coins outcome := by
  cases hdecoded : decoded d coins outcome with
  | error e => rw [conclude_of_error hdecoded]
  | ok plaintext => rw [conclude_of_decoded hdecoded]

/-- What the transport and the response come to is what the last two stages come to. -/
theorem decoded_eq_mapError (d : Deployment) (coins : Coins)
    (outcome : Except Http.Fault Http.Response) :
    decoded d coins outcome = ((outcome.mapError .exchange).bind fun response =>
      (d.decode coins response.status response.body).mapError .decoding).mapError Stop.error := by
  cases outcome with
  | error fault => rfl
  | ok response =>
      change d.decode coins response.status response.body
        = ((d.decode coins response.status response.body).mapError .decoding).mapError Stop.error
      cases d.decode coins response.status response.body <;> rfl

/-- The first call of a client comes to what its stages come to, and it sends nothing if it stops
before its request leaves. -/
theorem callVia_ofDeployment [Json.NestingLimit] (d : Deployment) (coins : Coins) (via : Via)
    (post : EncodedRequest → Http.Delivery) (request : Value) :
    ((ofDeployment d).callVia coins via post request).result
        = (d.stages coins post request).mapError Stop.error ∧
      ∀ stop, d.stages coins post request = .error stop → stop.isUnsent = true →
        ((ofDeployment d).callVia coins via post request).sent = [] := by
  have hbegins := begins_begin (ofDeployment d) coins request
  rw [callVia]
  generalize (ofDeployment d).begin coins request = begun at hbegins
  cases hbegins with
  | @refused e hnot hcheck =>
      have hstages : d.stages coins post request = .error (.checks e) := by
        rw [Deployment.stages, show d.validate coins = .error e from hcheck]
        rfl
      rw [hstages]
      exact ⟨rfl, fun _ _ _ => rfl⟩
  | @unencoded e hadmits hencode =>
      have hstages : d.stages coins post request = .error (.encoding e) := by
        have hcheck : d.validate coins = .ok () := hadmits.resolve_left Bool.false_ne_true
        rw [Deployment.stages, hcheck, show d.encode coins request = .error e from hencode]
        rfl
      rw [hstages]
      exact ⟨rfl, fun _ _ _ => rfl⟩
  | @waits encoded hadmits hencode =>
      have hstages : d.stages coins post request
          = ((post encoded).outcome.mapError .exchange).bind fun response =>
              (d.decode coins response.status response.body).mapError .decoding := by
        have hcheck : d.validate coins = .ok () := hadmits.resolve_left Bool.false_ne_true
        rw [Deployment.stages, hcheck, show d.encode coins request = .ok encoded from hencode]
        rfl
      simp only [finish_waits]
      constructor
      · rw [snd_conclude, decoded_eq_mapError, hstages]
        rfl
      · -- Both of the stages that are left come after the request has left.
        have hsent : Except.FailsWith (fun stop => stop.isUnsent = false)
            (d.stages coins post request) := by
          rw [hstages]
          refine Except.FailsWith.bind (Except.FailsWith.mapError fun _ _ => rfl) fun _ _ => ?_
          exact Except.FailsWith.mapError fun _ _ => rfl
        intro stop hstop hunsent
        cases (hsent stop hstop).symm.trans hunsent

end Client

/-! ### Failures without a name -/

/-- A deployment that has both keys and a pool of workers. -/
structure Deployment.Complete (d : Deployment) : Prop where
  request : ∃ key, d.requestKey = some key
  response : ∃ key, d.responseKey = some key
  pooled : ∃ pool, d.workers = .pool pool

/-- The stops that have no name, for a call with a text. -/
inductive Stop.Unnamed (text : Text) : Stop → Prop
  | size (fault : SizeFault) : Unnamed text (.checks (.codec (.sizeNotShown fault)))
  | text (h : Utf8.encode? text = none) : Unnamed text (.encoding .unencodable)
  | fault {fault : Http.Fault} (h : (CallError.fault fault).isNamed = false) :
      Unnamed text (.exchange fault)

/-- Unnamed stops have no name. -/
theorem Stop.Unnamed.isNamed_eq_false {text : Text} {stop : Stop} (h : stop.Unnamed text) :
    stop.error.isNamed = false := by
  cases h with
  | size fault => rfl
  | text htext => rfl
  | fault hfault => exact hfault

/-- The codec has one failure without a name. -/
theorem CodecError.exists_sizeNotShown {e : CodecError} (h : e.isNamed = false) :
    ∃ fault, e = .sizeNotShown fault := by
  cases e <;> first | exact ⟨_, rfl⟩ | cases h

namespace Deployment

/-- Checking the keys fails in the codec, if both keys are there. -/
theorem failsWith_validate {P : CallError → Prop} (hd : d.Complete) (hcodec : ∀ e, P (.codec e)) :
    Except.FailsWith P (d.validate coins) := by
  obtain ⟨requestKey, hrequest⟩ := hd.request
  obtain ⟨responseKey, hresponse⟩ := hd.response
  have htest : ∀ x : Except CodecError Unit, Except.FailsWith P (x.mapError .codec) :=
    fun x => Except.FailsWith.mapError fun e _ => hcodec e
  unfold validate
  refine (failsWith_need fun h => nomatch hrequest.symm.trans h).bind fun _ _ => ?_
  refine (htest _).bind fun _ _ => ?_
  refine (failsWith_need fun h => nomatch hresponse.symm.trans h).bind fun _ _ => ?_
  refine (htest _).bind fun _ _ => ?_
  refine Except.FailsWith.ite_error_bind (hcodec _) ?_
  split
  · exact Except.failsWith_error (hcodec _)
  · exact Except.failsWith_ok _

/-- Encryption with a pool of workers fails with names only. -/
theorem isNamed_encrypt (hd : d.Complete) (data : Bytes) (key : Key) :
    Except.FailsWith (fun e => e.isNamed = true) (d.encrypt coins data key) := by
  obtain ⟨pool, hpool⟩ := hd.pooled
  rw [encrypt, hpool]
  exact Except.FailsWith.mapError (Codec.failsWith_encrypt pool (fun _ => rfl) fun _ => rfl)

/-- A text that has octets is sealed if it is signed. -/
theorem sealRequest_text [Json.NestingLimit] {text : Text} {octets : Bytes}
    (htext : Utf8.encode? text = some octets) (coins : Coins) (key : Key) :
    sealRequest coins (.text text) (some key)
      = ((Signature.sign (coins.factor 0) octets key).mapError fun fault =>
          .codec (.signing fault)).map fun signature => ⟨text, signature⟩ := by
  have hencoded : encodeText text = .ok octets := encodeText_eq_ok_iff.mpr htext
  simp only [sealRequest, Request.text_of_text, Except.mapError_ok, hencoded, need, bind,
    Except.bind]
  cases Signature.sign (coins.factor 0) octets key <;> rfl

/-- A text that has octets is encoded, or fails with a name. -/
theorem isNamed_encode [Json.NestingLimit] {text : Text} {octets : Bytes} (hd : d.Complete)
    (htext : Utf8.encode? text = some octets) :
    Except.FailsWith (fun e => e.isNamed = true) (d.encode coins (.text text)) := by
  obtain ⟨key, hkey⟩ := hd.request
  refine Except.FailsWith.bind ?_ fun _ _ => Except.failsWith_ok _
  unfold encodeBody
  split
  · change Except.FailsWith _ ((encodeText text).bind fun bytes =>
      (need d.requestKey).bind fun key => d.encrypt coins bytes key)
    rw [encodeText_eq_ok_iff.mpr htext, hkey]
    exact isNamed_encrypt hd octets key
  · rw [hkey, sealRequest_text htext]
    refine Except.FailsWith.bind ?_ fun envelope hsealed => ?_
    · refine Except.FailsWith.map ?_ _
      exact Except.FailsWith.mapError fun _ _ => rfl
    · -- The text in the envelope is the one that has octets, so the envelope has some as well.
      obtain ⟨signature, -, rfl⟩ := Except.map_eq_ok_iff.mp hsealed
      have hsome : (Envelope.toBytes? ⟨text, signature⟩).isSome = true := by
        rw [Envelope.isSome_toBytes?]
        exact (Utf8.encode?_eq_some_iff.mp htext).1
      split
      · exact Except.failsWith_ok _
      · rename_i hnone
        cases hnone ▸ hsome

/-- Decoding fails with names only. -/
theorem isNamed_decode (hd : d.Complete) (status : Int) (body : Bytes) :
    Except.FailsWith (fun e => e.isNamed = true) (d.decode coins status body) := by
  obtain ⟨key, hkey⟩ := hd.response
  obtain ⟨pool, hpool⟩ := hd.pooled
  refine failsWith_decode rfl (fun _ _ => rfl) (fun h => nomatch hkey.symm.trans h) ?_ ?_
  · exact fun key hscheme => Codec.failsWith_publicDecrypt hscheme rfl fun _ => rfl
  · intro key _ _
    rw [decrypt, hpool]
    exact Except.FailsWith.mapError
      (Codec.failsWith_decrypt pool rfl (fun _ => rfl) fun _ => rfl)

/-- **Failures without a name.** A client with both keys that calls with a text stops without a
name exactly for an expected key size that cannot be shown, for a text that has no octets, and for
a fault of the transport that it does not report as its own. -/
theorem unnamed_iff_of_stages [Json.NestingLimit] {text : Text} {stop : Stop} (hd : d.Complete)
    (hstages : d.stages coins post (.text text) = .error stop) :
    stop.error.isNamed = false ↔ stop.Unnamed text := by
  refine ⟨fun hname => ?_, Stop.Unnamed.isNamed_eq_false⟩
  suffices h : Except.FailsWith (fun stop => stop.error.isNamed = false → stop.Unnamed text)
      (d.stages coins post (.text text)) from h stop hstages hname
  refine Except.FailsWith.bind (Except.FailsWith.mapError ?_) fun _ _ => ?_
  · refine failsWith_validate hd fun e he => ?_
    obtain ⟨fault, rfl⟩ := CodecError.exists_sizeNotShown he
    exact .size fault
  refine Except.FailsWith.bind (Except.FailsWith.mapError ?_) fun encoded _ => ?_
  · cases htext : Utf8.encode? text with
    | none =>
        rw [encode_of_unencodable (Request.text_of_text text) htext]
        exact Except.failsWith_error fun _ => .text htext
    | some octets =>
        intro e he hnot
        cases (isNamed_encode hd htext e he).symm.trans hnot
  refine Except.FailsWith.bind (Except.FailsWith.mapError ?_) fun response _ => ?_
  · exact fun fault _ hfault => .fault hfault
  · refine Except.FailsWith.mapError fun e he hnot => ?_
    cases (isNamed_decode hd response.status response.body e he).symm.trans hnot

end Deployment

end SealedRpc
