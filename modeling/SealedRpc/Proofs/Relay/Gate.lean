import SealedRpc.Proofs.Except
import SealedRpc.Relay.Service

/-!
# The gate of the relay

Two routes lead to the handler. On each of them a text is vouched for, by the key of the
relay that decrypts it or by a signature of the client, and it is this text, and no other,
that is read as an object, checked against the allowed methods and handed to the handler.
What the handler returns leaves the relay encrypted only.

All of this is one statement about what came of serving a request, `Gated`. A request that
ended early satisfies it, serving a text that is vouched for satisfies it, and every route is
made of these two.

## Main results

* `authorise_eq_ok_iff`: which texts are authorised, and as which objects.
* `reply_eq_answered_iff`: which values are answered, and with which messages.
* `gated_dispatch`: whatever the path, the method and the body are, the gate holds.
* `answer_gated`: the same for the answer that goes over the wire.
-/

namespace SealedRpc.Relay.Service

variable {s : Service} {coins : Coins} {network : Http.Network}

/-! ### What the gate asks for -/

/-- A text that some body stands for on a route: the body is decrypted to it with the key of
the relay, or the body is an envelope with the text and a signature of the client on it. -/
inductive Vouched (s : Service) (coins : Coins) : Framing → Bytes → Text → Prop
  | decrypted {body plaintext : Bytes} {text : Text} :
      Codec.decrypt coins .single body s.key s.settings.scheme = .ok plaintext →
      Utf8.decode? plaintext = some text → Vouched s coins .encryptedBody body text
  | signed {body octets : Bytes} {envelope : Envelope} {key : Key} :
      s.clientKey? = some key → Posted.read body = .ok envelope →
      Utf8.encode? envelope.text = some octets →
      Signature.verify octets envelope.signature key = true →
      Vouched s coins .signedEnvelope body envelope.text

variable [Json.NestingLimit]

/-- A text that is read as an object whose method, if methods are restricted, is allowed. -/
def Authorises (s : Service) (text : Text) (request : Value) : Prop :=
  ∃ fields, Json.parse text = .ok (.object fields) ∧ request = .ofJson (.object fields) ∧
    (s.settings.allowedMethods ≠ [] →
      ∃ m ∈ s.settings.allowedMethods, Json.field? methodField (.object fields) = some (.text m))

/-- A message that a value of the handler leaves the relay as: its compact JSON in UTF-8,
encrypted for the client or so that it can be recovered with the key of the relay. -/
def Answers (s : Service) (coins : Coins) (value : Value) (message : Bytes) : Prop :=
  ∃ text octets, value.compactText = .ok text ∧ Utf8.encode? text = some octets ∧
    match s.settings.decoding with
    | .publicRecover => Codec.privateEncrypt coins octets s.key s.settings.scheme = .ok message
    | .privateDecrypt => ∃ key, s.clientKey? = some key ∧
        Codec.encrypt coins .single octets key s.settings.scheme = .ok message

/-- What came of serving a request whose text is known to satisfy `source`. -/
structure Gated (s : Service) (coins : Coins) (network : Http.Network) (source : Text → Prop)
    (served : Served) : Prop where
  once : served.handled.length ≤ 1
  authorised : ∀ request ∈ served.handled, ∃ text, source text ∧ s.Authorises text request
  answered : served.ending.status = 200 → ∃ request value message,
    served.handled = [request] ∧ (s.handler network request).result = .ok value ∧
      s.Answers coins value message ∧ served.ending = .answered message

/-! ### Authorisation -/

omit [Json.NestingLimit] in
/-- A method passes if none are listed or if it is a text that is. -/
theorem checkMethod_eq_ok_iff {request : Json} : s.checkMethod request = .ok () ↔
    (s.settings.allowedMethods ≠ [] →
      ∃ m ∈ s.settings.allowedMethods, request.field? methodField = some (.text m)) := by
  rw [checkMethod]
  split
  · rename_i hempty
    simp [List.isEmpty_iff.mp hempty]
  · rename_i hempty
    have hne : s.settings.allowedMethods ≠ [] := fun e => hempty (List.isEmpty_iff.mpr e)
    cases hfield : request.field? methodField with
    | none => simp [hne]
    | some found =>
        cases found with
        | text m => by_cases hm : m ∈ s.settings.allowedMethods <;> simp [hne, hm]
        | _ => simp [hne]

/-- Exactly the texts of objects whose method passes are authorised. -/
theorem authorise_eq_ok_iff {text : Text} {json : Json} : s.authorise text = .ok json ↔
    Json.parse text = .ok json ∧ (∃ fields, json = .object fields) ∧
      s.checkMethod json = .ok () := by
  rw [authorise]
  cases hparse : Json.parse text with
  | error fault => cases fault <;> simp
  | ok request =>
      cases request with
      | object fields =>
          simp only [Except.map_eq_ok_iff, Except.ok.injEq]
          constructor
          · rintro ⟨_, hcheck, rfl⟩
            exact ⟨rfl, ⟨fields, rfl⟩, hcheck⟩
          · rintro ⟨rfl, -, hcheck⟩
            exact ⟨(), hcheck, rfl⟩
      | _ =>
          simp only [reduceCtorEq, Except.ok.injEq, false_iff, not_and]
          rintro rfl ⟨fields, hfields⟩
          cases hfields

omit [Json.NestingLimit] in
/-- A refusal is no success. -/
theorem status_refused_ne (refusal : Refusal) : (Ending.refused refusal).status ≠ 200 := by
  have hmem := refusal.status_mem
  intro h
  rw [Ending.status] at h
  simp [h] at hmem

omit [Json.NestingLimit] in
/-- A method that does not pass ends the request without success. -/
theorem status_of_checkMethod {request : Json} {ending : Ending}
    (h : s.checkMethod request = .error ending) : ending.status ≠ 200 := by
  rw [checkMethod] at h
  repeat' split at h
  all_goals cases h
  all_goals first | exact status_refused_ne _ | simp [Ending.status]

/-- A text that is not authorised ends the request without success. -/
theorem status_of_authorise {text : Text} {ending : Ending}
    (h : s.authorise text = .error ending) : ending.status ≠ 200 := by
  rw [authorise] at h
  split at h
  · cases h
    simp [Ending.status]
  · cases h
    exact status_refused_ne _
  · split at h
    · rename_i fields _
      cases hcheck : s.checkMethod (.object fields) with
      | ok _ => simp [Except.map, hcheck] at h
      | error other =>
          rw [hcheck] at h
          cases h
          exact status_of_checkMethod hcheck
    · cases h
      exact status_refused_ne _

/-- What is authorised is what the gate asks for. -/
theorem authorises_of_authorise {text : Text} {json : Json} (h : s.authorise text = .ok json) :
    s.Authorises text (.ofJson json) := by
  obtain ⟨hparse, ⟨fields, rfl⟩, hcheck⟩ := authorise_eq_ok_iff.mp h
  exact ⟨fields, hparse, rfl, checkMethod_eq_ok_iff.mp hcheck⟩

/-! ### Replies -/

/-- The octets of a value are those of its compact text. -/
theorem payload_eq_ok_iff {value : Value} {octets : Bytes} : payload value = .ok octets ↔
    ∃ text, value.compactText = .ok text ∧ Utf8.encode? text = some octets := by
  simp only [payload, bind, Except.bind_eq_ok_iff, Except.mapError_eq_ok_iff]
  refine exists_congr fun text => and_congr_right fun _ => ?_
  cases Utf8.encode? text <;> simp [pure, Except.pure]

omit [Json.NestingLimit] in
/-- How a reply is encrypted. -/
theorem encryptReply_eq_ok_iff {octets message : Bytes} :
    s.encryptReply coins octets = .ok message ↔
      match s.settings.decoding with
      | .publicRecover => Codec.privateEncrypt coins octets s.key s.settings.scheme = .ok message
      | .privateDecrypt => ∃ key, s.clientKey? = some key ∧
          Codec.encrypt coins .single octets key s.settings.scheme = .ok message := by
  rw [encryptReply]
  cases s.settings.decoding with
  | publicRecover => exact Except.mapError_eq_ok_iff
  | privateDecrypt =>
      cases s.clientKey? with
      | none => simp
      | some key => simp [Except.mapError_eq_ok_iff]

/-- A value is answered exactly with the message that it leaves the relay as. -/
theorem reply_eq_answered_iff {value : Value} {message : Bytes} :
    s.reply coins value = .answered message ↔ s.Answers coins value message := by
  have hreply : s.reply coins value = .answered message ↔
      (payload value).bind (s.encryptReply coins) = .ok message := by
    rw [reply]
    cases (payload value).bind (s.encryptReply coins) <;> simp
  rw [hreply, Except.bind_eq_ok_iff]
  simp only [payload_eq_ok_iff, encryptReply_eq_ok_iff, Answers]
  constructor
  · rintro ⟨octets, ⟨text, htext, hoctets⟩, hmessage⟩
    exact ⟨text, octets, htext, hoctets, hmessage⟩
  · rintro ⟨text, octets, htext, hoctets, hmessage⟩
    exact ⟨octets, ⟨text, htext, hoctets⟩, hmessage⟩

/-- A reply that is a success is an answer. -/
theorem answered_of_status_reply {value : Value} (h : (s.reply coins value).status = 200) :
    ∃ message, s.reply coins value = .answered message := by
  rw [reply] at h ⊢
  split at h
  · rename_i message hmessage
    exact ⟨message, rfl⟩
  · simp [Ending.status] at h

/-! ### Routes -/

/-- The gate holds for whatever the source of the text implies. -/
theorem Gated.mono {source source' : Text → Prop} {served : Served}
    (h : Gated s coins network source served) (himp : ∀ text, source text → source' text) :
    Gated s coins network source' served := by
  refine ⟨h.once, fun request hrequest => ?_, h.answered⟩
  obtain ⟨text, htext, hauth⟩ := h.authorised request hrequest
  exact ⟨text, himp text htext, hauth⟩

/-- A request that ended before the handler, and without success, passes the gate. -/
theorem gated_early {source : Text → Prop} {ending : Ending} {records : List Record}
    (h : ending.status ≠ 200) : Gated s coins network source ⟨ending, [], [], records⟩ :=
  ⟨Nat.zero_le _, by simp, fun hstatus => absurd hstatus h⟩

/-- Serving a text that is known to satisfy something passes the gate. -/
theorem gated_serveText {source : Text → Prop} {text : Text} (h : source text) :
    Gated s coins network source (s.serveText coins network text) := by
  rw [serveText]
  cases hauth : s.authorise text with
  | error ending => exact gated_early (status_of_authorise hauth)
  | ok json =>
      have hsource : ∀ request ∈ [Value.ofJson json], ∃ t, source t ∧ s.Authorises t request := by
        intro request hrequest
        rw [List.mem_singleton.mp hrequest]
        exact ⟨text, h, authorises_of_authorise hauth⟩
      dsimp only
      split
      · rename_i value hvalue
        refine ⟨Nat.le_refl _, hsource, fun hstatus => ?_⟩
        obtain ⟨message, hmessage⟩ := answered_of_status_reply hstatus
        exact ⟨_, value, message, rfl, hvalue, reply_eq_answered_iff.mp hmessage, hmessage⟩
      · exact ⟨Nat.le_refl _, hsource, fun hstatus => absurd hstatus (status_refused_ne _)⟩
      · exact ⟨Nat.le_refl _, hsource, by simp [Ending.status]⟩

/-- A body that is encrypted as a whole passes the gate with the text in it. -/
theorem gated_serveEncrypted (body : Bytes) : Gated s coins network
    (Vouched s coins .encryptedBody body) (s.serveEncrypted coins network body) := by
  rw [serveEncrypted]
  cases hplain : Codec.decrypt coins .single body s.key s.settings.scheme with
  | ok plaintext =>
      dsimp only
      cases htext : Utf8.decode? plaintext with
      | none => exact gated_early (status_refused_ne _)
      | some text => exact gated_serveText (Vouched.decrypted hplain htext)
  | error cause =>
      cases cause
      case malformedCiphertext => exact gated_early (status_refused_ne _)
      case decryption => exact gated_early (status_refused_ne _)
      all_goals exact gated_early (by simp [Ending.status])

/-- An envelope passes the gate with its text. -/
theorem gated_serveEnvelope {body : Bytes} {envelope : Envelope}
    (h : Posted.read body = .ok envelope) : Gated s coins network
      (Vouched s coins .signedEnvelope body) (s.serveEnvelope coins network envelope) := by
  rw [serveEnvelope]
  cases hkey : s.clientKey? with
  | none => exact gated_early (status_refused_ne _)
  | some key =>
      cases hoctets : Utf8.encode? envelope.text with
      | none =>
          simp only [verifies, hoctets]
          exact gated_early (by simp [Ending.status])
      | some octets =>
          cases hverify : Signature.verify octets envelope.signature key with
          | false =>
              simp only [verifies, hoctets, hverify]
              exact gated_early (status_refused_ne _)
          | true =>
              simp only [verifies, hoctets, hverify]
              exact gated_serveText (.signed hkey h hoctets hverify)

/-- What is posted to the path of signed requests passes the gate. -/
theorem gated_serveSigned (body : Bytes) : Gated s coins network
    (Vouched s coins .signedEnvelope body) (s.serveSigned coins network body) := by
  rw [serveSigned]
  cases hread : Posted.read body with
  | ok envelope => exact gated_serveEnvelope hread
  | error fault =>
      refine gated_early ?_
      rw [invalidEnding.eq_def]
      split
      · simp [Ending.status]
      · split <;> simp [Ending.status]

/-- A body within the limit, in one of the framings, passes the gate. -/
theorem gated_serve (framing : Framing) (body : Bytes) : Gated s coins network
    (fun text => body.length ≤ s.settings.bodyLimit ∧ Vouched s coins framing body text)
      (s.serve coins network framing body) := by
  rw [serve.eq_def]
  split
  · exact gated_early (status_refused_ne _)
  · rename_i hlimit
    have hle : (body.length : Int) ≤ s.settings.bodyLimit := Int.not_lt.mp hlimit
    cases framing with
    | encryptedBody => exact (gated_serveEncrypted body).mono fun text h => ⟨hle, h⟩
    | signedEnvelope => exact (gated_serveSigned body).mono fun text h => ⟨hle, h⟩

/-- What a call asks for that reaches the handler with a text: it posts a body within the limit
to the path of a framing, and the text is vouched for there. -/
def Reaches (s : Service) (coins : Coins) (call : Call) (text : Text) : Prop :=
  ∃ framing, Route.ofPath? call.path = some (.post framing) ∧
    call.method = Text.ofString "POST" ∧ call.body.length ≤ s.settings.bodyLimit ∧
      Vouched s coins framing call.body text

/-- A post to the path of a framing is served in that framing. -/
theorem dispatch_post {call : Call} {framing : Framing}
    (hpath : Route.ofPath? call.path = some (.post framing))
    (hmethod : call.method = Text.ofString "POST") :
    s.dispatch coins network call = s.serve coins network framing call.body := by
  rw [dispatch, hpath]
  exact if_neg (Decidable.not_not.mpr hmethod)

/-- A post in a framing with a body within the limit. -/
structure Posts (s : Service) (framing : Framing) (call : Call) : Prop where
  path : Route.ofPath? call.path = some (.post framing)
  method : call.method = Text.ofString "POST"
  within : (call.body.length : Int) ≤ s.settings.bodyLimit

/-- What such a post comes to is what serving its body comes to. -/
theorem Posts.dispatch_eq {call : Call} {framing : Framing} (h : s.Posts framing call) :
    s.dispatch coins network call = match framing with
      | .encryptedBody => s.serveEncrypted coins network call.body
      | .signedEnvelope => s.serveSigned coins network call.body := by
  rw [dispatch_post h.path h.method, serve.eq_def, if_neg (Int.not_lt.mpr h.within)]
  cases framing <;> rfl

/-- A text that is vouched for in such a post is served. -/
theorem Posts.dispatch_of_vouched {call : Call} {framing : Framing} {text : Text}
    (h : s.Posts framing call) (hvouched : Vouched s coins framing call.body text) :
    s.dispatch coins network call = s.serveText coins network text := by
  rw [h.dispatch_eq]
  cases hvouched with
  | decrypted hplaintext htext => simp only [serveEncrypted, hplaintext, htext]
  | signed hkey hread hoctets hverify =>
      simp only [serveSigned, hread, serveEnvelope, hkey, verifies, hoctets, hverify]

/-- On the paths of requests, whatever the method and the body are, the gate holds. -/
theorem gated_dispatch {call : Call} {framing : Framing}
    (hroute : Route.ofPath? call.path = some (.post framing)) :
    Gated s coins network (Reaches s coins call) (s.dispatch coins network call) := by
  rw [dispatch, hroute]
  dsimp only
  split
  · exact gated_early (status_refused_ne _)
  · rename_i hmethod
    have hpost : call.method = Text.ofString "POST" := Decidable.not_not.mp hmethod
    exact (gated_serve framing call.body).mono fun text h => ⟨framing, hroute, hpost, h⟩

/-- On all other paths the handler is not called. -/
theorem handled_dispatch_of_other {call : Call}
    (h : ∀ framing, Route.ofPath? call.path ≠ some (.post framing)) :
    (s.dispatch coins network call).handled = [] := by
  rw [dispatch]
  cases hroute : Route.ofPath? call.path with
  | none =>
      dsimp only
      split <;> rfl
  | some route =>
      cases route with
      | health =>
          dsimp only
          split <;> rfl
      | post framing => exact absurd hroute (h framing)

/-! ### Answers -/

omit [Json.NestingLimit] in
/-- A response has the status of the ending, unless none could be written. -/
theorem status_respond_of_ok {id : RequestId} {ending : Ending}
    (h : (s.respond id ending).status = 200) : ending.status = 200 := by
  cases ending with
  | refused refusal =>
      simp only [respond, jsonResponse, failure] at h
      split at h <;> simp_all [Ending.status]
  | _ => simp_all [respond, failure, Ending.status]

/-- **The gate of the relay.** Whatever is asked of a relay, its handler is called at most
once. If it is called, then with the object of a text that passed authorisation and that came
in a body within the limit: decrypted with the key of the relay, or signed by the client whose
key the relay has. On the paths of requests, every success comes from such a call, and what
goes out is the encryption of the compact JSON of what the handler returned. -/
theorem answer_gated (s : Service) (coins : Coins) (network : Http.Network) (call : Call) :
    (s.answer coins network call).served.handled.length ≤ 1 ∧
    (∀ request ∈ (s.answer coins network call).served.handled,
      ∃ text, Reaches s coins call text ∧ s.Authorises text request) ∧
    ∀ framing, Route.ofPath? call.path = some (.post framing) →
      (s.answer coins network call).response.status = 200 →
        ∃ text request value message,
          (s.answer coins network call).served.handled = [request] ∧
          Reaches s coins call text ∧ s.Authorises text request ∧
          (s.handler network request).result = .ok value ∧ s.Answers coins value message ∧
          (s.answer coins network call).response.content = .octets message := by
  have hserved : (s.answer coins network call).served = s.dispatch coins network call := rfl
  have hresponse : (s.answer coins network call).response
      = s.respond (requestId call.headers) (s.dispatch coins network call).ending := rfl
  rw [hserved, hresponse]
  by_cases hroute : ∃ framing, Route.ofPath? call.path = some (.post framing)
  · obtain ⟨framing, hroute⟩ := hroute
    have hgate := @gated_dispatch s coins network _ call framing hroute
    refine ⟨hgate.once, hgate.authorised, fun _ _ hstatus => ?_⟩
    obtain ⟨request, value, message, hhandled, hvalue, hanswers, hending⟩ :=
      hgate.answered (status_respond_of_ok hstatus)
    obtain ⟨text, hreaches, hauth⟩ := hgate.authorised request (by simp [hhandled])
    refine ⟨text, request, value, message, hhandled, hreaches, hauth, hvalue, hanswers, ?_⟩
    rw [hending]
    rfl
  · have hnone : (s.dispatch coins network call).handled = [] :=
      handled_dispatch_of_other fun framing h => hroute ⟨framing, h⟩
    rw [hnone]
    refine ⟨Nat.zero_le _, by simp, fun framing h => absurd ⟨framing, h⟩ hroute⟩

end SealedRpc.Relay.Service
