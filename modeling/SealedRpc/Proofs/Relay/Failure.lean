import SealedRpc.Proofs.Codec.Failure
import SealedRpc.Proofs.Exchange.EndToEnd
import SealedRpc.Proofs.Json.Writing

/-!
# Which requests the relay does not answer itself

Whatever is posted to the relay, most of it ends with a status that the relay has chosen. Some
does not: it meets something that no layer expects, and the server under the relay answers in its
place. Here all of it is listed, for a relay with a valid key whose handler keeps to JSON values
and to failures that a handler may report.

The list follows the way of a request. A body of the signed framing may be no text at all, or
what is wrong with it may be found at a number that no report can show. A text that is vouched
for may nest too deeply to be read, or have a container for its method while methods are
restricted; the handler may report its failure in words that have no UTF-8 form, or return a
value that has no octets. `CrashesIff` says of the way a request ended that it crashed exactly if
something on the list is the case, and each stage of serving is a lemma about it.

## Main results

* `Handler.plain_echo`: the handler for tests keeps to JSON values.
* `crashesIff_serve`: which bodies crash the relay, in either framing.
* `status_answer`: which posts are answered with 500, and with what the others are answered.
-/

namespace SealedRpc

/-- Whether a value is an array or an object. -/
def Json.isContainer : Json → Bool
  | .array _ | .object _ => true
  | _ => false

/-- A field that is looked up in a JSON value after it was taken for a value. -/
theorem Value.entry?_ofJson (name : Text) (j : Json) :
    entry? name (ofJson j) = (j.field? name).map ofJson := by
  cases j with
  | object fields =>
      rw [ofJson, entry?, Json.field?]
      induction fields with
      | nil => rfl
      | cons field rest ih =>
          obtain ⟨other, value⟩ := field
          rw [ofFields, List.find?_cons, List.lookup_cons]
          by_cases hname : name = other
          · subst hname
            simp [FieldName.same]
          · have hother : (FieldName.text other).same (.text name) = false := by
              simpa [FieldName.same] using Ne.symm hname
            rw [hother, beq_false_of_ne hname]
            exact ih
  | _ => rfl

namespace Relay

/-! ### Handlers that keep to JSON -/

/-- A handler that does no more than report a failure or return a JSON value, when it is called
with what a text can stand for. -/
def Handler.Plain (handler : Handler) : Prop :=
  ∀ network fields, (Json.object fields).fits = true →
    (∃ fault, (handler network (.ofJson (.object fields))).result = .error (.backend fault)) ∨
      ∃ reply : Json, reply.fits = true ∧
        (handler network (.ofJson (.object fields))).result = .ok (.ofJson reply)

/-- The handler for tests keeps to JSON values. -/
theorem Handler.plain_echo : Handler.Plain .echo := by
  intro network fields hfits
  have hid : (((Json.object fields).field? "id").getD .null).fits = true := by
    cases hfield : (Json.object fields).field? "id" with
    | none => rfl
    | some id => exact Json.every_of_field? hfits hfield
  refine .inr ⟨.object [("jsonrpc", .text "2.0"),
    ("id", ((Json.object fields).field? "id").getD .null),
    ("result", .object [("echo", .object fields)])], ?_, ?_⟩
  · rw [Json.fits] at hid hfits ⊢
    simp only [Json.every, Json.everyField, Bool.true_and, Bool.and_true] at hid hfits ⊢
    rw [hid, hfits, Bool.and_self]
  · have hentry : Value.entry? "id" (.ofJson (.object fields))
        = ((Json.object fields).field? "id").map .ofJson := Value.entry?_ofJson "id" _
    rw [Value.ofJson] at hentry ⊢
    simp only [Handler.echo, hentry, Value.ofJson, Value.ofFields]
    cases (Json.object fields).field? "id" <;> rfl

/-! ### Endings -/

/-- The words for a fault of a text have a UTF-8 form. -/
theorem encodable_faultMessage (fault : Json.Fault) : Utf8.encodable fault.message = true := by
  cases fault with
  | malformed issue line column offset =>
      simp only [Json.Fault.message, Utf8.encodable_append, Utf8.encodable_ofString,
        Utf8.encodable_ofNat, Bool.and_self]
  | intTooLong digits =>
      simp only [Json.Fault.message, Number.tooLongMessage, Utf8.encodable_append,
        Utf8.encodable_ofString, Utf8.encodable_ofNat, Bool.and_self]
  | tooDeep => exact Utf8.encodable_ofString _

/-- Whether a refusal is one of a post in the own words of the relay. -/
def Refusal.isOwn : Refusal → Bool
  | .methodNotAllowed | .backend _ => false
  | _ => true

/-- What the relay tells a caller in its own words has a UTF-8 form. -/
theorem Refusal.encodable_detail {refusal : Refusal} (h : refusal.isOwn = true) :
    Utf8.encodable refusal.detail = true := by
  cases refusal with
  | backend fault => cases h
  | malformedJson fault =>
      rw [detail, Utf8.encodable_append, encodable_faultMessage, Bool.and_true]
      exact Utf8.encodable_ofString _
  | notUtf8 | notObject =>
      rw [detail, Utf8.encodable_append, Utf8.encodable_ofString, Bool.true_and]
      exact Utf8.encodable_ofString _
  | _ => exact Utf8.encodable_ofString _

/-- Whether the relay has no answer of its own to a request that ended so. -/
def Ending.crashes : Ending → Bool
  | .refused refusal => !Utf8.encodable refusal.detail
  | .defect _ => true
  | _ => false

/-- The statuses that the relay gives to posts itself. -/
def postStatuses : List Nat := [200, 400, 403, 404, 413, 422, 502]

/-- What is known of how a post ended: it crashed exactly if `breaks` holds, and otherwise it has
one of the statuses that are given to posts. It never tells the state of the relay. -/
structure CrashesIff (breaks : Prop) (ending : Ending) : Prop where
  crashes_iff : ending.crashes = true ↔ breaks
  status_mem : ending.crashes = false → ending.status ∈ postStatuses
  ne_health : ending ≠ .health

/-- A defect is a crash. -/
theorem crashesIff_defect {breaks : Prop} (h : breaks) (cause : Defect) :
    CrashesIff breaks (.defect cause) :=
  ⟨iff_of_true rfl h, fun hcrashes => Bool.noConfusion hcrashes, by simp⟩

/-- A refusal of a post in the own words of the relay is no crash. -/
theorem crashesIff_refused {breaks : Prop} (h : ¬ breaks) {refusal : Refusal}
    (hown : refusal.isOwn = true) : CrashesIff breaks (.refused refusal) := by
  have hcrashes : (Ending.refused refusal).crashes = false := by
    rw [Ending.crashes, Refusal.encodable_detail hown]
    rfl
  refine ⟨iff_of_false (by simp [hcrashes]) h, fun _ => ?_, by simp⟩
  cases refusal with
  | methodNotAllowed => cases hown
  | _ => simp [Ending.status, Refusal.status, postStatuses]

/-- What a handler reports crashes the relay exactly if it has no UTF-8 form. -/
theorem crashesIff_backend (fault : BackendFault) :
    CrashesIff (Utf8.encodable fault.message = false) (.refused (.backend fault)) :=
  ⟨by rw [Ending.crashes, Bool.not_eq_true']; rfl,
    fun _ => by simp [Ending.status, Refusal.status, postStatuses], by simp⟩

/-- The same is known under an equivalent condition. -/
theorem CrashesIff.congr {breaks breaks' : Prop} {ending : Ending}
    (h : CrashesIff breaks ending) (hiff : breaks ↔ breaks') : CrashesIff breaks' ending :=
  ⟨h.crashes_iff.trans hiff, h.status_mem, h.ne_health⟩

namespace Service

variable {s : Service} {coins : Coins} {network : Http.Network} {text : Text}

/-! ### Texts -/

section

variable [Json.NestingLimit]

/-- What crashes the relay once it has the text of a request. -/
inductive TextBreaks (s : Service) (network : Http.Network) (text : Text) : Prop
  /-- The text nests too deeply. -/
  | nesting : Json.parse text = .error .tooDeep → TextBreaks s network text
  /-- The method of the request is an array or an object, and methods are restricted. -/
  | method {fields method} : Json.parse text = .ok (.object fields) →
      s.settings.allowedMethods ≠ [] →
      Json.field? methodField (.object fields) = some method → method.isContainer = true →
      TextBreaks s network text
  /-- The handler reports a failure in words that have no UTF-8 form. -/
  | report {request fault} : s.Authorises text request →
      (s.handler network request).result = .error (.backend fault) →
      Utf8.encodable fault.message = false → TextBreaks s network text
  /-- The handler returns a value that nests too deeply or holds a lone surrogate. -/
  | reply {request} {reply : Json} : s.Authorises text request →
      (s.handler network request).result = .ok (.ofJson reply) →
      ¬ (reply.nesting ≤ Json.nestingLimit ∧ reply.encodable = true) → TextBreaks s network text

/-- A JSON value has octets exactly if its integers have texts, it does not nest too deeply and
it holds no lone surrogates. -/
theorem exists_payload_ofJson_iff {j : Json} : (∃ octets, payload (.ofJson j) = .ok octets) ↔
    j.fits = true ∧ j.nesting ≤ Json.nestingLimit ∧ j.encodable = true := by
  simp only [payload_eq_ok_iff, Value.compactText_ofJson_eq_ok_iff, Utf8.encode?_eq_some_iff]
  constructor
  · rintro ⟨_, _, ⟨hfits, hnesting, rfl⟩, hencodable, -⟩
    exact ⟨hfits, hnesting, Json.encodable_render j ▸ hencodable⟩
  · rintro ⟨hfits, hnesting, hencodable⟩
    exact ⟨_, _, ⟨hfits, hnesting, rfl⟩, (Json.encodable_render j).trans hencodable, rfl⟩

/-- A reply crashes the relay exactly if it has no octets, as long as the relay encrypts
everything. -/
theorem crashesIff_reply
    (hencrypts : ∀ octets, ∃ message, s.encryptReply coins octets = .ok message) (value : Value) :
    CrashesIff (¬ ∃ octets, payload value = .ok octets) (s.reply coins value) := by
  rw [reply]
  cases hpayload : payload value with
  | error cause => exact crashesIff_defect (by simp) cause
  | ok octets =>
      obtain ⟨message, hmessage⟩ := hencrypts octets
      simp only [Except.bind, hmessage]
      exact ⟨iff_of_false (by simp [Ending.crashes]) (by simp), fun _ => List.mem_cons_self,
        by simp⟩

/-- A text that breaks is one that nests too deeply, or the text of an object. -/
theorem TextBreaks.parse (h : TextBreaks s network text) :
    Json.parse text = .error .tooDeep ∨ ∃ fields, Json.parse text = .ok (.object fields) := by
  cases h with
  | nesting hparse => exact .inl hparse
  | method hparse => exact .inr ⟨_, hparse⟩
  | report hauthorises =>
      obtain ⟨fields, hparse, -⟩ := hauthorises
      exact .inr ⟨fields, hparse⟩
  | reply hauthorises =>
      obtain ⟨fields, hparse, -⟩ := hauthorises
      exact .inr ⟨fields, hparse⟩

omit [Json.NestingLimit] in
/-- A method does not pass because it is a container, which is a defect, or because it is not
listed, which is a refusal. -/
theorem eq_of_checkMethod_error {request : Json} {ending : Ending}
    (h : s.checkMethod request = .error ending) : s.settings.allowedMethods ≠ [] ∧
      ((∃ method, request.field? methodField = some method ∧ method.isContainer = true ∧
          ending = .defect .containerMethod) ∨
        (∀ method, request.field? methodField = some method → method.isContainer = false) ∧
          ending = .refused .unsupportedMethod) := by
  rw [checkMethod] at h
  split at h
  · cases h
  · rename_i hlisted
    refine ⟨by simpa using hlisted, ?_⟩
    cases hfield : request.field? methodField with
    | none =>
        rw [hfield] at h
        exact .inr ⟨by simp, (Except.error.inj h).symm⟩
    | some found =>
        rw [hfield] at h
        cases found with
        | text m =>
            dsimp only at h
            split at h
            · cases h
            · exact .inr ⟨by simp [Json.isContainer], (Except.error.inj h).symm⟩
        | array items => exact .inl ⟨_, rfl, rfl, (Except.error.inj h).symm⟩
        | object entries => exact .inl ⟨_, rfl, rfl, (Except.error.inj h).symm⟩
        | _ => exact .inr ⟨by simp [Json.isContainer], (Except.error.inj h).symm⟩

/-- The text of an object whose method does not pass breaks exactly if the method is a
container. -/
theorem crashesIff_checkMethod {fields : List (Text × Json)} {ending : Ending}
    (hparse : Json.parse text = .ok (.object fields))
    (hcheck : s.checkMethod (.object fields) = .error ending) :
    CrashesIff (TextBreaks s network text) ending := by
  obtain ⟨hne, ⟨method, hmethod, hkind, rfl⟩ | ⟨hkinds, rfl⟩⟩ := eq_of_checkMethod_error hcheck
  · exact crashesIff_defect (.method hparse hne hmethod hkind) _
  · have hrefused {request : Value} (hauthorises : s.Authorises text request) : False := by
      obtain ⟨_, hparse', -, hmethod⟩ := hauthorises
      obtain rfl := Json.object.inj (Except.ok.inj (hparse.symm.trans hparse'))
      cases hcheck.symm.trans (checkMethod_eq_ok_iff.mpr hmethod)
    refine crashesIff_refused (fun h => ?_) rfl
    cases h with
    | nesting hparse' => cases hparse.symm.trans hparse'
    | method hparse' _ hmethod hkind =>
        obtain rfl := Json.object.inj (Except.ok.inj (hparse.symm.trans hparse'))
        cases (hkinds _ hmethod).symm.trans hkind
    | report hauthorises => exact hrefused hauthorises
    | reply hauthorises => exact hrefused hauthorises

/-- A text that is not authorised crashes the relay exactly if it breaks. -/
theorem crashesIff_authorise {ending : Ending} (h : s.authorise text = .error ending) :
    CrashesIff (TextBreaks s network text) ending := by
  have hunbroken (hdeep : Json.parse text ≠ .error .tooDeep)
      (hobject : ∀ fields, Json.parse text ≠ .ok (.object fields)) :
      ¬ TextBreaks s network text := fun hbreaks =>
    hbreaks.parse.elim hdeep fun ⟨fields, hparse⟩ => hobject fields hparse
  rw [authorise] at h
  cases hparse : Json.parse text with
  | error fault =>
      rw [hparse] at h hunbroken
      cases fault with
      | tooDeep =>
          cases h
          exact crashesIff_defect (.nesting hparse) _
      | _ =>
          cases h
          exact crashesIff_refused (hunbroken (by simp) (by simp)) rfl
  | ok request =>
      rw [hparse] at h hunbroken
      cases request with
      | object fields =>
          cases hcheck : s.checkMethod (.object fields) with
          | ok _ =>
              simp only [hcheck, Except.map] at h
              cases h
          | error other =>
              simp only [hcheck, Except.map] at h
              cases h
              exact crashesIff_checkMethod hparse hcheck
      | _ =>
          cases h
          exact crashesIff_refused (hunbroken (by simp) (by simp)) rfl

/-- Once the text of a request is authorised, all that breaks it is what the handler does. -/
theorem textBreaks_iff_of_authorise {fields : List (Text × Json)}
    (h : s.authorise text = .ok (.object fields)) : TextBreaks s network text ↔
      (∃ fault, (s.handler network (.ofJson (.object fields))).result = .error (.backend fault) ∧
        Utf8.encodable fault.message = false) ∨
      ∃ reply : Json, (s.handler network (.ofJson (.object fields))).result = .ok (.ofJson reply) ∧
        ¬ (reply.nesting ≤ Json.nestingLimit ∧ reply.encodable = true) := by
  obtain ⟨hparse, -, hcheck⟩ := authorise_eq_ok_iff.mp h
  have honly {request : Value} (hauthorises : s.Authorises text request) :
      request = .ofJson (.object fields) := by
    obtain ⟨_, hparse', rfl, -⟩ := hauthorises
    rw [Except.ok.inj (hparse.symm.trans hparse')]
  constructor
  · intro hbreaks
    cases hbreaks with
    | nesting hparse' => cases hparse.symm.trans hparse'
    | method hparse' hne hmethod hkind =>
        obtain rfl := Json.object.inj (Except.ok.inj (hparse.symm.trans hparse'))
        obtain ⟨m, -, hm⟩ := checkMethod_eq_ok_iff.mp hcheck hne
        obtain rfl := Option.some.inj (hmethod.symm.trans hm)
        cases hkind
    | report hauthorises hresult hreport =>
        obtain rfl := honly hauthorises
        exact .inl ⟨_, hresult, hreport⟩
    | reply hauthorises hresult hreply =>
        obtain rfl := honly hauthorises
        exact .inr ⟨_, hresult, hreply⟩
  · rintro (⟨fault, hresult, hreport⟩ | ⟨reply, hresult, hreply⟩)
    · exact .report (authorises_of_authorise h) hresult hreport
    · exact .reply (authorises_of_authorise h) hresult hreply

/-! ### Bodies -/

/-- What crashes the relay in a body of a framing: a body of the signed framing that is no text,
or with a fault at a number that is not finite, and in either framing a text that breaks. -/
inductive Breaks (s : Service) (coins : Coins) (network : Http.Network) : Framing → Bytes → Prop
  | undecodable {body} : Utf8.decode? body = none → Breaks s coins network .signedEnvelope body
  | unreportable {body issues} : Posted.read body = .error (.issues issues) →
      (∃ issue ∈ issues, issue.found.isFinite = false) →
      Breaks s coins network .signedEnvelope body
  | text {framing body text} : Vouched s coins framing body text → TextBreaks s network text →
      Breaks s coins network framing body

variable {body : Bytes}

omit [Json.NestingLimit] in
/-- A body is refused for being no text exactly if it is none. -/
theorem read_eq_notUtf8_iff : Posted.read body = .error .notUtf8 ↔ Utf8.decode? body = none := by
  rw [Posted.read]
  cases Utf8.decode? body with
  | none => simp
  | some t =>
      cases hparse : Json.parseIn Posted.dialect t with
      | error fault => simp [hparse]
      | ok j => cases hread : Posted.ofJson j <;> simp [hparse, hread]

/-- A body that is encrypted as a whole breaks exactly if the text in it does. -/
theorem breaks_encryptedBody_iff : Breaks s coins network .encryptedBody body ↔
    ∃ plaintext, Codec.decrypt coins .single body s.key s.settings.scheme = .ok plaintext ∧
      ∃ text, Utf8.decode? plaintext = some text ∧ TextBreaks s network text := by
  constructor
  · intro h
    cases h with
    | text hvouched hbreaks =>
        cases hvouched with
        | decrypted hplaintext htext => exact ⟨_, hplaintext, _, htext, hbreaks⟩
  · rintro ⟨plaintext, hplaintext, text, htext, hbreaks⟩
    exact .text (.decrypted hplaintext htext) hbreaks

/-- The body of an envelope breaks exactly if the text does and the signature is one of the
client. -/
theorem breaks_signedEnvelope_iff {envelope : Envelope} (hread : Posted.read body = .ok envelope) :
    Breaks s coins network .signedEnvelope body ↔ ∃ key, s.clientKey? = some key ∧
      ∃ octets, Utf8.encode? envelope.text = some octets ∧
        Signature.verify octets envelope.signature key = true ∧
        TextBreaks s network envelope.text := by
  constructor
  · intro h
    cases h with
    | undecodable hnone => cases hread.symm.trans (read_eq_notUtf8_iff.mpr hnone)
    | unreportable hissues => cases hread.symm.trans hissues
    | text hvouched hbreaks =>
        cases hvouched with
        | signed hkey hread' hoctets hverify =>
            obtain rfl := Except.ok.inj (hread.symm.trans hread')
            exact ⟨_, hkey, _, hoctets, hverify, hbreaks⟩
  · rintro ⟨key, hkey, octets, hoctets, hverify, hbreaks⟩
    exact .text (.signed hkey hread hoctets hverify) hbreaks

omit [Json.NestingLimit] in
/-- A request text with which nothing is wrong is a field of the object that it is read from. -/
theorem field?_of_readRequest {j : Json} (h : (Posted.readRequest j).1 = []) :
    j.field? Posted.requestField = some (.text (Posted.readRequest j).2) := by
  unfold Posted.readRequest at h ⊢
  split at h
  · assumption
  · cases h
  · cases h

omit [Json.NestingLimit] in
/-- The text of an envelope is a field of the object that it is read from. -/
theorem field?_of_ofJson {j : Json} {envelope : Envelope} (h : Posted.ofJson j = .ok envelope) :
    j.field? Posted.requestField = some (.text envelope.text) := by
  cases j with
  | object fields =>
      dsimp only [Posted.ofJson] at h
      split at h
      · rename_i hempty
        obtain ⟨hrequest, -⟩ := List.append_eq_nil_iff.mp (List.isEmpty_iff.mp hempty)
        obtain rfl := Except.ok.inj h
        exact field?_of_readRequest hrequest
      · cases h
  | _ => cases h

omit [Json.NestingLimit] in
/-- The text of an envelope that was read has octets. -/
theorem exists_encode?_of_read {envelope : Envelope} (h : Posted.read body = .ok envelope) :
    ∃ octets, Utf8.encode? envelope.text = some octets := by
  rw [Posted.read] at h
  split at h
  · cases h
  · split at h
    · cases h
    · rename_i j hparse
      have hj := Json.encodable_of_parseIn (show Posted.dialect.loneSurrogates = false from rfl)
        hparse
      have hfield := field?_of_ofJson (Except.mapError_eq_ok_iff.mp h)
      exact ⟨_, Utf8.encode?_eq_some_iff.mpr ⟨Json.every_of_field? hj hfield, rfl⟩⟩

section Serving

variable (hplain : Handler.Plain s.handler)
  (hencrypts : ∀ octets, ∃ message, s.encryptReply coins octets = .ok message)

include hplain hencrypts

/-- Serving a text crashes exactly if the text breaks. -/
theorem crashesIff_serveText (text : Text) :
    CrashesIff (TextBreaks s network text) (s.serveText coins network text).ending := by
  rw [serveText]
  cases hauthorised : s.authorise text with
  | error ending => exact crashesIff_authorise hauthorised
  | ok json =>
      obtain ⟨hparse, ⟨fields, rfl⟩, -⟩ := authorise_eq_ok_iff.mp hauthorised
      have hbreaks : TextBreaks s network text ↔ _ := textBreaks_iff_of_authorise hauthorised
      dsimp only
      obtain ⟨fault, hresult⟩ | ⟨reply, hfits, hresult⟩ :=
        hplain network fields (Json.fits_of_parseIn hparse)
      · simp only [hresult, Except.error.injEq, HandlerFault.backend.injEq, reduceCtorEq,
          exists_eq_left', false_and, exists_false, or_false] at hbreaks ⊢
        exact (crashesIff_backend fault).congr hbreaks.symm
      · simp only [hresult, reduceCtorEq, false_and, exists_false, false_or] at hbreaks ⊢
        refine (crashesIff_reply hencrypts _).congr ⟨fun hnone => hbreaks.mpr ?_, fun h => ?_⟩
        · exact ⟨reply, rfl, fun hwritable =>
            hnone (exists_payload_ofJson_iff.mpr ⟨hfits, hwritable⟩)⟩
        · obtain ⟨other, hother, hunwritable⟩ := hbreaks.mp h
          rw [Except.ok.inj hother, exists_payload_ofJson_iff]
          exact fun hwritable => hunwritable hwritable.2

/-- A body that is encrypted as a whole crashes a relay with private material exactly if it
breaks. -/
theorem crashesIff_serveEncrypted (hprivate : s.key.hasPrivate = true) (body : Bytes) :
    CrashesIff (Breaks s coins network .encryptedBody body)
      (s.serveEncrypted coins network body).ending := by
  have hbreaks : Breaks s coins network .encryptedBody body ↔ _ := breaks_encryptedBody_iff
  rw [serveEncrypted]
  cases hplaintext : Codec.decrypt coins .single body s.key s.settings.scheme with
  | ok plaintext =>
      simp only [hplaintext, Except.ok.injEq, exists_eq_left'] at hbreaks ⊢
      cases htext : Utf8.decode? plaintext with
      | none =>
          refine crashesIff_refused (fun h => ?_) rfl
          obtain ⟨text, hsome, -⟩ := hbreaks.mp h
          cases htext.symm.trans hsome
      | some text =>
          simp only [htext, Option.some.injEq, exists_eq_left'] at hbreaks ⊢
          exact (crashesIff_serveText hplain hencrypts text).congr hbreaks.symm
  | error cause =>
      simp only [hplaintext, reduceCtorEq, false_and, exists_false, iff_false] at hbreaks
      have hexpected : Except.FailsWith (fun cause =>
          (∃ size length, cause = .malformedCiphertext size length) ∨
            ∃ fault, cause = .decryption fault)
          (Codec.decrypt coins .single body s.key s.settings.scheme) :=
        Codec.failsWith_decrypt .single (.inl ⟨_, _, rfl⟩)
          (fun hpublic => absurd (hpublic.symm.trans hprivate) Bool.false_ne_true)
          (fun _ => .inr ⟨_, rfl⟩)
      obtain ⟨_, _, rfl⟩ | ⟨_, rfl⟩ := hexpected cause hplaintext
      · exact crashesIff_refused hbreaks rfl
      · exact crashesIff_refused hbreaks rfl

/-- An envelope crashes the relay exactly if its body breaks. -/
theorem crashesIff_serveEnvelope {envelope : Envelope} (hread : Posted.read body = .ok envelope) :
    CrashesIff (Breaks s coins network .signedEnvelope body)
      (s.serveEnvelope coins network envelope).ending := by
  have hbreaks : Breaks s coins network .signedEnvelope body ↔ _ := breaks_signedEnvelope_iff hread
  obtain ⟨octets, hoctets⟩ := exists_encode?_of_read hread
  rw [serveEnvelope]
  cases hkey : s.clientKey? with
  | none =>
      simp only [hkey, reduceCtorEq, false_and, exists_false, iff_false] at hbreaks
      exact crashesIff_refused hbreaks rfl
  | some key =>
      simp only [hkey, hoctets, Option.some.injEq, exists_eq_left'] at hbreaks
      simp only [verifies, hoctets]
      cases hverify : Signature.verify octets envelope.signature key with
      | false =>
          simp only [hverify, reduceCtorEq, false_and, iff_false] at hbreaks
          exact crashesIff_refused hbreaks rfl
      | true =>
          simp only [hverify, true_and] at hbreaks
          exact (crashesIff_serveText hplain hencrypts envelope.text).congr hbreaks.symm

/-- A body of the signed framing crashes the relay exactly if it breaks. -/
theorem crashesIff_serveSigned (body : Bytes) :
    CrashesIff (Breaks s coins network .signedEnvelope body)
      (s.serveSigned coins network body).ending := by
  rw [serveSigned]
  cases hread : Posted.read body with
  | ok envelope => exact crashesIff_serveEnvelope hplain hencrypts hread
  | error fault =>
      cases fault with
      | notUtf8 => exact crashesIff_defect (.undecodable (read_eq_notUtf8_iff.mp hread)) _
      | issues issues =>
          simp only [Served.early, invalidEnding]
          split
          · rename_i hfinite
            refine ⟨iff_of_false (by simp [Ending.crashes]) fun h => ?_,
              fun _ => by simp [Ending.status, postStatuses], by simp⟩
            cases h with
            | undecodable hnone => cases hread.symm.trans (read_eq_notUtf8_iff.mpr hnone)
            | unreportable hread' hissue =>
                obtain rfl := Posted.Fault.issues.inj (Except.error.inj (hread.symm.trans hread'))
                obtain ⟨issue, hmem, hinfinite⟩ := hissue
                cases hinfinite.symm.trans (List.all_eq_true.mp hfinite issue hmem)
            | text hvouched =>
                cases hvouched with
                | signed _ hread' => cases hread.symm.trans hread'
          · rename_i hinfinite
            refine crashesIff_defect (.unreportable hread ?_) _
            simpa using hinfinite

/-- A body crashes the relay exactly if it is within the limit and breaks. -/
theorem crashesIff_serve (hprivate : s.key.hasPrivate = true) (framing : Framing) (body : Bytes) :
    CrashesIff ((body.length : Int) ≤ s.settings.bodyLimit ∧ Breaks s coins network framing body)
      (s.serve coins network framing body).ending := by
  rw [serve.eq_def]
  split
  · rename_i hlarge
    exact crashesIff_refused (fun h => absurd h.1 (Int.not_le.mpr hlarge)) rfl
  · rename_i hlimit
    have hiff : Breaks s coins network framing body ↔ _ :=
      (and_iff_right (Int.not_lt.mp hlimit)).symm
    cases framing with
    | encryptedBody => exact (crashesIff_serveEncrypted hplain hencrypts hprivate body).congr hiff
    | signedEnvelope => exact (crashesIff_serveSigned hplain hencrypts body).congr hiff

end Serving

/-! ### Answers -/

omit [Json.NestingLimit] in
/-- The status of a response, unless it tells the state of the relay. -/
theorem status_respond {ending : Ending} (h : ending ≠ .health) (id : RequestId) :
    (s.respond id ending).status = if ending.crashes then 500 else ending.status := by
  cases ending with
  | health => exact absurd rfl h
  | refused refusal =>
      have hsome : (Utf8.encode? ((detailJson refusal).render .compact)).isSome
          = Utf8.encodable refusal.detail := by
        have hdetail : (detailJson refusal).encodable = Utf8.encodable refusal.detail := by
          simp only [detailJson, Json.encodable, Json.every, Json.everyField,
            Utf8.encodable_ofString, Bool.true_and, Bool.and_true]
        rw [Utf8.encode?, Json.encodable_render, hdetail]
        cases Utf8.encodable refusal.detail <;> rfl
      rw [respond, jsonResponse, hsome, Ending.crashes]
      cases Utf8.encodable refusal.detail <;> rfl
  | _ => rfl

/-- **Which posts crash the relay.** A relay that runs has a valid key and a handler that does no
more than report failures and return JSON values. Then a post in a framing is answered with 500
exactly if its body is within the limit and breaks, and all others are answered with one of the
statuses that the relay gives to posts itself. -/
theorem status_answer {key : PrivateKey} (hvalid : key.Valid) {startCoins : Coins}
    {env : Environment} {files : Files} {settings : ServiceSettings} {provision : Provision}
    (hstart : start startCoins env files settings provision = .ok s)
    (hkey : s.key = .ofPrivate key) (hcoins : coins.Blinds key.toPublic)
    (hplain : Handler.Plain s.handler) {call : Call} {framing : Framing}
    (hpath : Route.ofPath? call.path = some (.post framing))
    (hmethod : call.method = Text.ofString "POST") :
    ((s.answer coins network call).response.status = 500 ↔
      (call.body.length : Int) ≤ s.settings.bodyLimit ∧
        Breaks s coins network framing call.body) ∧
    ((s.answer coins network call).response.status ≠ 500 →
      (s.answer coins network call).response.status ∈ [200, 400, 403, 404, 413, 422, 502]) := by
  have hready := ready_of_start hstart
  have hserved : CrashesIff ((call.body.length : Int) ≤ s.settings.bodyLimit ∧
      Breaks s coins network framing call.body) (s.dispatch coins network call).ending := by
    rw [dispatch_post hpath hmethod]
    exact crashesIff_serve hplain
      (fun octets => hready.exists_encryptReply hvalid hkey hcoins octets) hready.hasPrivate _ _
  have hstatus : (s.answer coins network call).response.status
      = if (s.dispatch coins network call).ending.crashes then 500
        else (s.dispatch coins network call).ending.status :=
    status_respond hserved.ne_health _
  cases hcrashes : (s.dispatch coins network call).ending.crashes with
  | true =>
      rw [hcrashes, if_pos rfl] at hstatus
      exact ⟨iff_of_true hstatus (hserved.crashes_iff.mp hcrashes), fun hne => absurd hstatus hne⟩
  | false =>
      rw [hcrashes, if_neg Bool.false_ne_true] at hstatus
      have hmem := hserved.status_mem hcrashes
      rw [← hstatus] at hmem
      refine ⟨iff_of_false (fun h => ?_) fun h => ?_, fun _ => hmem⟩
      · rw [h] at hmem
        exact absurd hmem (by decide)
      · rw [hserved.crashes_iff.mpr h] at hcrashes
        cases hcrashes

end

/-! ### A relay of fourteen octets -/

/-- The settings of a small relay that serves one method only. -/
def restrictedSettings : ServiceSettings := { sampleSettings with allowedMethods := ["x"] }

/-- A small relay that serves one method and returns what it gets. -/
def restrictedRelay : Service :=
  ⟨restrictedSettings, .ofPrivate .sample, some (.ofPrivate .secondSample), .echo, 20⟩

/-- The keys of that relay pass its checks. -/
theorem start_restrictedRelay : start .constant [] (Files.ofDirectory []) restrictedSettings
    ⟨some (.ofPrivate .sample), some (.ofPrivate .secondSample), some .echo⟩
      = .ok restrictedRelay := by
  have hready : Ready restrictedSettings (.ofPrivate .sample)
      (some (.ofPrivate .secondSample)) := by
    refine ⟨rfl, fun _ => rfl, fun _ => rfl,
      ⟨by decide +kernel, by decide +kernel, by decide +kernel⟩, ?_⟩
    rintro key ⟨⟩
    exact ⟨by decide +kernel, by decide +kernel, by decide +kernel⟩
  exact start_of_ready hready (by decide +kernel) _ _ _

/-- An octet that is no text crashes that relay in the signed framing. Encrypted as a whole it is
only a message of the wrong length. -/
theorem status_answer_sample : PrivateKey.Valid .sample ∧
    start .constant [] (Files.ofDirectory []) restrictedSettings
        ⟨some (.ofPrivate .sample), some (.ofPrivate .secondSample), some .echo⟩
      = .ok restrictedRelay ∧
    (restrictedRelay.answer .constant sampleNetwork
      ⟨"POST", "/signed-request", [], [0xFF]⟩).response.status = 500 ∧
    (restrictedRelay.answer .constant sampleNetwork
      ⟨"POST", "/encrypted-request", [], [0xFF]⟩).response.status
        ∈ [200, 400, 403, 404, 413, 422, 502] := by
  have hblinds := Coins.blinds_constant PrivateKey.valid_sample.odd_modulus
  refine ⟨PrivateKey.valid_sample, start_restrictedRelay, ?_, ?_⟩
  · have hbroken : Utf8.decode? [0xFF] = none := by
      rw [Utf8.decode?, Utf8.units, Utf8.units.afresh]
      rfl
    exact (status_answer PrivateKey.valid_sample start_restrictedRelay rfl hblinds
      Handler.plain_echo (ofPath?_path .signedEnvelope) rfl).1.mpr ⟨by decide, .undecodable hbroken⟩
  · exact (status_answer PrivateKey.valid_sample start_restrictedRelay rfl hblinds
      Handler.plain_echo (ofPath?_path .encryptedBody) rfl).2 (by decide +kernel)

/-- The text of an object whose method is an empty array. -/
def containerText : Text := "\x7b\"method\":[]\x7d"

/-- A post with that text. -/
def containerPost : Call :=
  ⟨"POST", "/encrypted-request", [], Codec.message .constant PrivateKey.sample.toPublic .pkcs1v15
    (containerText.flatMap CodePoint.utf8)⟩

/-- A relay with valid keys that returns what it gets is crashed by a method that is an array. -/
theorem status_containerPost : PrivateKey.Valid .sample ∧
    start .constant [] (Files.ofDirectory []) restrictedSettings
        ⟨some (.ofPrivate .sample), some (.ofPrivate .secondSample), some .echo⟩
      = .ok restrictedRelay ∧
    (restrictedRelay.answer .constant sampleNetwork containerPost).response.status = 500 := by
  refine ⟨PrivateKey.valid_sample, start_restrictedRelay, ?_⟩
  have hsize : Scheme.pkcs1v15.overhead < PrivateKey.sample.toPublic.size := by decide +kernel
  have hopened : Codec.decrypt .constant .single containerPost.body (.ofPrivate .sample) .pkcs1v15
      = .ok (containerText.flatMap CodePoint.utf8) :=
    Codec.decrypt_message PrivateKey.valid_sample hsize
      (Coins.blinds_constant PrivateKey.valid_sample.odd_modulus) .single _
  have hlimit : ¬ restrictedRelay.settings.bodyLimit < containerPost.body.length := by
    rw [containerPost, Codec.length_message hsize]
    decide +kernel
  have hserved : restrictedRelay.dispatch .constant sampleNetwork containerPost
      = restrictedRelay.serveText .constant sampleNetwork containerText := by
    rw [dispatch_post (ofPath?_path .encryptedBody) rfl, serve.eq_def, if_neg hlimit]
    have hdecoded : Utf8.decode? (containerText.flatMap CodePoint.utf8) = some containerText :=
      Utf8.decode?_encode? (Utf8.encode?_eq_some_iff.mpr ⟨by decide +kernel, rfl⟩)
    dsimp only
    rw [serveEncrypted, show restrictedRelay.key = .ofPrivate .sample from rfl,
      show restrictedRelay.settings.scheme = .pkcs1v15 from rfl, hopened]
    simp only [hdecoded]
  rw [answer, hserved]
  decide +kernel

end Service

end Relay

end SealedRpc
