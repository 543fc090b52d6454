import SealedRpc.Proofs.Exchange.EndToEnd
import SealedRpc.Proofs.Exchange.Failure
import SealedRpc.Proofs.Exchange.Signed
import SealedRpc.Proofs.Request

/-!
# Which requests are encoded

With keys that pass the checks, whether a request is encoded depends on the request: on its text,
on the octets of the text, and under a signature on how many these are. What is reported when it is
not depends on where encoding stops. A request that has no text is refused as such. A text without
octets, which holds a lone surrogate, is found out one step later, and containers that nest too
deeply are found out within the writer; neither is reported as a fault of the request, under either
framing.

## Main results

* `encode_of_hasOctets`, `encode_of_not_hasOctets`: what becomes of a request whose text has octets,
  and of one that has none.
* `encode_outcomes`: which requests are encoded, and every other way in which encoding ends.
* `encode_unnamed`: requests that are not usable and not refused as such.
-/

namespace SealedRpc

/-- A fault of a request is reported as one, unless it is that containers nest too deeply. -/
theorem CallError.ofRequestFault_of_ne {fault : RequestFault}
    (h : fault ≠ .unserializable .tooDeep) : ofRequestFault fault = .invalidRequest fault := by
  unfold ofRequestFault
  split
  · exact absurd rfl h
  · rfl

namespace Deployment

variable {d : Deployment} {coins : Coins} {request : Value} {text : Text} {octets : Bytes}

/-! ### After the text -/

section

variable [Json.NestingLimit]

/-- Under encryption the octets of a text go to the workers that were asked for. -/
theorem encode_of_encryptedBody {key : Key} (hframing : d.framing = .encryptedBody)
    (hkey : d.requestKey = some key) (htext : Request.text request = .ok text)
    (hoctets : Utf8.encode? text = some octets) :
    d.encode coins request = (d.encrypt coins octets key).map
      fun body => ⟨d.framing.path, d.framing.contentType, body⟩ := by
  have hencoded : encodeText text = .ok octets := encodeText_eq_ok_iff.mpr hoctets
  rw [encode, encodeBody, hframing]
  simp only [htext, hencoded, hkey, need, Except.mapError_ok, bind, Except.bind]
  cases d.encrypt coins octets key <;> rfl

/-- Under a signature the octets of a text are signed or not, and the signer says why not. -/
theorem encode_of_sign_error {key : Key} (hframing : d.framing = .signedEnvelope)
    (hkey : d.requestKey = some key) (htext : Request.text request = .ok text)
    (hoctets : Utf8.encode? text = some octets) {fault : SigningFault}
    (hsign : Signature.sign (coins.factor 0) octets key = .error fault) :
    d.encode coins request = .error (.codec (.signing fault)) := by
  have hencoded : encodeText text = .ok octets := encodeText_eq_ok_iff.mpr hoctets
  rw [encode, encodeBody, hframing, sealRequest, htext]
  simp only [hencoded, hkey, need, hsign, Except.mapError_ok, Except.mapError_error, bind,
    Except.bind]

/-- What is signed goes out in an envelope, which has octets because the text has some. -/
theorem exists_encode_of_sign {key : Key} (hframing : d.framing = .signedEnvelope)
    (hkey : d.requestKey = some key) (htext : Request.text request = .ok text)
    (hoctets : Utf8.encode? text = some octets) {signature : Bytes}
    (hsign : Signature.sign (coins.factor 0) octets key = .ok signature) :
    ∃ encoded, d.encode coins request = .ok encoded := by
  have hencoded : encodeText text = .ok octets := encodeText_eq_ok_iff.mpr hoctets
  have hsome : (Envelope.toBytes? ⟨text, signature⟩).isSome = true := by
    rw [Envelope.isSome_toBytes?]
    exact (Utf8.encode?_eq_some_iff.mp hoctets).1
  obtain ⟨body, hbody⟩ := Option.isSome_iff_exists.mp hsome
  rw [encode, encodeBody, hframing, sealRequest, htext]
  simp only [hencoded, hkey, need, hsign, hbody, Except.mapError_ok, bind, Except.bind, pure,
    Except.pure]
  exact ⟨_, rfl⟩

/-! ### All outcomes -/

/-- A request with a text that the writer gets to the end of, and the octets of this text. -/
structure HasOctets (request : Value) (octets : Bytes) : Prop where
  text : ∃ text, Request.HasText request text ∧ Utf8.encode? text = some octets
  depth : request.nesting ≤ Json.nestingLimit

/-- Requests that have octets are those whose text is found and has octets. -/
theorem hasOctets_iff : HasOctets request octets ↔
    ∃ text, Request.text request = .ok text ∧ Utf8.encode? text = some octets := by
  simp only [Request.text_eq_ok_iff]
  constructor
  · rintro ⟨⟨text, htext, hoctets⟩, hdepth⟩
    exact ⟨text, ⟨htext, hdepth⟩, hoctets⟩
  · rintro ⟨text, ⟨htext, hdepth⟩, hoctets⟩
    exact ⟨⟨text, htext, hoctets⟩, hdepth⟩

/-- A request has octets in one way at most. -/
theorem HasOctets.unique {others : Bytes} (h : HasOctets request octets)
    (h' : HasOctets request others) : octets = others := by
  obtain ⟨text, htext, hoctets⟩ := h.text
  obtain ⟨other, hother, hothers⟩ := h'.text
  obtain rfl := htext.unique hother
  exact Option.some.inj (hoctets.symm.trans hothers)

/-- Whether a deployment takes requests with certain octets: the workers that encrypt them can be
counted, or the signature has room for them. -/
def Takes (d : Deployment) (octets : Bytes) : Prop :=
  match d.framing with
  | .encryptedBody => ∃ pool, d.workers = .pool pool
  | .signedEnvelope => ∃ key, d.requestKey = some key ∧
      octets.length + SignatureBlock.overhead ≤ key.size

/-- The ways in which encoding a request ends without one, with what is wrong in each. -/
inductive Unencoded (d : Deployment) (request : Value) : CallError → Prop
  | noText (fault : RequestFault) (h : ∀ text, ¬ Request.HasText request text) :
      Unencoded d request (.invalidRequest fault)
  | tooDeep (h : Json.nestingLimit < request.nesting) : Unencoded d request .tooDeep
  | noOctets {text : Text} (htext : Request.HasText request text)
      (h : Utf8.encode? text = none) : Unencoded d request .unencodable
  | tooLong {key : Key} {octets : Bytes} (hframing : d.framing = .signedEnvelope)
      (hkey : d.requestKey = some key) (hoctets : HasOctets request octets)
      (h : key.size < octets.length + SignatureBlock.overhead) :
      Unencoded d request (.codec (.signing (.tooLong octets.length (Signature.limit key))))
  | workers {kind : Text} {octets : Bytes} (hframing : d.framing = .encryptedBody)
      (hoctets : HasOctets request octets) (h : d.workers = .notCompared kind) :
      Unencoded d request (.workers kind)

/-- A request with octets is encoded if it is taken, and if not, the deployment is to blame. -/
theorem encode_of_hasOctets (hready : d.Ready) (hvalid : ∀ key,
      d.requestKey = some (.ofPrivate key) → key.Valid ∧ coins.Blinds key.toPublic)
    (hoctets : HasOctets request octets) :
    (d.Takes octets ∧ ∃ encoded, d.encode coins request = .ok encoded) ∨
      ¬ d.Takes octets ∧ ∃ e, d.encode coins request = .error e ∧ d.Unencoded request e := by
  obtain ⟨key, hkey, husable, hprivate⟩ := hready.request
  obtain ⟨text, htext, hform⟩ := hoctets.text
  have hfound : Request.text request = .ok text := Request.text_eq_ok_iff.mpr ⟨htext, hoctets.depth⟩
  cases hframing : d.framing with
  | encryptedBody =>
      rw [Takes, hframing, encode_of_encryptedBody hframing hkey hfound hform, encrypt]
      cases hworkers : d.workers with
      | pool pool =>
          refine .inl ⟨⟨pool, rfl⟩, ?_⟩
          simp only [husable.encrypt_eq, Except.mapError_ok]
          exact ⟨_, rfl⟩
      | notCompared kind =>
          refine .inr ⟨?_, .workers kind, ?_, .workers hframing hoctets hworkers⟩
          · rintro ⟨pool, hpool⟩
            cases hpool
          · simp only [Codec.chunkSize_natCast husable.overhead_lt, Except.mapError_ok]
            rfl
  | signedEnvelope =>
      rw [Takes, hframing]
      cases key with
      | ofPublic key => cases hprivate hframing
      | ofPrivate key =>
          obtain ⟨hkeyValid, hblinds⟩ := hvalid key hkey
          by_cases hfits : octets.length + SignatureBlock.overhead ≤ key.toPublic.size
          · have hsign := (Signature.sign_eq_ok_iff hkeyValid (hblinds 0)).mpr ⟨hfits, rfl⟩
            exact .inl ⟨⟨_, hkey, hfits⟩, exists_encode_of_sign hframing hkey hfound hform hsign⟩
          · have hsign : Signature.sign (coins.factor 0) octets (.ofPrivate key) = _ :=
              Signature.sign_of_not_fits hfits
            refine .inr ⟨?_, _, encode_of_sign_error hframing hkey hfound hform hsign,
              .tooLong hframing hkey hoctets (Nat.not_le.mp hfits)⟩
            rintro ⟨other, hother, hfits'⟩
            obtain rfl := Option.some.inj (hkey.symm.trans hother)
            exact hfits hfits'

/-- A request without octets is not encoded, whatever the deployment is. -/
theorem encode_of_not_hasOctets (hnone : ∀ octets, ¬ HasOctets request octets) :
    ∃ e, d.encode coins request = .error e ∧ d.Unencoded request e := by
  cases hfound : Request.text request with
  | error fault =>
      refine ⟨_, encode_of_text_error hfound, ?_⟩
      obtain ⟨rfl, hdeep⟩ | ⟨hcause, htexts⟩ := Request.failsWith_text request fault hfound
      · exact .tooDeep hdeep
      · rw [CallError.ofRequestFault_of_ne hcause]
        exact .noText fault htexts
  | ok text =>
      cases hform : Utf8.encode? text with
      | none =>
          have htext : Request.HasText request text := (Request.text_eq_ok_iff.mp hfound).1
          exact ⟨_, encode_of_unencodable hfound hform, .noOctets htext hform⟩
      | some octets => exact absurd (hasOctets_iff.mpr ⟨text, hfound, hform⟩) (hnone octets)

/-- **All outcomes of encoding.** Take a deployment whose keys pass the checks, with a valid private
key for its requests if it is a private one. A request is encoded exactly if it has a text with
octets, its containers do not nest too deeply, and the deployment takes these octets. In every other
case encoding ends in one of five ways. It refuses the request only if this has no text; a text
without octets, containers that nest too deeply and workers that cannot be counted are reported as
what they are, and the signer refuses only octets that are too long for the key. -/
theorem encode_outcomes {checkCoins : Coins} (hcheck : d.validate checkCoins = .ok ())
    (hvalid : ∀ key, d.requestKey = some (.ofPrivate key) →
      key.Valid ∧ coins.Blinds key.toPublic) (request : Value) :
    ((∃ encoded, d.encode coins request = .ok encoded) ↔
      ∃ octets, HasOctets request octets ∧ d.Takes octets) ∧
    ∀ e, d.encode coins request = .error e → d.Unencoded request e := by
  have hready : d.Ready := validate_eq_ok_iff.mp hcheck
  by_cases hoctets : ∃ octets, HasOctets request octets
  · obtain ⟨octets, hoctets⟩ := hoctets
    have honly : (∃ octets, HasOctets request octets ∧ d.Takes octets) ↔ d.Takes octets := by
      refine ⟨?_, fun htakes => ⟨octets, hoctets, htakes⟩⟩
      rintro ⟨others, hothers, htakes⟩
      exact hothers.unique hoctets ▸ htakes
    rw [honly]
    obtain ⟨htakes, encoded, hencoded⟩ | ⟨hnot, e, he, hwhy⟩ :=
      encode_of_hasOctets hready hvalid hoctets
    · rw [hencoded]
      exact ⟨iff_of_true ⟨encoded, rfl⟩ htakes, nofun⟩
    · rw [he]
      refine ⟨iff_of_false nofun hnot, ?_⟩
      rintro _ ⟨⟩
      exact hwhy
  · rw [not_exists] at hoctets
    obtain ⟨e, he, hwhy⟩ := encode_of_not_hasOctets hoctets
    rw [he]
    refine ⟨iff_of_false nofun fun ⟨octets, h, _⟩ => hoctets octets h, ?_⟩
    rintro _ ⟨⟩
    exact hwhy

/-! ### Requests that are neither encoded nor refused -/

/-- A request that has a text fails as it is too deep if its containers are. -/
theorem encode_of_tooDeep (htext : Request.HasText request text)
    (hdeep : Json.nestingLimit < request.nesting) : d.encode coins request = .error .tooDeep := by
  cases hfound : Request.text request with
  | ok other => exact absurd (Request.text_eq_ok_iff.mp hfound).2 (Nat.not_le.mpr hdeep)
  | error fault =>
      rw [encode_of_text_error hfound]
      obtain ⟨rfl, -⟩ | ⟨-, hnone⟩ := Request.failsWith_text request fault hfound
      · rfl
      · exact absurd htext (hnone text)

end

/-- A list within a list, and so on. -/
def nestedList : Nat → Value
  | 0 => .list []
  | n + 1 => .list [nestedList n]

/-- How deep such a list nests. -/
theorem nesting_nestedList (n : Nat) : (nestedList n).nesting = n + 1 := by
  induction n with
  | zero => rfl
  | succ n ih => simp [nestedList, Value.nesting, Value.itemNesting, ih]

/-- It denotes something at any depth. -/
theorem exists_denotes_nestedList (n : Nat) : ∃ j, (nestedList n).Denotes j := by
  induction n with
  | zero => exact ⟨_, .list .nil⟩
  | succ n ih =>
      obtain ⟨j, hj⟩ := ih
      exact ⟨_, .list (.cons hj .nil)⟩

/-- The small deployment, under either framing. -/
def small (framing : Framing) : Deployment := { sampleClient.deployment with framing := framing }

/-- Its keys pass the checks. -/
theorem validate_small (framing : Framing) : (small framing).validate .constant = .ok () := by
  have husable : Codec.Usable (.ofPrivate .secondSample) .pkcs1v15 (.octets 14) :=
    ⟨by decide +kernel, by decide +kernel, by decide +kernel⟩
  have husable' : Codec.Usable (Key.ofPrivate .sample).publicOnly .pkcs1v15 (.octets 14) :=
    ⟨by decide +kernel, by decide +kernel, by decide +kernel⟩
  exact validate_eq_ok_iff.mpr ⟨⟨_, rfl, husable, fun _ => rfl⟩, ⟨_, rfl, husable', nofun⟩⟩

/-- Its private key is valid. -/
theorem valid_small (framing : Framing) : ∀ key,
    (small framing).requestKey = some (.ofPrivate key) →
      key.Valid ∧ Coins.constant.Blinds key.toPublic := by
  rintro _ ⟨⟩
  exact ⟨PrivateKey.valid_secondSample,
    Coins.blinds_constant PrivateKey.valid_secondSample.odd_modulus⟩

/-- Under a signature an empty list is encoded by that deployment, a text of four octets is too
long for it, and an octet that begins nothing has no text. -/
theorem encode_outcomes_sample : (small .signedEnvelope).validate .constant = .ok () ∧
    PrivateKey.Valid .secondSample ∧
    (∃ encoded, (small .signedEnvelope).encode .constant (.list []) = .ok encoded) ∧
    (small .signedEnvelope).Unencoded (.text "null") (.codec (.signing (.tooLong 4 3))) ∧
    (small .signedEnvelope).Unencoded (.bytes [0xFF]) (.invalidRequest .notUtf8) := by
  have hcheck := validate_small .signedEnvelope
  have hvalid := valid_small .signedEnvelope
  have hlist : HasOctets (.list []) [0x5B, 0x5D] :=
    ⟨⟨_, .json nofun (.list .nil), by decide +kernel⟩, by decide +kernel⟩
  refine ⟨hcheck, PrivateKey.valid_secondSample, ?_, ?_, ?_⟩
  · refine (encode_outcomes hcheck hvalid (.list [])).1.mpr ⟨_, hlist, _, rfl, ?_⟩
    decide +kernel
  · exact (encode_outcomes hcheck hvalid (.text "null")).2 _ rfl
  · have hread : Utf8.decode? [0xFF] = none := by
      simp [Utf8.decode?, Utf8.units, Utf8.units.afresh, Utf8.lead]
    have htext : Request.text (.bytes [0xFF]) = .error .notUtf8 := by
      rw [Request.text_bytes, hread]
    exact (encode_outcomes hcheck hvalid (.bytes [0xFF])).2 _ (encode_of_text_error htext)

/-- Two requests that have no octets or are too deep for the writer, and that are not refused as
requests, whatever the framing: a text with a lone surrogate, and lists within lists. -/
theorem encode_unnamed :
    (∀ framing, (small framing).validate .constant = .ok ()) ∧ PrivateKey.Valid .secondSample ∧
    (∀ framing, (small framing).encode .constant (.text [0xD800]) = .error .unencodable) ∧
    (∀ framing, (small framing).encode .constant (nestedList 1499) = .error .tooDeep) ∧
    CallError.unencodable.isNamed = false ∧ CallError.tooDeep.isNamed = false := by
  refine ⟨validate_small, PrivateKey.valid_secondSample, fun framing => ?_, fun framing => ?_,
    rfl, rfl⟩
  · exact encode_of_unencodable (Request.text_of_text _) (by decide +kernel)
  · obtain ⟨j, hj⟩ := exists_denotes_nestedList 1499
    refine encode_of_tooDeep (.json ?_ hj) ?_
    · intro text h
      cases h
    · rw [nesting_nestedList]
      decide

end Deployment

end SealedRpc
