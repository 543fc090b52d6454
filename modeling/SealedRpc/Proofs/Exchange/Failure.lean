import SealedRpc.Proofs.Exchange.Call

/-!
# What the steps of a call fail with

Encoding a request and decoding a response are made of a few steps that can fail: a request
without a text, a text without octets, a missing key, the codec, the signer, the workers. What
all these failures have in common, all failures of encoding and of decoding have in common.

## Main results

* `failsWith_encode`, `failsWith_decode`: the failures of encoding and of decoding, step by step.
-/

namespace SealedRpc.Deployment

variable {P : CallError → Prop} {d : Deployment} {coins : Coins}

/-- Where a key is missing, it is said so. -/
theorem failsWith_need {key? : Option Key} (hmissing : key? = none → P .missingKey) :
    Except.FailsWith P (need key?) := by
  cases key? with
  | none => exact Except.failsWith_error (hmissing rfl)
  | some key => exact Except.failsWith_ok key

/-- Texts with octets are encoded to these. -/
theorem encodeText_eq_ok_iff {text : Text} {octets : Bytes} :
    encodeText text = .ok octets ↔ Utf8.encode? text = some octets := by
  rw [encodeText]
  cases Utf8.encode? text <;> simp

/-- A text that has no octets fails in one way. -/
theorem failsWith_encodeText (hunencodable : P .unencodable) (text : Text) :
    Except.FailsWith P (encodeText text) := by
  unfold encodeText
  split
  · exact Except.failsWith_ok _
  · exact Except.failsWith_error hunencodable

/-- The failures of encryption are those of the codec and of the workers, for which the key may
turn out to be too small first. -/
theorem failsWith_encrypt {data : Bytes} {key : Key}
    (hcodec : ∀ pool, Except.FailsWith (fun e => P (.codec e))
      (Codec.encrypt coins pool data key d.scheme))
    (hsize : Except.FailsWith (fun cause => P (.codec (.keyTooSmall cause)))
      (d.scheme.chunkSize key.size))
    (hworkers : ∀ kind, P (.workers kind)) : Except.FailsWith P (d.encrypt coins data key) := by
  unfold encrypt
  split
  · exact (hcodec _).mapError
  · exact hsize.mapError.bind fun _ _ => Except.failsWith_error (hworkers _)

/-- The failures of decryption are those of the codec and of the workers, for which the length
of the message or the key may turn out to be wrong first. -/
theorem failsWith_decrypt {message : Bytes} {key : Key}
    (hcodec : ∀ pool, Except.FailsWith (fun e => P (.codec e))
      (Codec.decrypt coins pool message key d.scheme))
    (hblocks : Except.FailsWith (fun e => P (.codec e)) (Codec.blocks message key.size))
    (hprivate : key.hasPrivate = false → P (.codec (.decryption .noPrivateMaterial)))
    (hworkers : ∀ kind, P (.workers kind)) :
    Except.FailsWith P (d.decrypt coins message key) := by
  unfold decrypt
  split
  · exact (hcodec _).mapError
  · refine hblocks.mapError.bind fun _ _ => ?_
    split
    · exact Except.failsWith_error (hworkers _)
    · exact Except.failsWith_error (hprivate (Bool.eq_false_iff.mpr ‹_›))

section

variable [Json.NestingLimit]

/-- The failures of sealing a request are those of its text, of the key and of the signer. -/
theorem failsWith_sealRequest {request : Value} {key? : Option Key}
    (htext : ∀ fault, P (.ofRequestFault fault)) (hunencodable : P .unencodable)
    (hmissing : key? = none → P .missingKey)
    (hsign : ∀ text octets key, Request.text request = .ok text → encodeText text = .ok octets →
      key? = some key → Except.FailsWith (fun fault => P (.codec (.signing fault)))
        (Signature.sign (coins.factor 0) octets key)) :
    Except.FailsWith P (sealRequest coins request key?) := by
  unfold sealRequest
  refine Except.FailsWith.bind (Except.FailsWith.mapError fun fault _ => htext fault)
    fun text hread => ?_
  refine (failsWith_encodeText hunencodable text).bind fun octets hoctets => ?_
  refine (failsWith_need hmissing).bind fun key hkey => ?_
  have hfound : key? = some key := need_eq_ok_iff.mp hkey
  refine Except.FailsWith.bind ?_ fun _ _ => Except.failsWith_ok _
  exact (hsign text octets key (Except.mapError_eq_ok_iff.mp hread) hoctets hfound).mapError

/-- The failures of encoding a request are those of its text, of the key, of encryption and of
the signer. -/
theorem failsWith_encode {request : Value}
    (htext : ∀ fault, P (.ofRequestFault fault)) (hunencodable : P .unencodable)
    (hmissing : d.requestKey = none → P .missingKey)
    (hencrypt : ∀ data key, d.requestKey = some key → Except.FailsWith P (d.encrypt coins data key))
    (hsign : ∀ text octets key, Request.text request = .ok text → encodeText text = .ok octets →
      d.framing = .signedEnvelope → d.requestKey = some key →
        Except.FailsWith (fun fault => P (.codec (.signing fault)))
          (Signature.sign (coins.factor 0) octets key)) :
    Except.FailsWith P (d.encode coins request) := by
  refine Except.FailsWith.bind ?_ fun _ _ => Except.failsWith_ok _
  unfold encodeBody
  split
  · refine Except.FailsWith.bind (Except.FailsWith.mapError fun fault _ => htext fault)
      fun text _ => ?_
    refine (failsWith_encodeText hunencodable text).bind fun octets _ => ?_
    exact (failsWith_need hmissing).bind fun key hkey =>
      hencrypt octets key (need_eq_ok_iff.mp hkey)
  · rename_i hframing
    refine (failsWith_sealRequest htext hunencodable hmissing fun text octets key hread hoctets
      hkey => hsign text octets key hread hoctets hframing hkey).bind fun envelope _ => ?_
    split
    · exact Except.failsWith_ok _
    · exact Except.failsWith_error hunencodable

/-- A request in which no text is found is not encoded, whatever the framing. -/
theorem encode_of_text_error {request : Value} {fault : RequestFault}
    (h : Request.text request = .error fault) :
    d.encode coins request = .error (.ofRequestFault fault) := by
  have hbody : d.encodeBody coins request = .error (.ofRequestFault fault) := by
    unfold encodeBody sealRequest
    rw [h]
    split <;> rfl
  rw [encode, hbody]
  rfl

/-- A request whose text has no octets is not encoded, whatever the framing. -/
theorem encode_of_unencodable {request : Value} {text : Text}
    (htext : Request.text request = .ok text) (hform : Utf8.encode? text = none) :
    d.encode coins request = .error .unencodable := by
  have hencoded : encodeText text = .error .unencodable := by rw [encodeText, hform]
  have hbody : d.encodeBody coins request = .error .unencodable := by
    unfold encodeBody sealRequest
    rw [htext]
    split <;> simp [hencoded, bind, Except.bind]
  rw [encode, hbody]
  rfl

end

/-- The failures of decoding a response are that of its status, those of the key, of recovery
and of decryption. -/
theorem failsWith_decode {status : Int} {body : Bytes} (hstatus : P (.ofStatus status body))
    (hscheme : d.decoding = .publicRecover → d.scheme ≠ .pkcs1v15 →
      P (.codec (.unsupported (.publicDecryption d.scheme))))
    (hmissing : d.responseKey = none → P .missingKey)
    (hrecover : ∀ key, d.scheme = .pkcs1v15 → Except.FailsWith (fun e => P (.codec e))
      (Codec.publicDecrypt body key d.scheme))
    (hdecrypt : ∀ key, d.decoding = .privateDecrypt → d.responseKey = some key →
      Except.FailsWith P (d.decrypt coins body key)) :
    Except.FailsWith P (d.decode coins status body) := by
  unfold decode
  split
  · exact Except.failsWith_error hstatus
  · split
    · rename_i hdecoding
      split
      · exact Except.failsWith_error (hscheme hdecoding ‹_›)
      · rename_i hpkcs
        exact (failsWith_need hmissing).bind fun key _ =>
          (hrecover key (not_not.mp hpkcs)).mapError
    · rename_i hdecoding
      exact (failsWith_need hmissing).bind fun key hkey =>
        hdecrypt key hdecoding (need_eq_ok_iff.mp hkey)

end SealedRpc.Deployment
