import SealedRpc.Proofs.Codec.Failure
import SealedRpc.Proofs.Exchange.EndToEnd
import SealedRpc.Proofs.Exchange.Outcome

/-!
# What the checks of a client are good for

The checks encrypt one sample with each key and look at what material there is. That is enough
to rule out, for every request and every response, all failures that are due to the set-up: keys
of another size or too small, a scheme that has no such mode, encryption that is refused, missing
private material. What remains is due to what is sent or received.

A client remembers that its keys have passed. As long as nothing is assigned to it, it can rely
on that: the keys are still those that passed, and no request leaves before they have.

## Main results

* `settled_encode`, `settled_decode`: what keys that pass may still fail with.
* `checks_after`: the keys count as checked exactly if they were checked and passed.
* `validation_sufficient`: both for every run without assignments.
-/

namespace SealedRpc

/-! ### Failures that remain -/

/-- A failure that is due to the set-up: a key is missing, too small, of another size or without
the private material that it needs, the scheme has no such mode, or the key is refused. -/
def CallError.IsSetUp : CallError → Prop
  | .missingKey => True
  | .codec (.keyTooSmall _) | .codec (.unexpectedKeySize _ _) | .codec (.sizeNotShown _) => True
  | .codec (.encryption _ _) | .codec (.unsupported _) => True
  | .codec (.decryption cause) => cause.chunk? = none
  | _ => False

section

variable [Json.NestingLimit]

/-- A failure that keys may meet after they have passed the checks. It is not due to the set-up,
and if it is the signer's, then there is a private key, and for a valid one the text of the
request is longer than it signs. -/
structure CallError.Settled (d : Deployment) (coins : Coins) (request? : Option Value)
    (e : CallError) : Prop where
  notSetUp : ¬ e.IsSetUp
  signing : ∀ fault, e = .codec (.signing fault) → ∃ key, d.requestKey = some (.ofPrivate key) ∧
    (key.Valid → coins.Blinds key.toPublic → ∃ request text octets, request? = some request ∧
      Request.text request = .ok text ∧ Utf8.encode? text = some octets ∧
      key.toPublic.size < octets.length + SignatureBlock.overhead ∧
      fault = .tooLong octets.length (Signature.limit (.ofPrivate key)))

/-- A failure of neither kind. -/
theorem CallError.settled_of_not {d : Deployment} {coins : Coins} {request? : Option Value}
    {e : CallError} (hsetUp : ¬ e.IsSetUp) (hsigning : ∀ fault, e ≠ .codec (.signing fault)) :
    e.Settled d coins request? :=
  ⟨hsetUp, fun fault he => absurd he (hsigning fault)⟩

/-- A fault of a request is settled. -/
theorem CallError.settled_ofRequestFault {d : Deployment} {coins : Coins}
    {request? : Option Value} (fault : RequestFault) :
    (CallError.ofRequestFault fault).Settled d coins request? := by
  unfold ofRequestFault
  split <;> exact settled_of_not nofun fun _ => nofun

end

namespace Deployment

variable {d : Deployment} {coins : Coins}

/-- A deployment that was created recovers responses under the padding that has that mode. -/
theorem scheme_of_create (hcreate : d.create = .ok d) (hdecoding : d.decoding = .publicRecover) :
    d.scheme = .pkcs1v15 := by
  by_contra hscheme
  rw [create, if_pos ⟨hdecoding, hscheme⟩] at hcreate
  cases hcreate

variable [Json.NestingLimit]

/-- Keys that pass meet settled failures only when requests are encoded. -/
theorem settled_encode (hready : d.Ready) (request : Value) :
    Except.FailsWith (CallError.Settled d coins (some request)) (d.encode coins request) := by
  obtain ⟨key, hkey, husable, hprivate⟩ := hready.request
  refine failsWith_encode CallError.settled_ofRequestFault
    (CallError.settled_of_not nofun fun _ => nofun) ?_ ?_ ?_
  · intro hmissing
    cases hmissing.symm.trans hkey
  · intro data key' hkey'
    obtain rfl := Option.some.inj (hkey.symm.trans hkey')
    refine failsWith_encrypt (fun pool => ?_) ?_
      fun _ => CallError.settled_of_not nofun fun _ => nofun
    · rw [husable.encrypt_eq]
      exact Except.failsWith_ok _
    · rw [Codec.chunkSize_natCast husable.overhead_lt]
      exact Except.failsWith_ok _
  · intro text octets key' htext hoctets hframing hkey' fault hfault
    obtain rfl := Option.some.inj (hkey.symm.trans hkey')
    refine ⟨nofun, ?_⟩
    rintro fault' ⟨⟩
    cases key with
    | ofPublic key => cases hprivate hframing
    | ofPrivate key =>
        refine ⟨key, hkey, fun hvalid hblinds => ?_⟩
        obtain ⟨hlong, hcause⟩ := (Signature.sign_eq_error_iff hvalid (hblinds 0)).mp hfault
        exact ⟨request, text, octets, rfl, htext, encodeText_eq_ok_iff.mp hoctets, hlong, hcause⟩

/-- Keys that pass meet settled failures only when responses are decoded. -/
theorem settled_decode (hcreate : d.create = .ok d) (hready : d.Ready) {request? : Option Value}
    (status : Int) (body : Bytes) :
    Except.FailsWith (CallError.Settled d coins request?) (d.decode coins status body) := by
  obtain ⟨key, hkey, husable, hprivate⟩ := hready.response
  have hlength : ∀ size, CallError.Settled d coins request?
      (.codec (.malformedCiphertext size body.length)) :=
    fun _ => CallError.settled_of_not nofun fun _ => nofun
  have hpadding : ∀ i, CallError.Settled d coins request?
      (.codec (.decryption (.badPadding d.scheme i))) :=
    fun i => CallError.settled_of_not nofun fun _ => nofun
  refine failsWith_decode (CallError.settled_of_not nofun fun _ => nofun) ?_ ?_ ?_ ?_
  · intro hdecoding hscheme
    exact absurd (scheme_of_create hcreate hdecoding) hscheme
  · intro hmissing
    cases hmissing.symm.trans hkey
  · intro key' hscheme
    exact Codec.failsWith_publicDecrypt hscheme (hlength _) hpadding
  · intro key' hdecoding hkey'
    obtain rfl := Option.some.inj (hkey.symm.trans hkey')
    have hnever : key.hasPrivate = false → CallError.Settled d coins request?
        (.codec (.decryption .noPrivateMaterial)) := by
      intro hpublic
      cases hpublic.symm.trans (hprivate hdecoding)
    exact failsWith_decrypt (fun pool => Codec.failsWith_decrypt pool (hlength _) hnever hpadding)
      (Codec.failsWith_blocks (hlength _)) hnever
      fun _ => CallError.settled_of_not nofun fun _ => nofun

end Deployment

namespace Client

variable {c : Client} {coins : Coins} {request : Value} {via : Via} {step : Step}

/-! ### What a step does to the checks -/

section

variable [Json.NestingLimit]

/-- A call keeps the deployment. The keys count as checked after it exactly if it came to
encoding its request, and only then it can have posted. -/
theorem admits_callVia (c : Client) (coins : Coins) (via : Via)
    (post : EncodedRequest → Http.Delivery) (request : Value) :
    (c.callVia coins via post request).client.deployment = c.deployment ∧
      ((c.callVia coins via post request).client.validated = true ↔ c.Admits coins) ∧
      ((c.callVia coins via post request).posts ≠ [] → c.Admits coins) := by
  have hbegins := begins_begin c coins request
  rw [callVia]
  generalize c.begin coins request = begun at hbegins
  cases hbegins with
  | refused hnot hcheck =>
      have hvalidated : ¬ c.validated = true := fun h => hnot (.inl h)
      exact ⟨rfl, ⟨fun h => absurd h hvalidated, fun h => absurd h hnot⟩, fun h => absurd rfl h⟩
  | unencoded hadmits hencode => exact ⟨rfl, by simp [hadmits], fun _ => hadmits⟩
  | waits hadmits hencode =>
      simp only [finish_waits]
      exact ⟨trivial, by simp [hadmits], fun _ => hadmits⟩

omit [Json.NestingLimit] in
/-- Checking the keys keeps the deployment, and the keys count as checked after it exactly if
they did before or they pass. -/
theorem admits_validate (c : Client) (coins : Coins) :
    (c.validate coins).1.deployment = c.deployment ∧
      ((c.validate coins).1.validated = true ↔ c.Admits coins) := by
  rw [validate]
  cases hcheck : c.deployment.validate coins with
  | ok _ => exact ⟨rfl, by simp [Admits, hcheck]⟩
  | error e => exact ⟨rfl, by simp [Admits, hcheck]⟩

/-- Whether an operation checks the keys unless they count as checked. -/
def Operation.checks : Operation → Bool
  | .validate | .call _ _ | .callAsync _ _ | .callJson _ _ => true
  | .encode _ | .decode _ _ | .assign _ => false

/-- A step that assigns nothing keeps the deployment. The keys count as checked after it exactly
if they did before, or if they were checked and passed. -/
theorem checks_perform (hassigns : step.operation.assigns = false) :
    (c.perform step).1.deployment = c.deployment ∧ ((c.perform step).1.validated = true ↔
      c.validated = true ∨
        step.operation.checks = true ∧ c.deployment.validate step.coins = .ok ()) := by
  cases hvia : step.operation.via? with
  | some via =>
      obtain ⟨post, request, -, -, hperform⟩ := c.exists_called_of_call hvia
      obtain ⟨hdeployment, hvalidated, -⟩ := c.admits_callVia step.coins via post request
      have hchecks : step.operation.checks = true := by
        revert hvia
        cases step.operation <;> simp [Operation.via?, Operation.checks]
      rw [hperform]
      exact ⟨hdeployment, hvalidated.trans (by simp [Admits, hchecks])⟩
  | none =>
      obtain ⟨coins, operation⟩ := step
      cases operation with
      | validate =>
          obtain ⟨hdeployment, hvalidated⟩ := c.admits_validate coins
          exact ⟨hdeployment, hvalidated.trans (by simp [Admits, Operation.checks])⟩
      | encode request => exact ⟨rfl, by simp [perform, Operation.checks]⟩
      | decode status body => exact ⟨rfl, by simp [perform, Operation.checks]⟩
      | assign assignment => cases hassigns
      | call transport request => cases hvia
      | callAsync transport request => cases hvia
      | callJson transport request => cases hvia

/-- A run without assignments keeps the deployment. The keys count as checked after it exactly if
they did before, or if they were checked in some step and passed. -/
theorem checks_after {steps : List Step}
    (hassigns : ∀ step ∈ steps, step.operation.assigns = false) :
    (c.after steps).deployment = c.deployment ∧ ((c.after steps).validated = true ↔
      c.validated = true ∨ ∃ step ∈ steps,
        step.operation.checks = true ∧ c.deployment.validate step.coins = .ok ()) := by
  induction steps generalizing c with
  | nil => exact ⟨rfl, by simp [after]⟩
  | cons step rest ih =>
      obtain ⟨hfirst, hrest⟩ := List.forall_mem_cons.mp hassigns
      obtain ⟨hdeployment, hvalidated⟩ := checks_perform (c := c) hfirst
      obtain ⟨hdeployment', hvalidated'⟩ := ih (c := (c.perform step).1) hrest
      rw [hdeployment] at hdeployment' hvalidated'
      refine ⟨hdeployment', hvalidated'.trans ?_⟩
      rw [hvalidated, List.exists_mem_cons_iff, or_assoc]

/-- In a run without assignments keys that count as checked are ready. -/
theorem ready_of_after {d : Deployment} {steps : List Step}
    (hassigns : ∀ step ∈ steps, step.operation.assigns = false)
    (hvalidated : ((ofDeployment d).after steps).validated = true) : d.Ready := by
  obtain hfresh | ⟨step, -, -, hcheck⟩ := (checks_after hassigns).2.mp hvalidated
  · cases hfresh
  · exact Deployment.validate_eq_ok_iff.mp hcheck

/-- Whether the keys have proved good in a step: they were checked and passed, or the step
posted. -/
def Report.Passes (r : Report) : Prop :=
  r.step.operation = .validate ∧ r.result = .ok .nothing ∨ r.posts ≠ []

/-- After a step in which they have proved good, the keys count as checked. -/
theorem Report.Passes.validated {r : Report} (h : r.Passes) : r.after.validated = true := by
  obtain ⟨c, step⟩ := r
  rcases h with ⟨hoperation, hresult⟩ | hposts
  · obtain ⟨coins, operation⟩ := step
    obtain rfl : operation = .validate := hoperation
    obtain ⟨⟨⟩, hcheck, -⟩ :=
      Except.map_eq_ok_iff.mp (show (c.validate coins).2.map _ = _ from hresult)
    refine (c.admits_validate coins).2.mpr (.inr ?_)
    rw [Client.validate] at hcheck
    split at hcheck
    · assumption
    · cases hcheck
  · cases hvia : step.operation.via? with
    | none =>
        obtain ⟨hcalled, -⟩ := c.cycles_perform_of_no_call hvia
        rw [Report.posts, Report.called?, hcalled] at hposts
        exact absurd rfl hposts
    | some via =>
        obtain ⟨post, request, -, hcalled, hperform⟩ := c.exists_called_of_call hvia
        rw [Report.posts, Report.called?, hcalled] at hposts
        obtain ⟨-, hvalidated, hadmits⟩ := c.admits_callVia step.coins via post request
        rw [Report.after, hperform]
        exact hvalidated.mpr (hadmits hposts)

/-! ### Runs -/

/-- Once the keys are ready, every step of a client that was created meets settled failures
only. -/
theorem settled_perform (hcreate : c.deployment.create = .ok c.deployment)
    (hready : c.deployment.Ready) (step : Step) :
    Except.FailsWith (CallError.Settled c.deployment step.coins step.operation.request?)
      (c.perform step).2 := by
  refine failsWith_perform ?_ ?_ ?_ ?_ ?_ ?_
  · rw [Deployment.validate_eq_ok_iff.mpr hready]
    exact Except.failsWith_ok ()
  · intro request hrequest
    rw [hrequest]
    exact c.deployment.settled_encode hready request
  · exact c.deployment.settled_decode hcreate hready
  · exact fun _ => CallError.settled_of_not nofun fun _ => nofun
  · exact CallError.settled_of_not nofun fun _ => nofun
  · exact fun _ => CallError.settled_of_not nofun fun _ => nofun

/-- **Validation is sufficient.** Take any run of a client that was created, without assignments.
A step posts only if the keys are ready, and then they pass the checks whatever the random
choices are; keys that count as checked go on to do so; and once the keys were checked with
success or something was posted, no later step fails because of the set-up, and none because of
the signer unless the text of its request is too long for a valid private key. -/
theorem validation_sufficient {d : Deployment} (hcreate : d.create = .ok d) {steps : List Step}
    (hassigns : ∀ step ∈ steps, step.operation.assigns = false) :
    (∀ r ∈ (ofDeployment d).reports steps, r.posts ≠ [] →
      d.Ready ∧ ∀ coins, d.validate coins = .ok ()) ∧
    (∀ r ∈ (ofDeployment d).reports steps, r.before.validated = true → r.after.validated = true) ∧
    ∀ earlier first later, steps = earlier ++ first :: later →
      Report.Passes ⟨(ofDeployment d).after earlier, first⟩ →
      ∀ r ∈ (Report.after ⟨(ofDeployment d).after earlier, first⟩).reports later,
        Except.FailsWith (CallError.Settled d r.step.coins r.step.operation.request?) r.result := by
  -- after the step of a report the run has come to, the keys count as checked only if ready
  have hready : ∀ r ∈ (ofDeployment d).reports steps, r.after.validated = true → d.Ready := by
    intro r hr hvalidated
    obtain ⟨earlier, later, rfl, hbefore⟩ := mem_reports_iff.mp hr
    have hsofar : ∀ step ∈ earlier ++ [r.step], step.operation.assigns = false := by
      intro step hstep
      refine hassigns step ?_
      simp only [List.mem_append, List.mem_cons] at hstep ⊢
      tauto
    refine ready_of_after hsofar ?_
    rw [after_append, ← hbefore]
    exact hvalidated
  refine ⟨?_, ?_, ?_⟩
  · intro r hr hposts
    have hd := hready r hr (Report.Passes.validated (.inr hposts))
    exact ⟨hd, fun coins => Deployment.validate_eq_ok_iff.mpr hd⟩
  · intro r hr hvalidated
    obtain ⟨earlier, later, rfl, hbefore⟩ := mem_reports_iff.mp hr
    exact (checks_perform (hassigns r.step (by simp))).2.mpr (.inl hvalidated)
  · rintro earlier first later rfl hpasses r hr
    have hd : d.Ready := hready ⟨(ofDeployment d).after earlier, first⟩
      (mem_reports_iff.mpr ⟨earlier, later, rfl, rfl⟩) hpasses.validated
    obtain ⟨between, rest, rfl, hbefore⟩ := mem_reports_iff.mp hr
    have hdeployment : r.before.deployment = d := by
      have hrun : r.before = (ofDeployment d).after (earlier ++ first :: between) := by
        rw [hbefore, after_append]
        rfl
      rw [hrun]
      refine (checks_after fun step hstep => hassigns step ?_).1
      simp only [List.mem_append, List.mem_cons] at hstep ⊢
      tauto
    have hsettled := settled_perform (c := r.before) (by rw [hdeployment, hcreate])
      (by rw [hdeployment]; exact hd) r.step
    rw [hdeployment] at hsettled
    exact hsettled

end

/-- The small client passes its checks, and after that a text of four octets is too long for its
key, which is all that is wrong. -/
theorem validation_sufficient_sample :
    sampleClient.deployment.create = .ok sampleClient.deployment ∧
    sampleClient.deployment.validate .constant = .ok () ∧
    sampleClient.deployment.encode .constant (.text "null")
      = .error (.codec (.signing (.tooLong 4 3))) ∧
    (CallError.codec (.signing (.tooLong 4 3))).Settled sampleClient.deployment .constant
      (some (.text "null")) := by
  have hcheck : sampleClient.deployment.validate .constant = .ok () := by
    refine Deployment.validate_eq_ok_iff.mpr ⟨⟨_, rfl, ?_, fun _ => rfl⟩, ⟨_, rfl, ?_, nofun⟩⟩
    · exact ⟨by decide +kernel, by decide +kernel, by decide +kernel⟩
    · exact ⟨by decide +kernel, by decide +kernel, by decide +kernel⟩
  have hlong : sampleClient.deployment.encode .constant (.text "null")
      = .error (.codec (.signing (.tooLong 4 3))) := by rfl
  have hclient : (ofDeployment sampleClient.deployment).validate .constant
      = ({ ofDeployment sampleClient.deployment with validated := true }, .ok ()) := by
    rw [Client.validate, ofDeployment, hcheck]
  have hfirst : (ofDeployment sampleClient.deployment).perform ⟨.constant, .validate⟩
      = ({ ofDeployment sampleClient.deployment with validated := true }, .ok .nothing) := by
    rw [perform]
    simp only [hclient]
    rfl
  have hassigns : ∀ step ∈ [Step.mk .constant .validate, ⟨.constant, .encode (.text "null")⟩],
      step.operation.assigns = false := by
    simp [Operation.assigns]
  obtain ⟨-, -, hsettled⟩ := validation_sufficient (d := sampleClient.deployment) rfl hassigns
  have hlater := hsettled [] ⟨.constant, .validate⟩ [⟨.constant, .encode (.text "null")⟩] rfl
    (.inl ⟨rfl, congrArg Prod.snd hfirst⟩) _ List.mem_cons_self
  refine ⟨rfl, hcheck, hlong, hlater _ ?_⟩
  rw [Report.result, Report.after, show (ofDeployment sampleClient.deployment).after []
    = ofDeployment sampleClient.deployment from rfl, hfirst]
  exact congrArg (Except.map Yield.encoded) hlong

end Client

end SealedRpc
