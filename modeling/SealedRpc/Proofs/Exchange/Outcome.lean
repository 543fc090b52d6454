import SealedRpc.Exchange.Run
import SealedRpc.Proofs.Exchange.Failure

/-!
# Outcomes, cycles and posts agree

A call adds one cycle to its client, and what it posts, what it ends with and what its cycle went
through always fit together. There are four ways: the keys do not pass, the request is not encoded,
the transport or the response fails, or the response is decoded. Only the last two make a post,
and they make one.

This is a statement about one call of any client. A run adds nothing to it but the order: the
cycles of a client are those of its calls, none is touched again, and operations that are no
calls leave them alone.

## Main results

* `begins_begin`, `exists_ends_callVia`: the ways in which a call begins and ends.
* `Ends.agrees`: each of them leaves a cycle that agrees with the posts and the outcome.
* `cycles_after`: the cycles after a run are those of its calls, in order.
* `outcome_cycle_posts_agree`: all of this for every call of every run.
-/

namespace SealedRpc

/-! ### Failures that no cycle raises -/

/-- A failure that is no move out of order. -/
def CallError.IsNoTransition (e : CallError) : Prop :=
  ∀ t, e ≠ .transition t

/-- A fault of a request is no move out of order. -/
theorem CallError.isNoTransition_ofRequestFault (fault : RequestFault) :
    (CallError.ofRequestFault fault).IsNoTransition := by
  intro t
  unfold ofRequestFault
  split <;> exact nofun

namespace Deployment

variable {d : Deployment} {coins : Coins}

/-- Checking keys drives no cycle. -/
theorem isNoTransition_validate :
    Except.FailsWith CallError.IsNoTransition (d.validate coins) := by
  have hcodec : ∀ x : Except CodecError Unit,
      Except.FailsWith CallError.IsNoTransition (x.mapError .codec) :=
    fun x => Except.FailsWith.mapError fun _ _ => nofun
  unfold validate
  refine (failsWith_need fun _ => nofun).bind fun requestKey _ => ?_
  refine (hcodec _).bind fun _ _ => ?_
  refine (failsWith_need fun _ => nofun).bind fun responseKey _ => ?_
  refine (hcodec _).bind fun _ _ => ?_
  refine Except.FailsWith.ite_error_bind nofun ?_
  split
  · exact Except.failsWith_error nofun
  · exact Except.failsWith_ok _

/-- Encoding drives no cycle. -/
theorem isNoTransition_encode [Json.NestingLimit] (request : Value) :
    Except.FailsWith CallError.IsNoTransition (d.encode coins request) := by
  refine failsWith_encode CallError.isNoTransition_ofRequestFault nofun (fun _ => nofun) ?_ ?_
  · exact fun data key _ =>
      failsWith_encrypt (fun _ _ _ => nofun) (fun _ _ => nofun) (fun _ => nofun)
  · exact fun text octets key _ _ _ _ _ _ => nofun

/-- Decoding drives no cycle. -/
theorem isNoTransition_decode (status : Int) (body : Bytes) :
    Except.FailsWith CallError.IsNoTransition (d.decode coins status body) := by
  refine failsWith_decode nofun (fun _ _ => nofun) (fun _ => nofun) (fun key _ _ _ => nofun) ?_
  exact fun key _ _ => failsWith_decrypt (fun _ _ _ => nofun) (fun _ _ => nofun)
    (fun _ => nofun) (fun _ => nofun)

end Deployment

namespace Client

variable {c : Client} {coins : Coins} {request : Value} {via : Via}

/-! ### The beginning of a call -/

/-- Whether a call comes to encoding its request: the keys have been checked, or they pass
now. -/
def Admits (c : Client) (coins : Coins) : Prop :=
  c.validated = true ∨ c.deployment.validate coins = .ok ()

/-- The cycle of a call that failed after these moves. -/
def failedAfter (moves : List State) (e : CallError) : Cycle CallError :=
  ⟨.failed, .idle :: (moves ++ [.failed]), some e⟩

section

variable [Json.NestingLimit]

/-- A call whose keys do not pass fails before its request is encoded. -/
theorem begin_of_refused {e : CallError} (hnot : ¬ c.Admits coins)
    (hcheck : c.deployment.validate coins = .error e) (request : Value) :
    c.begin coins request = ({ c with cycles := c.cycles ++ [failedAfter [] e] }, .error e) := by
  have hvalidated : c.validated = false := Bool.eq_false_iff.mpr fun h => hnot (.inl h)
  rw [begin, prepare, hvalidated, hcheck]
  rfl

/-- A call whose request is not encoded fails after its keys have passed. -/
theorem begin_of_unencoded {e : CallError} (hadmits : c.Admits coins)
    (hencode : c.deployment.encode coins request = .error e) :
    c.begin coins request
      = ({ c with validated := true, cycles := c.cycles ++ [failedAfter [.encoding] e] },
          .error e) := by
  have hcheck : (if c.validated then .ok () else c.deployment.validate coins) = .ok () := by
    split
    · rfl
    · exact hadmits.resolve_left ‹_›
  rw [begin, prepare, hcheck, hencode]
  rfl

/-- A call whose request is encoded waits for its response. -/
theorem begin_of_encoded {encoded : EncodedRequest} (hadmits : c.Admits coins)
    (hencode : c.deployment.encode coins request = .ok encoded) :
    c.begin coins request
      = ({ c with validated := true, cycles := c.cycles ++ [waiting] },
          .ok ⟨c.cycles.length, encoded⟩) := by
  rw [begin, prepare_of_ok hadmits hencode]

/-- The ways in which a call begins: the keys do not pass, the request is not encoded, or the
call waits for its response. -/
inductive Begins (c : Client) (coins : Coins) (request : Value) :
    Client × Except CallError Pending → Prop
  | refused {e : CallError} (hnot : ¬ c.Admits coins)
      (hcheck : c.deployment.validate coins = .error e) :
      Begins c coins request ({ c with cycles := c.cycles ++ [failedAfter [] e] }, .error e)
  | unencoded {e : CallError} (hadmits : c.Admits coins)
      (hencode : c.deployment.encode coins request = .error e) :
      Begins c coins request
        ({ c with validated := true, cycles := c.cycles ++ [failedAfter [.encoding] e] }, .error e)
  | waits {encoded : EncodedRequest} (hadmits : c.Admits coins)
      (hencode : c.deployment.encode coins request = .ok encoded) :
      Begins c coins request
        ({ c with validated := true, cycles := c.cycles ++ [waiting] },
          .ok ⟨c.cycles.length, encoded⟩)

/-- Every call begins in one of these ways. -/
theorem begins_begin (c : Client) (coins : Coins) (request : Value) :
    Begins c coins request (c.begin coins request) := by
  by_cases hadmits : c.Admits coins
  · cases hencode : c.deployment.encode coins request with
    | error e =>
        rw [begin_of_unencoded hadmits hencode]
        exact .unencoded hadmits hencode
    | ok encoded =>
        rw [begin_of_encoded hadmits hencode]
        exact .waits hadmits hencode
  · cases hcheck : c.deployment.validate coins with
    | ok _ => exact absurd (.inr hcheck) hadmits
    | error e =>
        rw [begin_of_refused hadmits hcheck]
        exact .refused hadmits hcheck

end

/-! ### The end of a call -/

/-- The ways in which a call ends: the cycle that it leaves, the posts that it made, and its
result. -/
inductive Ends (via : Via) :
    Cycle CallError → List (Via × EncodedRequest) → Except CallError Bytes → Prop
  | refused {e : CallError} (he : e.IsNoTransition) : Ends via (failedAfter [] e) [] (.error e)
  | unencoded {e : CallError} (he : e.IsNoTransition) :
      Ends via (failedAfter [.encoding] e) [] (.error e)
  | failed {e : CallError} (encoded : EncodedRequest) (he : e.IsNoTransition) :
      Ends via (failedAfter [.encoding, .sent, .awaitingResponse] e) [(via, encoded)] (.error e)
  | returned (encoded : EncodedRequest) (plaintext : Bytes) :
      Ends via done [(via, encoded)] (.ok plaintext)

/-- What the transport and the response of a waiting call come to. -/
def decoded (d : Deployment) (coins : Coins) (outcome : Except Http.Fault Http.Response) :
    Except CallError Bytes :=
  match outcome with
  | .error fault => .error (.fault fault)
  | .ok response => d.decode coins response.status response.body

/-- Nothing that a waiting call comes to is a move out of order. -/
theorem isNoTransition_decoded {d : Deployment} (outcome : Except Http.Fault Http.Response) :
    Except.FailsWith CallError.IsNoTransition (decoded d coins outcome) := by
  cases outcome with
  | error fault => exact Except.failsWith_error nofun
  | ok response => exact d.isNoTransition_decode response.status response.body

/-- A waiting call fails with what it comes to. -/
theorem conclude_of_error {d : Deployment} {outcome : Except Http.Fault Http.Response}
    {e : CallError} (h : decoded d coins outcome = .error e) :
    conclude d coins waiting outcome
      = (failedAfter [.encoding, .sent, .awaitingResponse] e, .error e) := by
  cases outcome with
  | error fault =>
      cases h
      rfl
  | ok response =>
      rw [decoded] at h
      simp only [conclude, h]
      rfl

/-- A waiting call returns what it comes to. -/
theorem conclude_of_decoded {d : Deployment} {outcome : Except Http.Fault Http.Response}
    {plaintext : Bytes} (h : decoded d coins outcome = .ok plaintext) :
    conclude d coins waiting outcome = (done, .ok plaintext) := by
  cases outcome with
  | error fault => cases h
  | ok response => exact conclude_of_ok h

/-- A call that waits is the last of its client, and finishing it puts its cycle in place. -/
theorem finish_waits (c : Client) (coins : Coins) (encoded : EncodedRequest)
    (outcome : Except Http.Fault Http.Response) :
    finish { c with validated := true, cycles := c.cycles ++ [waiting] } coins
        ⟨c.cycles.length, encoded⟩ outcome
      = ({ c with
            validated := true
            cycles := c.cycles ++ [(conclude c.deployment coins waiting outcome).1] },
          (conclude c.deployment coins waiting outcome).2) := by
  have hcycle : (c.cycles ++ [waiting])[c.cycles.length]? = some waiting := by
    rw [List.getElem?_append_right (Nat.le_refl _), Nat.sub_self]
    rfl
  simp only [finish, hcycle, Option.getD_some]
  rw [List.set_append_right _ _ (Nat.le_refl _), Nat.sub_self]
  rfl

/-- Every call ends in one of these ways, and adds its cycle to the client. -/
theorem exists_ends_callVia [Json.NestingLimit] (c : Client) (coins : Coins) (via : Via)
    (post : EncodedRequest → Http.Delivery) (request : Value) :
    ∃ validated cycle,
      (c.callVia coins via post request).client
          = { c with validated, cycles := c.cycles ++ [cycle] } ∧
        Ends via cycle (c.callVia coins via post request).posts
          (c.callVia coins via post request).result := by
  have hbegins := begins_begin c coins request
  rw [callVia]
  generalize c.begin coins request = begun at hbegins
  cases hbegins with
  | refused hnot hcheck =>
      exact ⟨c.validated, _, rfl, .refused (c.deployment.isNoTransition_validate _ hcheck)⟩
  | unencoded hadmits hencode =>
      exact ⟨true, _, rfl, .unencoded (c.deployment.isNoTransition_encode request _ hencode)⟩
  | @waits encoded hadmits hencode =>
      refine ⟨true, (conclude c.deployment coins waiting (post encoded).outcome).1, ?_, ?_⟩
      · simp only [finish_waits]
      · simp only [finish_waits]
        cases hdecoded : decoded c.deployment coins (post encoded).outcome with
        | error e =>
            rw [conclude_of_error hdecoded]
            exact .failed encoded (isNoTransition_decoded _ _ hdecoded)
        | ok plaintext =>
            rw [conclude_of_decoded hdecoded]
            exact .returned encoded plaintext

/-! ### Agreement -/

/-- A cycle, the posts and the result of a call that fit together. The call returns exactly if
its cycle was decoded, and it raises an error exactly if its cycle failed with that error; the
history is one of four. It posted once if the request left and never otherwise, and it was never
stopped by its own cycle. -/
structure Agrees (via : Via) (cycle : Cycle CallError) (posts : List (Via × EncodedRequest))
    (result : Except CallError Bytes) : Prop where
  terminal : cycle.isTerminal = true
  returns_iff : (∃ plaintext, result = .ok plaintext) ↔ cycle.state = .decoded ∧
    cycle.states = [.idle, .encoding, .sent, .awaitingResponse, .decoded]
  raises_iff : ∀ e, result = .error e ↔ cycle.state = .failed ∧ cycle.error = some e ∧
    cycle.states ∈ [[.idle, .failed], [.idle, .encoding, .failed],
      [.idle, .encoding, .sent, .awaitingResponse, .failed]]
  posted : State.sent ∈ cycle.states → ∃ encoded, posts = [(via, encoded)]
  unposted : State.sent ∉ cycle.states → posts = []
  noTransition : ∀ t, result ≠ .error (.transition t)

/-- A failed cycle agrees with the failure and with no post, or with one post if the request
had left. -/
theorem agrees_failedAfter {moves : List State} {e : CallError}
    {posts : List (Via × EncodedRequest)} (he : e.IsNoTransition)
    (hstates : State.idle :: (moves ++ [.failed]) ∈ [[.idle, .failed], [.idle, .encoding, .failed],
      [.idle, .encoding, .sent, .awaitingResponse, .failed]])
    (hposted : State.sent ∈ moves → ∃ encoded, posts = [(via, encoded)])
    (hunposted : State.sent ∉ moves → posts = []) :
    Agrees via (failedAfter moves e) posts (.error e) := by
  have hstate : (failedAfter moves e).state = .failed := rfl
  have hsent : State.sent ∈ (failedAfter moves e).states ↔ State.sent ∈ moves := by
    simp [failedAfter]
  refine ⟨rfl, ?_, ?_, ?_, ?_, ?_⟩
  · simp [hstate]
  · intro e'
    rw [hstate]
    constructor
    · rintro ⟨⟩
      exact ⟨rfl, rfl, hstates⟩
    · rintro ⟨-, herror, -⟩
      exact congrArg Except.error (Option.some.inj herror)
  · exact fun h => hposted (hsent.mp h)
  · exact fun h => hunposted fun h' => h (hsent.mpr h')
  · intro t h
    exact he t (Except.error.inj h)

/-- However a call ends, its cycle, its posts and its result fit together. -/
theorem Ends.agrees {cycle : Cycle CallError} {posts : List (Via × EncodedRequest)}
    {result : Except CallError Bytes} (h : Ends via cycle posts result) :
    Agrees via cycle posts result := by
  cases h with
  | refused he => exact agrees_failedAfter he (by simp) nofun fun _ => rfl
  | unencoded he => exact agrees_failedAfter he (by simp) (by simp) fun _ => rfl
  | failed encoded he =>
      exact agrees_failedAfter he (by simp) (fun _ => ⟨encoded, rfl⟩) fun h => absurd (by simp) h
  | returned encoded plaintext =>
      refine ⟨rfl, ⟨fun _ => ⟨rfl, rfl⟩, fun _ => ⟨plaintext, rfl⟩⟩, ?_, fun _ => ⟨encoded, rfl⟩,
        fun h => absurd (by decide) h, fun t => nofun⟩
      intro e
      constructor
      · exact nofun
      · rintro ⟨hstate, -⟩
        exact absurd hstate (by decide)

/-! ### Runs -/

section

variable [Json.NestingLimit]

/-- The cycle that the call of a report leaves. -/
def Report.cycle? (r : Report) : Option (Cycle CallError) :=
  r.called?.bind fun called => called.client.lastCycle?

omit [Json.NestingLimit] in
/-- Checking keys leaves the cycles of a client alone. -/
theorem cycles_validate (c : Client) (coins : Coins) :
    (c.validate coins).1.cycles = c.cycles := by
  rw [validate]
  split <;> rfl

/-- An operation that is no call runs none, and leaves the cycles of the client alone. -/
theorem cycles_perform_of_no_call {step : Step} (h : step.operation.via? = none) :
    c.called? step = none ∧ (c.perform step).1.cycles = c.cycles := by
  obtain ⟨coins, operation⟩ := step
  cases operation with
  | validate => exact ⟨rfl, c.cycles_validate coins⟩
  | encode request => exact ⟨rfl, rfl⟩
  | decode status body => exact ⟨rfl, rfl⟩
  | assign assignment => exact ⟨rfl, rfl⟩
  | call transport request => cases h
  | callAsync transport request => cases h
  | callJson transport request => cases h

/-- What an operation gives back of the call that it ran. -/
def Operation.yield (operation : Operation) (called : Called) : Except CallError Yield :=
  match operation with
  | .callJson _ _ => called.json.map .json
  | _ => called.result.map .plaintext

/-- An operation that is a call runs one call over its way of posting, and gives back what came
of it. -/
theorem exists_called_of_call {step : Step} (h : step.operation.via? = some via) :
    ∃ post request, step.operation.request? = some request ∧
      c.called? step = some (c.callVia step.coins via post request) ∧
      c.perform step = ((c.callVia step.coins via post request).client,
        step.operation.yield (c.callVia step.coins via post request)) := by
  obtain ⟨coins, operation⟩ := step
  cases operation with
  | validate => cases h
  | encode request => cases h
  | decode status body => cases h
  | assign assignment => cases h
  | call transport request =>
      obtain rfl := Option.some.inj h
      exact ⟨transport.post, request, rfl, rfl, rfl⟩
  | callAsync transport request =>
      obtain rfl := Option.some.inj h
      refine ⟨transport.asyncWay.2, request, rfl, ?_, ?_⟩
      · exact congrArg some (c.callAsync_eq_callVia coins transport request)
      · rw [← c.callAsync_eq_callVia]
        rfl
  | callJson transport request =>
      obtain rfl := Option.some.inj h
      exact ⟨transport.post, request, rfl, rfl, rfl⟩

/-- A call adds its cycle to those of the client, and the cycle agrees with what the call did. -/
theorem exists_agrees_of_call {step : Step} (h : step.operation.via? = some via) :
    ∃ called cycle, c.called? step = some called ∧
      c.perform step = (called.client, step.operation.yield called) ∧
      called.client.cycles = c.cycles ++ [cycle] ∧
      called.client.lastCycle? = some cycle ∧
      Agrees via cycle called.posts called.result := by
  obtain ⟨post, request, -, hcalled, hperform⟩ := c.exists_called_of_call h
  obtain ⟨validated, cycle, hclient, hends⟩ := c.exists_ends_callVia step.coins via post request
  refine ⟨_, cycle, hcalled, hperform, ?_, ?_, hends.agrees⟩
  · rw [hclient]
  · rw [hclient, lastCycle?, List.getLast?_concat]

/-- What checking the keys, encoding, decoding, the transport and reading JSON fail with, a call
fails with. -/
theorem failsWith_callVia {P : CallError → Prop} (post : EncodedRequest → Http.Delivery)
    (hvalidate : Except.FailsWith P (c.deployment.validate coins))
    (hencode : Except.FailsWith P (c.deployment.encode coins request))
    (hdecode : ∀ status body, Except.FailsWith P (c.deployment.decode coins status body))
    (hfault : ∀ fault, P (.fault fault)) :
    Except.FailsWith P (c.callVia coins via post request).result := by
  have hbegins := begins_begin c coins request
  rw [callVia]
  generalize c.begin coins request = begun at hbegins
  cases hbegins with
  | refused hnot hcheck => exact Except.failsWith_error (hvalidate _ hcheck)
  | unencoded hadmits hfails => exact Except.failsWith_error (hencode _ hfails)
  | @waits encoded hadmits hencoded =>
      simp only [finish_waits]
      cases hdecoded : decoded c.deployment coins (post encoded).outcome with
      | ok plaintext =>
          rw [conclude_of_decoded hdecoded]
          exact Except.failsWith_ok plaintext
      | error e =>
          rw [conclude_of_error hdecoded]
          refine Except.failsWith_error ?_
          cases houtcome : (post encoded).outcome with
          | error fault =>
              rw [houtcome] at hdecoded
              exact Except.error.inj hdecoded ▸ hfault fault
          | ok response =>
              rw [houtcome] at hdecoded
              exact hdecode _ _ _ hdecoded

/-- What checking the keys, encoding, decoding, the transport and reading JSON fail with, every
operation fails with. -/
theorem failsWith_perform {P : CallError → Prop} {step : Step}
    (hvalidate : Except.FailsWith P (c.deployment.validate step.coins))
    (hencode : ∀ request, step.operation.request? = some request →
      Except.FailsWith P (c.deployment.encode step.coins request))
    (hdecode : ∀ status body, Except.FailsWith P (c.deployment.decode step.coins status body))
    (hfault : ∀ fault, P (.fault fault)) (hundecodable : P .undecodable)
    (hjson : ∀ fault, P (.malformedJson fault)) : Except.FailsWith P (c.perform step).2 := by
  cases hvia : step.operation.via? with
  | some via =>
      obtain ⟨post, request, hrequest, -, hperform⟩ := c.exists_called_of_call hvia
      have hresult : Except.FailsWith P (c.callVia step.coins via post request).result :=
        failsWith_callVia post hvalidate (hencode request hrequest) hdecode hfault
      rw [hperform, Operation.yield.eq_def]
      split
      · refine Except.FailsWith.map (hresult.bind fun plaintext _ => ?_) _
        unfold readJson
        split
        · exact Except.failsWith_error hundecodable
        · exact Except.FailsWith.mapError fun fault _ => hjson fault
      · exact hresult.map _
  | none =>
      obtain ⟨coins, operation⟩ := step
      cases operation with
      | validate =>
          have hclient : Except.FailsWith P (c.validate coins).2 := by
            rw [validate]
            split
            · exact Except.failsWith_ok ()
            · exact Except.failsWith_error (hvalidate _ ‹_›)
          exact hclient.map _
      | encode request => exact (hencode request rfl).map _
      | decode status body => exact (hdecode status body).map _
      | assign assignment => exact Except.failsWith_ok _
      | call transport request => cases hvia
      | callAsync transport request => cases hvia
      | callJson transport request => cases hvia

/-- No operation raises a move out of order. -/
theorem isNoTransition_perform (c : Client) (step : Step) :
    Except.FailsWith CallError.IsNoTransition (c.perform step).2 :=
  failsWith_perform c.deployment.isNoTransition_validate
    (fun request _ => c.deployment.isNoTransition_encode request)
    c.deployment.isNoTransition_decode (fun _ => nofun) nofun (fun _ => nofun)

/-- The cycles after a step are those before it and the one of its call, if it ran one. -/
theorem cycles_perform (c : Client) (step : Step) :
    (c.perform step).1.cycles = c.cycles ++ (Report.cycle? ⟨c, step⟩).toList := by
  cases hvia : step.operation.via? with
  | none =>
      obtain ⟨hcalled, hcycles⟩ := c.cycles_perform_of_no_call hvia
      rw [hcycles, Report.cycle?, Report.called?, hcalled]
      exact (List.append_nil _).symm
  | some via =>
      obtain ⟨called, cycle, hcalled, hperform, hcycles, hlast, -⟩ := c.exists_agrees_of_call hvia
      rw [hperform, hcycles, Report.cycle?, Report.called?, hcalled, Option.bind_some, hlast]
      rfl

/-- The cycles after a run are those before it and those of its calls in order: no step touches
the cycle of an earlier call. -/
theorem cycles_after (c : Client) (steps : List Step) :
    (c.after steps).cycles = c.cycles ++ (c.reports steps).filterMap Report.cycle? := by
  induction steps generalizing c with
  | nil => exact (List.append_nil _).symm
  | cons step rest ih =>
      have hrest : (c.after (step :: rest)).cycles = (c.perform step).1.cycles
          ++ ((c.perform step).1.reports rest).filterMap Report.cycle? := ih _
      rw [hrest, cycles_perform, List.append_assoc, reports, List.filterMap_cons]
      cases Report.cycle? ⟨c, step⟩ <;> rfl

/-- A call and a call that does not wait come to the same result and leave the client with the
same cycle, if their ways of posting come to the same for the request. -/
theorem callAsync_agrees_call {transport transport' : Transport}
    (hsame : ∀ encoded, c.deployment.encode coins request = .ok encoded →
      (transport'.asyncWay.2 encoded).outcome = (transport.post encoded).outcome) :
    (c.callAsync coins transport' request).result = (c.call coins transport request).result ∧
      (c.callAsync coins transport' request).client = (c.call coins transport request).client := by
  have hbegins := begins_begin c coins request
  rw [callAsync_eq_callVia, call, callVia, callVia]
  generalize c.begin coins request = begun at hbegins
  cases hbegins with
  | refused hnot hcheck => exact ⟨rfl, rfl⟩
  | unencoded hadmits hencode => exact ⟨rfl, rfl⟩
  | waits hadmits hencode =>
      simp only [hsame _ hencode]
      exact ⟨trivial, trivial⟩

/-- **Outcomes, cycles and posts agree.** In every run of a client, whatever is asked of it,
whatever is assigned in between and whatever its transports come back with, the cycles are those
of the calls in order. Each call adds one cycle, the last then, which agrees with the posts that
the call made over its way of posting and with what it returned or raised; everything else posts
nothing and adds no cycle, and nothing raises a move out of order. At every point of the run a
call and a call that does not wait come to the same result and the same client, whenever the
transport comes to the same for the request. -/
theorem outcome_cycle_posts_agree (c : Client) (steps : List Step) :
    (c.after steps).cycles = c.cycles ++ (c.reports steps).filterMap Report.cycle? ∧
    (∀ r ∈ c.reports steps, r.step.operation.via? = none →
      r.posts = [] ∧ r.after.cycles = r.before.cycles) ∧
    (∀ r ∈ c.reports steps, ∀ t, r.result ≠ .error (.transition t)) ∧
    (∀ r ∈ c.reports steps, ∀ via ∈ r.step.operation.via?, ∃ called cycle,
      r.called? = some called ∧ r.result = r.step.operation.yield called ∧
        r.after.cycles = r.before.cycles ++ [cycle] ∧ r.after.lastCycle? = some cycle ∧
        Agrees via cycle r.posts called.result) ∧
    ∀ (coins : Coins) (request : Value) (transport transport' : Transport),
      (∀ encoded, (c.after steps).deployment.encode coins request = .ok encoded →
        (transport'.asyncWay.2 encoded).outcome = (transport.post encoded).outcome) →
      ((c.after steps).callAsync coins transport' request).result
          = ((c.after steps).call coins transport request).result ∧
        ((c.after steps).callAsync coins transport' request).client
          = ((c.after steps).call coins transport request).client := by
  refine ⟨c.cycles_after steps, fun r _ hvia => ?_, fun r _ t ht => ?_, fun r _ via hvia => ?_, ?_⟩
  · obtain ⟨hcalled, hcycles⟩ := r.before.cycles_perform_of_no_call hvia
    refine ⟨?_, hcycles⟩
    rw [Report.posts, Report.called?, hcalled]
  · exact r.before.isNoTransition_perform r.step _ ht t rfl
  · obtain ⟨called, cycle, hcalled, hperform, hcycles, hlast, hagrees⟩ :=
      r.before.exists_agrees_of_call hvia
    refine ⟨called, cycle, hcalled, ?_, ?_, ?_, ?_⟩
    · rw [Report.result, hperform]
    · rw [Report.after, hperform, hcycles]
    · rw [Report.after, hperform, hlast]
    · rw [Report.posts, Report.called?, hcalled]
      exact hagrees
  · intro coins request transport transport' hsame
    exact callAsync_agrees_call hsame

end

end Client

end SealedRpc
