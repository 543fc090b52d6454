import SealedRpc.Exchange.Client

/-!
# Runs of a client

What an application may ask of a client, one operation after the other: to check its keys, to
encode a request or decode a response, to run a call, or to go on with another key, scheme or
framing. A run is a list of such steps, and every step leaves a report.

Nothing is checked again because of an assignment: keys that have passed once count as checked,
whatever is set after that.

## Main results

* `callAsync_eq_callVia`: a call that does not wait is a call over the way that its transport
  offers for it.
* `after_append`: a run in two parts goes on where the first part ended.
* `mem_reports_iff`: the reports of a run are those of its steps, each asked of the client that
  the steps before it led to.
-/

namespace SealedRpc

/-- A change to the deployment of a client that is in use. -/
inductive Assignment where
  | requestKey (key : Option Key)
  | responseKey (key : Option Key)
  | scheme (s : Scheme)
  | framing (f : Framing)
  | decoding (way : ResponseDecoding)
  | expectedKeySize (size : ExpectedSize)
  | workers (setting : WorkerSetting)

/-- A deployment with one attribute assigned. -/
def Assignment.apply (d : Deployment) : Assignment → Deployment
  | .requestKey key => { d with requestKey := key }
  | .responseKey key => { d with responseKey := key }
  | .scheme s => { d with scheme := s }
  | .framing f => { d with framing := f }
  | .decoding way => { d with decoding := way }
  | .expectedKeySize size => { d with expectedKeySize := size }
  | .workers setting => { d with workers := setting }

namespace Client

/-- The way of posting for callers that do not wait: the second way, if there is one. -/
def Transport.asyncWay (transport : Transport) : Via × (EncodedRequest → Http.Delivery) :=
  match transport.postAsync? with
  | some post => (.postAsync, post)
  | none => (.post, transport.post)

variable [Json.NestingLimit]

/-- A call that does not wait is a call over the way that its transport offers for it. -/
theorem callAsync_eq_callVia (c : Client) (coins : Coins) (transport : Transport)
    (request : Value) : c.callAsync coins transport request
      = c.callVia coins transport.asyncWay.1 transport.asyncWay.2 request := by
  rw [callAsync, Transport.asyncWay]
  cases transport.postAsync? <;> rfl

/-- What can be asked of a client. -/
inductive Operation where
  | validate
  | encode (request : Value)
  | decode (status : Int) (body : Bytes)
  | call (transport : Transport) (request : Value)
  | callAsync (transport : Transport) (request : Value)
  | callJson (transport : Transport) (request : Value)
  | assign (assignment : Assignment)

/-- Whether an operation assigns an attribute. -/
def Operation.assigns : Operation → Bool
  | .assign _ => true
  | _ => false

/-- The request that an operation is about. -/
def Operation.request? : Operation → Option Value
  | .encode request | .call _ request | .callAsync _ request | .callJson _ request => some request
  | _ => none

/-- The way that the post of an operation takes, if the operation is a call. -/
def Operation.via? : Operation → Option Via
  | .call _ _ | .callJson _ _ => some .post
  | .callAsync transport _ => some transport.asyncWay.1
  | _ => none

/-- What an operation gives back. -/
inductive Yield where
  | nothing
  | encoded (request : EncodedRequest)
  | plaintext (octets : Bytes)
  | json (value : Json)

/-- An operation, with the random choices that are made for it. -/
structure Step where
  coins : Coins
  operation : Operation

/-- The call that a step runs, if it runs one. -/
def called? (c : Client) (step : Step) : Option Called :=
  match step.operation with
  | .call transport request | .callJson transport request =>
      some (c.call step.coins transport request)
  | .callAsync transport request => some (c.callAsync step.coins transport request)
  | _ => none

/-- Takes a step: the client after it, and what it gives back. -/
def perform (c : Client) (step : Step) : Client × Except CallError Yield :=
  match step.operation with
  | .validate =>
      let (client, result) := c.validate step.coins
      (client, result.map fun _ => .nothing)
  | .encode request => (c, (c.deployment.encode step.coins request).map .encoded)
  | .decode status body => (c, (c.deployment.decode step.coins status body).map .plaintext)
  | .call transport request =>
      let called := c.call step.coins transport request
      (called.client, called.result.map .plaintext)
  | .callAsync transport request =>
      let called := c.callAsync step.coins transport request
      (called.client, called.result.map .plaintext)
  | .callJson transport request =>
      let called := c.call step.coins transport request
      (called.client, called.json.map .json)
  | .assign assignment => ({ c with deployment := assignment.apply c.deployment }, .ok .nothing)

/-- The client after a run. -/
def after (c : Client) (steps : List Step) : Client :=
  steps.foldl (fun client step => (client.perform step).1) c

/-- A step of a run, with the client that it was asked of. -/
structure Report where
  before : Client
  step : Step

namespace Report

/-- The client after the step. -/
def after (r : Report) : Client := (r.before.perform r.step).1

/-- What the step gave back. -/
def result (r : Report) : Except CallError Yield := (r.before.perform r.step).2

/-- The call that the step ran, if it ran one. -/
def called? (r : Report) : Option Called := r.before.called? r.step

/-- The posts that the step made. -/
def posts (r : Report) : List (Via × EncodedRequest) :=
  match r.called? with
  | some called => called.posts
  | none => []

end Report

/-- The reports of a run. -/
def reports (c : Client) : List Step → List Report
  | [] => []
  | step :: rest => ⟨c, step⟩ :: (c.perform step).1.reports rest

/-- A run in two parts goes on where the first part ended. -/
theorem after_append (c : Client) (steps more : List Step) :
    c.after (steps ++ more) = (c.after steps).after more :=
  List.foldl_append

/-- The reports of a run are those of its steps, each asked of the client that the steps before
it led to. -/
theorem mem_reports_iff {c : Client} {steps : List Step} {r : Report} :
    r ∈ c.reports steps ↔
      ∃ earlier later, steps = earlier ++ r.step :: later ∧ r.before = c.after earlier := by
  induction steps generalizing c with
  | nil => simp [reports]
  | cons step rest ih =>
      rw [reports, List.mem_cons, ih]
      constructor
      · rintro (rfl | ⟨earlier, later, rfl, hbefore⟩)
        · exact ⟨[], rest, rfl, rfl⟩
        · exact ⟨step :: earlier, later, rfl, hbefore⟩
      · rintro ⟨earlier, later, hsteps, hbefore⟩
        cases earlier with
        | nil =>
            obtain ⟨rfl, rfl⟩ := List.cons.inj hsteps
            obtain ⟨before, _⟩ := r
            exact .inl (congrArg (Report.mk · _) hbefore)
        | cons first earlier =>
            obtain ⟨rfl, rfl⟩ := List.cons.inj hsteps
            exact .inr ⟨earlier, later, rfl, hbefore⟩

end Client

end SealedRpc
