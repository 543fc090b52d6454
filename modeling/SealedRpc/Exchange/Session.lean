import Mathlib.Logic.Function.Basic
import SealedRpc.Exchange.Run

/-!
# Calls under way at a time

A client may run any number of calls at a time. A call gives way to others only while it waits
for the network: up to its post it runs without a break, and so it does when it goes on with what
has come back. In between, other calls begin and finish, and answers arrive in any order.

A schedule is a list of such events, each of which names its call. All calls share the client,
and nothing is assigned to it meanwhile. Each call has a transport of its own, which says what its
post comes back with: as a call posts no more than once, this is any answer or any failure.
-/

namespace SealedRpc.Client

/-- A call that does not wait, as it is asked for. -/
structure Invocation where
  coins : Coins
  transport : Transport
  request : Value

namespace Invocation

/-- The way that the post of a call takes. -/
def via (call : Invocation) : Via := call.transport.asyncWay.1

/-- What the post of a call comes back with. -/
def outcome (call : Invocation) (encoded : EncodedRequest) : Except Http.Fault Http.Response :=
  (call.transport.asyncWay.2 encoded).outcome

variable [Json.NestingLimit]

/-- A call on its own. -/
def alone (call : Invocation) (c : Client) : Called :=
  c.callAsync call.coins call.transport call.request

end Invocation

/-- How far a call has come. Once it has begun, it knows its cycle by position. -/
inductive Stage where
  | idle
  | waiting (pending : Pending)
  | answered (pending : Pending) (outcome : Except Http.Fault Http.Response)
  | ended (ticket : Nat) (result : Except CallError Bytes)

/-- The position of the cycle of a call that has begun. -/
def Stage.ticket? : Stage → Option Nat
  | .idle => none
  | .waiting pending | .answered pending _ => some pending.ticket
  | .ended ticket _ => some ticket

/-- What a call that has ended returned or raised. -/
def Stage.result? : Stage → Option (Except CallError Bytes)
  | .ended _ result => some result
  | .idle | .waiting _ | .answered _ _ => none

/-- A client with its calls: how far each of them has come, and the posts that each has made. -/
structure Session (ι : Type) where
  client : Client
  stage : ι → Stage
  posts : ι → List (Via × EncodedRequest)

/-- Something that happens to a call: it begins, the answer to its post arrives, or it goes on
with the answer to its end. -/
inductive Event (ι : Type) where
  | begins (i : ι)
  | arrives (i : ι)
  | finishes (i : ι)

/-- The call that begins in an event. -/
def Event.begun? {ι : Type} : Event ι → Option ι
  | .begins i => some i
  | .arrives _ | .finishes _ => none

namespace Session

variable {ι : Type}

/-- The session of a client whose calls have not begun. -/
def start (c : Client) : Session ι := ⟨c, fun _ => .idle, fun _ => []⟩

/-- The cycle of a call. -/
def cycle? (s : Session ι) (i : ι) : Option (Cycle CallError) :=
  (s.stage i).ticket?.bind fun ticket => s.client.cycles[ticket]?

variable [DecidableEq ι]

variable [Json.NestingLimit]

/-- Begins a call, with its post unless the call fails before. -/
def begin (calls : ι → Invocation) (s : Session ι) (i : ι) : Session ι :=
  match s.client.begin (calls i).coins (calls i).request with
  | (client, .error e) =>
      { s with
        client
        stage := Function.update s.stage i (.ended s.client.cycles.length (.error e)) }
  | (client, .ok pending) =>
      { client
        stage := Function.update s.stage i (.waiting pending)
        posts := Function.update s.posts i (s.posts i ++ [((calls i).via, pending.encoded)]) }

/-- Goes on with a call whose post was answered. -/
def finish (calls : ι → Invocation) (s : Session ι) (i : ι) (pending : Pending)
    (outcome : Except Http.Fault Http.Response) : Session ι :=
  let (client, result) := s.client.finish (calls i).coins pending outcome
  { s with client, stage := Function.update s.stage i (.ended pending.ticket result) }

/-- The session after an event, if the call has come just as far as the event needs. -/
def next? (calls : ι → Invocation) (s : Session ι) : Event ι → Option (Session ι)
  | .begins i =>
      match s.stage i with
      | .idle => some (s.begin calls i)
      | _ => none
  | .arrives i =>
      match s.stage i with
      | .waiting pending =>
          let answered := .answered pending ((calls i).outcome pending.encoded)
          some { s with stage := Function.update s.stage i answered }
      | _ => none
  | .finishes i =>
      match s.stage i with
      | .answered pending outcome => some (s.finish calls i pending outcome)
      | _ => none

/-- The session after a schedule, if all of its events can happen. -/
def run? (calls : ι → Invocation) (s : Session ι) : List (Event ι) → Option (Session ι)
  | [] => some s
  | event :: rest => (s.next? calls event).bind fun t => t.run? calls rest

end Session

end SealedRpc.Client
