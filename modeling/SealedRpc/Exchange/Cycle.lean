import SealedRpc.Text.Basic

/-!
# Request cycles

The life of one request, from its encoding to its decoded response, as a small state
machine that keeps its history. A cycle may fail from every state that is not final, and
there is no way back: no retry, and nothing after a final state.

A cycle stores where it stands and where it has been one beside the other, and each move writes
both. That the two agree is no part of the type: it is a fact about runs.
-/

namespace SealedRpc

/-- Where a request stands. -/
inductive State where
  | idle
  | encoding
  | sent
  | awaitingResponse
  | decoded
  | failed
  deriving DecidableEq, Repr

namespace State

/-- All states in the order of a life. -/
def all : List State := [.idle, .encoding, .sent, .awaitingResponse, .decoded, .failed]

/-- The name of a state. -/
def name : State → String
  | .idle => "IDLE"
  | .encoding => "ENCODING"
  | .sent => "SENT"
  | .awaitingResponse => "AWAITING_RESPONSE"
  | .decoded => "DECODED"
  | .failed => "FAILED"

/-- The state with this name. -/
def ofName? (t : Text) : Option State :=
  all.find? fun s => Text.ofString s.name = t

/-- Whether a state is final. -/
def isTerminal : State → Bool
  | .decoded | .failed => true
  | _ => false

/-- Whether a cycle may move from one state to another: to the next one in order, or to
failure from every state that is not final. -/
def mayMove : State → State → Bool
  | .idle, .encoding => true
  | .encoding, .sent => true
  | .sent, .awaitingResponse => true
  | .awaitingResponse, .decoded => true
  | s, .failed => !s.isTerminal
  | _, _ => false

end State

/-- A move that a cycle does not allow. -/
structure InvalidTransition where
  source : State
  target : State
  deriving DecidableEq, Repr

/-- The words for a move that is not allowed. -/
def InvalidTransition.message (t : InvalidTransition) : Text :=
  "cannot move from " ++ Text.ofString t.source.name ++ " to " ++ t.target.name

/-- A cycle: the state that it is in, the states that have been recorded, the latest one last,
and the error that was recorded last. -/
structure Cycle (ε : Type) where
  state : State
  states : List State
  error : Option ε
  deriving Repr

namespace Cycle

variable {ε : Type}

/-- A cycle that starts in some state, which is the first one to be recorded. -/
def ofState (start : State) : Cycle ε := ⟨start, [start], none⟩

/-- The cycle of a new request. -/
def fresh : Cycle ε := ofState .idle

/-- Whether a cycle is over. -/
def isTerminal (c : Cycle ε) : Bool := c.state.isTerminal

/-- Moves a cycle to another state, and records it. -/
def advance (c : Cycle ε) (target : State) : Except InvalidTransition (Cycle ε) :=
  if c.state.mayMove target then .ok { c with state := target, states := c.states ++ [target] }
  else .error ⟨c.state, target⟩

/-- Records an error and moves a cycle to failure. The error is recorded first, and it
stays recorded when the move is not allowed. -/
def fail (c : Cycle ε) (error : ε) : Cycle ε × Option InvalidTransition :=
  let noted := { c with error := some error }
  match noted.advance .failed with
  | .ok moved => (moved, none)
  | .error t => (noted, some t)

/-- What can be asked of a cycle. -/
inductive Operation (ε : Type) where
  | advance (target : State)
  | fail (error : ε)

/-- Applies an operation; a move that is not allowed is named, and the cycle goes on. -/
def apply (c : Cycle ε) : Operation ε → Cycle ε × Option InvalidTransition
  | .advance target =>
      match c.advance target with
      | .ok moved => (moved, none)
      | .error t => (c, some t)
  | .fail error => c.fail error

/-- The state that an operation is to lead to. -/
def Operation.target : Operation ε → State
  | .advance target => target
  | .fail _ => .failed

/-- The error that an operation brings with it. -/
def Operation.error? : Operation ε → Option ε
  | .advance _ => none
  | .fail error => some error

/-- A cycle after some operations, one after the other. -/
def after (c : Cycle ε) (ops : List (Operation ε)) : Cycle ε :=
  ops.foldl (fun c op => (c.apply op).1) c

end Cycle

end SealedRpc
