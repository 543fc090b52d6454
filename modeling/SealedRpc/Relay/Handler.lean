import SealedRpc.Http.Exchange
import SealedRpc.Value

/-!
# Handlers

What serves a decoded request: a handler takes the request as a value and returns a value.
One handler returns what it got, for tests of a set-up; another one forwards the request
to a service behind the relay and passes its answer on.
-/

namespace SealedRpc.Relay

/-- Why a service behind the relay gave no answer that can be passed on. -/
inductive BackendFault where
  | unreachable (error : Http.TransportError)
  | status (code : Int)
  | malformedReply
  | reported (text : Text)
  deriving DecidableEq, Repr

/-- The words for a fault. -/
def BackendFault.message : BackendFault → Text
  | .unreachable error => "wallet service unreachable: " ++ error.message
  | .status code => "wallet service returned status " ++ Text.ofInt code
  | .malformedReply => "wallet service returned invalid JSON"
  | .reported text => text

/-- What a handler ends with instead of a value. Only the first is a failure that the
relay expects. -/
inductive HandlerFault where
  | backend (fault : BackendFault)
  /-- The request has no JSON text. -/
  | unserializable (cause : Unserializable)
  /-- The text of the request has no UTF-8 form. -/
  | unencodable
  /-- The reply nests too deeply to be read. -/
  | tooDeep
  /-- The request is no mapping. -/
  | notMapping
  | fault (fault : Http.Fault)
  deriving Repr

/-- A fault of the network as a fault of a handler. -/
def HandlerFault.ofFault : Http.Fault → HandlerFault
  | .backend text => .backend (.reported text)
  | other => .fault other

/-- What a handler did: what it sent, and how it ended. -/
structure Handled where
  sent : List Http.Request
  result : Except HandlerFault Value

/-- A handler. It sees the network that lies behind the relay. -/
abbrev Handler := Http.Network → Value → Handled

namespace Handler

/-- Returns the request in the result of a reply. -/
def echo : Handler := fun _ request =>
  match request with
  | .dict _ =>
      let id := (request.entry? "id").getD .null
      ⟨[], .ok (.dict [(.text "jsonrpc", .text "2.0"), (.text "id", id),
        (.text "result", .dict [(.text "echo", request)])])⟩
  | _ => ⟨[], .error .notMapping⟩

/-- Returns the same value to every request. -/
def always (value : Value) : Handler := fun _ _ => ⟨[], .ok value⟩

/-- Fails every request. -/
def failing (fault : HandlerFault) : Handler := fun _ _ => ⟨[], .error fault⟩

variable [Json.NestingLimit]

/-- The value in a response of the service behind the relay. -/
def readReply (response : Http.Response) : Except HandlerFault Value :=
  if !response.ok then .error (.backend (.status response.status))
  else match response.json with
    | .ok json => .ok (.ofJson json)
    | .error (.malformed .tooDeep) => .error .tooDeep
    | .error _ => .error (.backend .malformedReply)

/-- The octets of a request as they are forwarded. -/
def forwardedBody (request : Value) : Except HandlerFault Bytes := do
  let text ← request.compactText.mapError .unserializable
  match Utf8.encode? text with
  | some body => return body
  | none => .error .unencodable

/-- Posts the compact text of the request to an address, exactly as given, and returns the
JSON value of the answer. -/
def forward (address : Text) (timeout : Binary64) : Handler := fun network request =>
  match forwardedBody request with
  | .error fault => ⟨[], .error fault⟩
  | .ok body =>
      let endpoint := Http.Endpoint.ofBase address timeout Http.Endpoint.defaultLimit
      let delivery := endpoint.postUrl network address body "application/json"
      let result : Except HandlerFault Value :=
        match delivery.outcome with
        | .error (.transport error) => .error (.backend (.unreachable error))
        | .error fault => .error (.ofFault fault)
        | .ok response => readReply response
      ⟨delivery.sent, result⟩

end Handler

end SealedRpc.Relay
