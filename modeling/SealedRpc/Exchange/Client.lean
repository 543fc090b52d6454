import SealedRpc.Codec.Basic
import SealedRpc.Envelope
import SealedRpc.Exchange.Error
import SealedRpc.Exchange.Framing

/-!
# The client side of a deployment

A client turns requests into what goes over the wire and responses into plaintext. Before
the first of them leaves, it checks its keys. Each call runs one cycle: it begins with
encoding the request, hands it to the transport, and finishes with decoding the response
or with recording what went wrong. There are no retries.

The beginning and the finish of a call are operations of their own, so that several calls
can be under way at a time. A client keeps the cycle of every call in the order in which
the calls began, and a call knows its own cycle by its position.

## Main results

* `Deployment.create_eq_error_iff`: a deployment is refused exactly if responses are to be
  recovered under a padding that has no such mode.
-/

namespace SealedRpc

/-- What the two sides of a deployment agree on, with the keys of the client's side. -/
structure Deployment where
  framing : Framing
  scheme : Scheme
  decoding : ResponseDecoding
  requestKey : Option Key
  responseKey : Option Key
  expectedKeySize : ExpectedSize
  workers : WorkerSetting

/-- A request that is ready for the transport. -/
structure EncodedRequest where
  path : Text
  contentType : Text
  body : Bytes
  deriving DecidableEq, Repr

namespace Deployment

/-- Checks that responses can be decoded as agreed. -/
def create (d : Deployment) : Except CodecError Deployment :=
  if d.decoding = .publicRecover ∧ d.scheme ≠ .pkcs1v15 then
    .error (.unsupported .publicRecovery)
  else .ok d

/-- Refused is exactly the recovery of responses under a padding that has no such mode. -/
theorem create_eq_error_iff (d : Deployment) :
    (∃ e, d.create = .error e) ↔ d.decoding = .publicRecover ∧ d.scheme = .oaepSha256 := by
  unfold create
  cases hd : d.decoding <;> cases hs : d.scheme <;> simp

/-- A key that must be there. -/
def need (key : Option Key) : Except CallError Key :=
  match key with
  | some key => .ok key
  | none => .error .missingKey

/-- Checks both keys: their sizes, that they can encrypt, and that private material is
there where it is needed. -/
def validate (d : Deployment) (coins : Coins) : Except CallError Unit := do
  let requestKey ← need d.requestKey
  (Codec.selfTest coins requestKey d.scheme d.expectedKeySize).mapError .codec
  let responseKey ← need d.responseKey
  (Codec.selfTest coins responseKey d.scheme d.expectedKeySize).mapError .codec
  if d.framing = .signedEnvelope ∧ !requestKey.hasPrivate then
    .error (.codec (.signing .framingNeedsPrivateKey))
  if d.decoding = .privateDecrypt ∧ !responseKey.hasPrivate then
    .error (.codec (.decryption .responseNeedsPrivateKey))

/-- The octets of a text that must have some. -/
def encodeText (t : Text) : Except CallError Bytes :=
  match Utf8.encode? t with
  | some b => .ok b
  | none => .error .unencodable

variable [Json.NestingLimit]

/-- The envelope of a request, signed with a private key. -/
def sealRequest (coins : Coins) (request : Value) (key : Option Key) :
    Except CallError Envelope := do
  let text ← (Request.text request).mapError .ofRequestFault
  let bytes ← encodeText text
  let key ← need key
  let signature ← (Signature.sign (coins.factor 0) bytes key).mapError fun f => .codec (.signing f)
  return ⟨text, signature⟩

/-- Encrypts for a key with the workers that were asked for. -/
def encrypt (d : Deployment) (coins : Coins) (data : Bytes) (key : Key) :
    Except CallError Bytes :=
  match d.workers with
  | .pool pool => (Codec.encrypt coins pool data key d.scheme).mapError .codec
  | .notCompared kind => do
      let _ ← (d.scheme.chunkSize key.size).mapError fun cause => .codec (.keyTooSmall cause)
      .error (.workers kind)

/-- Decrypts with a key and the workers that were asked for. -/
def decrypt (d : Deployment) (coins : Coins) (message : Bytes) (key : Key) :
    Except CallError Bytes :=
  match d.workers with
  | .pool pool => (Codec.decrypt coins pool message key d.scheme).mapError .codec
  | .notCompared kind => do
      let _ ← (Codec.blocks message key.size).mapError .codec
      if key.hasPrivate then .error (.workers kind)
      else .error (.codec (.decryption .noPrivateMaterial))

/-- The body of a request on the wire. -/
def encodeBody (d : Deployment) (coins : Coins) (request : Value) : Except CallError Bytes :=
  match d.framing with
  | .encryptedBody => do
      let text ← (Request.text request).mapError .ofRequestFault
      let bytes ← encodeText text
      let key ← need d.requestKey
      d.encrypt coins bytes key
  | .signedEnvelope => do
      let envelope ← sealRequest coins request d.requestKey
      match envelope.toBytes? with
      | some body => .ok body
      | none => .error .unencodable

/-- Puts a request into the agreed framing. -/
def encode (d : Deployment) (coins : Coins) (request : Value) :
    Except CallError EncodedRequest := do
  let body ← d.encodeBody coins request
  return ⟨d.framing.path, d.framing.contentType, body⟩

/-- Turns a response into plaintext. Only a response with status 200 has one. -/
def decode (d : Deployment) (coins : Coins) (status : Int) (body : Bytes) :
    Except CallError Bytes :=
  if status ≠ 200 then .error (.ofStatus status body)
  else match d.decoding with
    | .publicRecover =>
        if d.scheme ≠ .pkcs1v15 then
          .error (.codec (.unsupported (.publicDecryption d.scheme)))
        else do
          let key ← need d.responseKey
          (Codec.publicDecrypt body key d.scheme).mapError .codec
    | .privateDecrypt => do
        let key ← need d.responseKey
        d.decrypt coins body key

end Deployment

/-- A client: a deployment, whether its keys have been checked, and the cycles of the
calls so far in the order in which they began. -/
structure Client where
  deployment : Deployment
  validated : Bool
  cycles : List (Cycle CallError)

/-- A call that waits for its response, known by the position of its cycle. -/
structure Pending where
  ticket : Nat
  encoded : EncodedRequest
  deriving DecidableEq, Repr

namespace Client

/-- A client that has done nothing yet. -/
def ofDeployment (d : Deployment) : Client := ⟨d, false, []⟩

/-- The cycle of the call that began last. -/
def lastCycle? (c : Client) : Option (Cycle CallError) := c.cycles.getLast?

/-- Checks the keys and remembers that they passed. -/
def validate (c : Client) (coins : Coins) : Client × Except CallError Unit :=
  match c.deployment.validate coins with
  | .ok () => ({ c with validated := true }, .ok ())
  | .error e => (c, .error e)

/-- Moves a cycle on, or says what a call that cannot do so ends with. -/
def advance (cycle : Cycle CallError) (target : State) : Except CallError (Cycle CallError) :=
  (cycle.advance target).mapError .transition

/-- Fails a cycle, and gives back what the call ends with. -/
def failCycle (cycle : Cycle CallError) (error : CallError) : Cycle CallError × CallError :=
  match cycle.fail error with
  | (cycle, none) => (cycle, error)
  | (cycle, some t) => (cycle, .transition t)

variable [Json.NestingLimit]

/-- What a new cycle goes through before its request leaves: the keys are checked unless
they have been, the request is encoded, and the cycle moves on to waiting. Gives back
whether the keys have passed, the cycle as far as it came, and the encoded request. -/
def prepare (c : Client) (coins : Coins) (request : Value) :
    Bool × Cycle CallError × Except CallError EncodedRequest :=
  let idle : Cycle CallError := .fresh
  match if c.validated then .ok () else c.deployment.validate coins with
  | .error e => (c.validated, idle, .error e)
  | .ok () =>
      match advance idle .encoding with
      | .error e => (true, idle, .error e)
      | .ok encoding =>
          match c.deployment.encode coins request with
          | .error e => (true, encoding, .error e)
          | .ok encoded =>
              match advance encoding .sent with
              | .error e => (true, encoding, .error e)
              | .ok sent =>
                  match advance sent .awaitingResponse with
                  | .error e => (true, sent, .error e)
                  | .ok waiting => (true, waiting, .ok encoded)

/-- Begins a call with a cycle of its own. -/
def begin (c : Client) (coins : Coins) (request : Value) : Client × Except CallError Pending :=
  match c.prepare coins request with
  | (validated, cycle, .ok encoded) =>
      ({ c with validated, cycles := c.cycles ++ [cycle] }, .ok ⟨c.cycles.length, encoded⟩)
  | (validated, cycle, .error e) =>
      let (cycle, e) := failCycle cycle e
      ({ c with validated, cycles := c.cycles ++ [cycle] }, .error e)

/-- What a cycle and its call come to when the transport is done. -/
def conclude (d : Deployment) (coins : Coins) (cycle : Cycle CallError)
    (outcome : Except Http.Fault Http.Response) : Cycle CallError × Except CallError Bytes :=
  let decoded : Except CallError Bytes :=
    match outcome with
    | .error fault => .error (.fault fault)
    | .ok response => d.decode coins response.status response.body
  match decoded with
  | .error e =>
      let (cycle, e) := failCycle cycle e
      (cycle, .error e)
  | .ok plaintext =>
      match advance cycle .decoded with
      | .error e => (cycle, .error e)
      | .ok done => (done, .ok plaintext)

/-- Finishes a call with what the transport came back with. -/
def finish (c : Client) (coins : Coins) (pending : Pending)
    (outcome : Except Http.Fault Http.Response) : Client × Except CallError Bytes :=
  let cycle := (c.cycles[pending.ticket]?).getD .fresh
  let (cycle, result) := conclude c.deployment coins cycle outcome
  ({ c with cycles := c.cycles.set pending.ticket cycle }, result)

/-! ### Whole calls -/

/-- A transport: it posts a request, and may offer a second way for callers that do not
wait. -/
structure Transport where
  post : EncodedRequest → Http.Delivery
  postAsync? : Option (EncodedRequest → Http.Delivery)

/-- Which of the two ways a post took. -/
inductive Via where
  | post
  | postAsync
  deriving DecidableEq, Repr

/-- What came of a call: the client afterwards, the posts it made, what was sent for them,
what was logged, and the result. -/
structure Called where
  client : Client
  posts : List (Via × EncodedRequest)
  sent : List Http.Request
  notices : List Notice
  result : Except CallError Bytes

/-- The part of the program that speaks in the notices of calls. -/
def source : String := "mirrorcrypt.protocol"

/-- The notice that a request has been encoded. -/
def encodedNotice : Notice := ⟨.debug, source, "mirror_request_encoded"⟩

/-- The notice that a call has ended, well or badly. -/
def endNotice (result : Except CallError Bytes) : Notice :=
  if result.isOk then ⟨.info, source, "mirror_request"⟩
  else ⟨.warning, source, "mirror_request_failed"⟩

/-- Runs a call over one way of posting. -/
def callVia (c : Client) (coins : Coins) (via : Via) (post : EncodedRequest → Http.Delivery)
    (request : Value) : Called :=
  match c.begin coins request with
  | (client, .error e) => ⟨client, [], [], [endNotice (.error e)], .error e⟩
  | (client, .ok pending) =>
      let delivery := post pending.encoded
      let (client, result) := client.finish coins pending delivery.outcome
      ⟨client, [(via, pending.encoded)], delivery.sent,
        encodedNotice :: delivery.notices ++ [endNotice result], result⟩

/-- Runs a call and waits for its response. -/
def call (c : Client) (coins : Coins) (transport : Transport) (request : Value) : Called :=
  c.callVia coins .post transport.post request

/-- Runs a call without blocking others, by the second way if there is one. -/
def callAsync (c : Client) (coins : Coins) (transport : Transport) (request : Value) : Called :=
  match transport.postAsync? with
  | some post => c.callVia coins .postAsync post request
  | none => c.callVia coins .post transport.post request

/-- Reads plaintext as JSON. -/
def readJson (plaintext : Bytes) : Except CallError Json :=
  match Utf8.decode? plaintext with
  | none => .error .undecodable
  | some t => (Json.parse t).mapError .malformedJson

/-- The result of a call as JSON. -/
def Called.json (called : Called) : Except CallError Json :=
  called.result.bind readJson

end Client

end SealedRpc
