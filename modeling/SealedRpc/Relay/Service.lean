import SealedRpc.Codec.Basic
import SealedRpc.Relay.Ending
import SealedRpc.Settings

/-!
# The relay

The service side of a deployment. A request comes in encrypted as a whole, or in the clear
with a signature of the client. Its text is read as a JSON object, checked against the
methods that are allowed, and served by the handler; the value that the handler returns
goes out as compact JSON, encrypted.

For every request the relay keeps what the handler was called with and what was sent on its
behalf, next to how the request ended.

## Main results

* `handled_serveText`: the handler is called with the object of a text exactly if that text
  is authorised.
-/

namespace SealedRpc.Relay

/-- A relay that runs. -/
structure Service where
  settings : ServiceSettings
  key : Key
  clientKey? : Option Key
  handler : Handler
  /-- Log entries below this severity are dropped. -/
  threshold : Nat

/-- What came of serving a request: how it ended, what the handler was called with, what
was sent to the service behind the relay, and what was logged. -/
structure Served where
  ending : Ending
  handled : List Value
  sent : List Http.Request
  records : List Record

/-- A request that ended before it reached the handler. -/
def Served.early (ending : Ending) : Served := ⟨ending, [], [], []⟩

namespace Service

/-! ### Replies -/

/-- Encrypts a reply as the settings say: for the client, or so that everyone can recover
it who has the public key of the relay. -/
def encryptReply (s : Service) (coins : Coins) (payload : Bytes) : Except Defect Bytes :=
  match s.settings.decoding with
  | .publicRecover => (Codec.privateEncrypt coins payload s.key s.settings.scheme).mapError .codec
  | .privateDecrypt =>
      match s.clientKey? with
      | some key => (Codec.encrypt coins .single payload key s.settings.scheme).mapError .codec
      | none => .error .noClientKey

variable [Json.NestingLimit]

/-- The octets of the compact JSON of a value. -/
def payload (value : Value) : Except Defect Bytes := do
  let text ← value.compactText.mapError .unserializable
  match Utf8.encode? text with
  | some b => return b
  | none => .error .unencodable

/-- How a request ends whose handler returned a value. -/
def reply (s : Service) (coins : Coins) (value : Value) : Ending :=
  match (payload value).bind (s.encryptReply coins) with
  | .ok message => .answered message
  | .error cause => .defect cause

/-! ### Requests -/

/-- The name of the field with the method. -/
def methodField : Text := "method"

/-- Checks the method of a request object against the allowed ones. -/
def checkMethod (s : Service) (request : Json) : Except Ending Unit :=
  if s.settings.allowedMethods.isEmpty then .ok ()
  else match request.field? methodField with
    | some (.text m) =>
        if s.settings.allowedMethods.contains m then .ok ()
        else .error (.refused .unsupportedMethod)
    | some (.array _) | some (.object _) => .error (.defect .containerMethod)
    | _ => .error (.refused .unsupportedMethod)

/-- The request object of a text, if the text is one and its method is allowed. -/
def authorise (s : Service) (text : Text) : Except Ending Json :=
  match Json.parse text with
  | .error .tooDeep => .error (.defect .tooDeep)
  | .error fault => .error (.refused (.malformedJson fault))
  | .ok request =>
      match request with
      | .object _ => (s.checkMethod request).map fun _ => request
      | _ => .error (.refused .notObject)

/-- Serves the text of a request. -/
def serveText (s : Service) (coins : Coins) (network : Http.Network) (text : Text) : Served :=
  match s.authorise text with
  | .error ending => .early ending
  | .ok json =>
      let request := Value.ofJson json
      let handled := s.handler network request
      match handled.result with
      | .ok value => ⟨s.reply coins value, [request], handled.sent, []⟩
      | .error (.backend fault) =>
          ⟨.refused (.backend fault), [request], handled.sent, [.handlerFailed fault.message]⟩
      | .error fault => ⟨.defect (.handler fault), [request], handled.sent, []⟩

/-- Serves a request that is encrypted as a whole. -/
def serveEncrypted (s : Service) (coins : Coins) (network : Http.Network) (body : Bytes) :
    Served :=
  match Codec.decrypt coins .single body s.key s.settings.scheme with
  | .ok plaintext =>
      match Utf8.decode? plaintext with
      | some text => s.serveText coins network text
      | none => .early (.refused .notUtf8)
  | .error cause =>
      match cause with
      | .malformedCiphertext .. | .decryption _ =>
          ⟨.refused .undecryptable, [], [], [.decryptFailed cause.message]⟩
      | _ => .early (.defect (.codec cause))

/-- Whether an envelope carries the signature of the client. -/
def verifies (envelope : Envelope) (key : Key) : Except Defect Bool :=
  match Utf8.encode? envelope.text with
  | some b => .ok (Signature.verify b envelope.signature key)
  | none => .error .unencodable

/-- Serves a request in a signed envelope. -/
def serveEnvelope (s : Service) (coins : Coins) (network : Http.Network) (envelope : Envelope) :
    Served :=
  match s.clientKey? with
  | none => .early (.refused .signedDisabled)
  | some key =>
      match verifies envelope key with
      | .error cause => .early (.defect cause)
      | .ok false => .early (.refused .badSignature)
      | .ok true => s.serveText coins network envelope.text

/-- How a post ends that holds no envelope. -/
def invalidEnding : Posted.Fault → Ending
  | .notUtf8 => .defect .undecodableBody
  | .issues issues =>
      if issues.all fun i => i.found.isFinite then .invalid issues
      else .defect (.unreportable issues)

/-- Serves the body of a post to the path of signed requests. -/
def serveSigned (s : Service) (coins : Coins) (network : Http.Network) (body : Bytes) : Served :=
  match Posted.read body with
  | .ok envelope => s.serveEnvelope coins network envelope
  | .error fault => .early (invalidEnding fault)

/-- Serves the body of a post in a framing. -/
def serve (s : Service) (coins : Coins) (network : Http.Network) (framing : Framing)
    (body : Bytes) : Served :=
  if s.settings.bodyLimit < body.length then .early (.refused .tooLarge)
  else match framing with
    | .encryptedBody => s.serveEncrypted coins network body
    | .signedEnvelope => s.serveSigned coins network body

/-- The handler is called exactly if the text is authorised, and then with its object. -/
theorem handled_serveText (s : Service) (coins : Coins) (network : Http.Network) (text : Text)
    (request : Value) : request ∈ (s.serveText coins network text).handled ↔
      ∃ json, s.authorise text = .ok json ∧ Value.ofJson json = request := by
  unfold serveText
  cases s.authorise text with
  | error ending => simp [Served.early]
  | ok json =>
      simp only [Except.ok.injEq, exists_eq_left']
      split <;> simp [eq_comm]

/-! ### Routes -/

/-- What the paths of the relay lead to. -/
inductive Route where
  | health
  | post (framing : Framing)
  deriving DecidableEq, Repr

/-- The path of the state of the relay. -/
def healthPath : Text := "/health"

/-- What a path leads to. One line break at its end does no harm. -/
def Route.ofPath? (path : Text) : Option Route :=
  let path := if path.getLast? = some '\n' then path.dropLast else path
  if path = healthPath then some .health else (Framing.ofPath? path).map .post

/-- The method that a route takes. -/
def Route.method : Route → String
  | .health => "GET"
  | .post _ => "POST"

/-- A request as the relay receives it, with the escapes in its path undone. -/
structure Call where
  method : Text
  path : Text
  headers : Http.Headers
  body : Bytes
  deriving DecidableEq, Repr

/-- A code point of a path as it stands in a URL: what would begin a query or a fragment is
escaped, and tabs and line breaks are left out. -/
def inUrlPath (c : CodePoint) : Text :=
  if c = '?' then "%3F"
  else if c = '#' then "%23"
  else if c = '\t' ∨ c = '\n' ∨ c = '\r' then []
  else [c]

/-- The path of a request in the log, as it stands in a URL. -/
def Call.loggedPath (call : Call) : Text :=
  call.path.flatMap inUrlPath

/-- The path of a route that a path with slashes at its end stands for. -/
def movedPath? (path : Text) : Option Text :=
  let trimmed := path.dropEndWhile (· = '/')
  if trimmed = path ∨ (Route.ofPath? trimmed).isNone then none else some trimmed

/-- Serves a request by its path and its method. -/
def dispatch (s : Service) (coins : Coins) (network : Http.Network) (call : Call) : Served :=
  match Route.ofPath? call.path with
  | some route =>
      if call.method ≠ Text.ofString route.method then .early (.refused .methodNotAllowed)
      else match route with
        | .health => .early .health
        | .post framing => s.serve coins network framing call.body
  | none =>
      match movedPath? call.path with
      | some path => .early (.moved path)
      | none => .early (.refused .notFound)

/-! ### Responses -/

/-- The id that goes back with a response. -/
inductive RequestId where
  | echoed (id : Text)
  | fresh
  deriving DecidableEq, Repr

/-- The name of the header with the id, in small letters. -/
def idHeader : Text := "x-request-id"

/-- The longest id that is sent back. -/
def idLimit : Nat := 128

/-- The id of a request: its own, unless that is missing, empty or too long. -/
def requestId (headers : Http.Headers) : RequestId :=
  match headers.find? fun h => h.1.asciiLower = idHeader with
  | some (_, id) => if id.isEmpty ∨ idLimit < id.length then .fresh else .echoed id
  | none => .fresh

/-- What a response holds. -/
inductive Content where
  | octets (message : Bytes)
  | json (j : Json)
  | issues (issues : List Issue)
  | words (text : String)
  | nothing

/-- A response of the relay. After a defect it carries no id. -/
structure Response where
  status : Nat
  content : Content
  id? : Option RequestId
  moved? : Option Text

/-- The state of the relay. -/
def healthJson (s : Service) : Json :=
  .object [("ok", .bool true), ("scheme", .text s.settings.scheme.name),
    ("key_size", .int s.settings.keySize),
    ("response_decoding", .text s.settings.decoding.name),
    ("signed_requests", .bool s.clientKey?.isSome),
    ("allowed_methods", .array (s.settings.shownMethods.map .text))]

/-- The detail of a refusal as JSON. -/
def detailJson (refusal : Refusal) : Json :=
  .object [("detail", .text refusal.detail)]

/-- The answer to a request that met a defect. -/
def failure : Response := ⟨500, .words "Internal Server Error", none, none⟩

/-- A response with a JSON body, if the body has a UTF-8 form. -/
def jsonResponse (status : Nat) (id : RequestId) (j : Json) : Response :=
  if (Utf8.encode? (j.render .compact)).isSome then ⟨status, .json j, some id, none⟩
  else failure

/-- The response to a request that ended. -/
def respond (s : Service) (id : RequestId) (ending : Ending) : Response :=
  match ending with
  | .answered message => ⟨200, .octets message, some id, none⟩
  | .health => jsonResponse 200 id s.healthJson
  | .refused refusal => jsonResponse refusal.status id (detailJson refusal)
  | .invalid issues => ⟨422, .issues issues, some id, none⟩
  | .moved path => ⟨307, .nothing, some id, some path⟩
  | .defect _ => failure

/-- The entry that a request leaves in the log. -/
def accessRecord (call : Call) (response : Response) : Record :=
  .access call.method call.loggedPath (Framing.ofPath? call.loggedPath)
    (if response.id?.isSome then some response.status else none)

/-- What came of a request. -/
structure Answer where
  response : Response
  served : Served
  log : List Record

/-- Answers a request. -/
def answer (s : Service) (coins : Coins) (network : Http.Network) (call : Call) : Answer :=
  let served := s.dispatch coins network call
  let response := s.respond (requestId call.headers) served.ending
  let log := (served.records ++ [accessRecord call response]).filter fun r =>
    s.threshold ≤ r.level.severity
  ⟨response, served, log⟩

end Service

end SealedRpc.Relay
