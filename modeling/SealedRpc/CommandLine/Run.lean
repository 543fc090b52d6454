import SealedRpc.CommandLine.Invocation
import SealedRpc.Exchange.Client
import SealedRpc.Json.Conversion
import SealedRpc.Relay.Startup

/-!
# Running commands

What each command does, as a function of the environment, the files, the network and the server
that services run in. A command ends with a status: zero if it did its work, two if something that
may go wrong went wrong. Something that no command expects escapes instead of giving a status.

A command is run in two parts. The first one goes through its stages, reads settings and keys, and
comes to the task that is left, or to the obstacle that stops it (`Command.prepare`). The second one
carries the task out (`Task.outcome`). What an obstacle comes to is said once for all commands
(`Obstacle.outcome`).
-/

namespace SealedRpc.CommandLine

/-- A line on the error stream. -/
inductive ErrorLine where
  | notice (notice : Notice)
  | failure (message : Text)
  | keyFailure (path : Text) (fault : KeyFault)
  | usage (message : Text)
  deriving DecidableEq, Repr

/-- The text of a line. -/
def ErrorLine.text : ErrorLine → Text
  | .notice n => n.line
  | .failure message => "error: " ++ message
  | .keyFailure path fault => "error: failed loading key " ++ path ++ ": " ++ fault.message
  | .usage message => message

/-- What escapes from a command that does not expect it. -/
inductive Escape where
  | unknownLevel (name : Text)
  | emptyLevel
  | argument (fault : ConversionFault)
  | call (error : CallError)
  | key (fault : KeyFault)
  | server (words : Text)
  deriving Repr

/-- The words for what escapes. -/
def Escape.message : Escape → Text
  | .unknownLevel name => Relay.unknownLevelMessage name
  | .emptyLevel => "the log level is empty"
  | .argument fault => fault.message
  | .call error => error.message
  | .key fault => fault.message
  | .server words => words

/-- A service that is ready, and where it is to listen. -/
structure Listening where
  host : Argument Text
  port : Int
  logLevel : Text
  service : Relay.Service

/-- What services run in. It serves until it returns, or until it raises something, of which the
words are left. -/
def Server : Type := Listening → Except Text Unit

/-- What came of a command. -/
structure Outcome where
  status : Except Escape Nat
  output : Text
  errors : List ErrorLine
  sent : List Http.Request
  listening? : Option Listening

namespace Outcome

/-- Success with one line of output. -/
def success (line : Text) : Outcome := ⟨.ok 0, line ++ "\n", [], [], none⟩

/-- A failure before anything was sent. -/
def failed (line : ErrorLine) : Outcome := ⟨.ok 2, [], [line], [], none⟩

/-- The end of a command by something that it does not expect. -/
def escaped (cause : Escape) : Outcome := ⟨.error cause, [], [], [], none⟩

end Outcome

/-- What commands have to do with: random choices, the environment, files, a network, and a server,
or the words for why there is none. -/
structure World where
  coins : Coins
  env : Environment
  files : Files
  network : Http.Network
  server : Except Text Server

/-- The settings that count for a command of a client. A number that was given empty is
missed only where it is needed. -/
structure Choices where
  scheme : Scheme
  keySize : Argument Int
  timeout : Argument Binary64

namespace ClientOptions

/-- The scheme that counts: the one that is given, unless it is empty, or that of the
environment. -/
def scheme (o : ClientOptions) (ambient : Scheme) : Except SettingFault Scheme :=
  match o.scheme? with
  | some (.value name) => if name.isEmpty then .ok ambient else Environment.readScheme name
  | some .empty | none => .ok ambient

/-- The settings that count: what is given goes before what the environment says. -/
def choices (o : ClientOptions) (env : Environment) : Except SettingFault Choices := do
  let ambient ← ClientSettings.ofEnvironment env
  let scheme ← o.scheme ambient.scheme
  return ⟨scheme, o.keySize?.getD (.value ambient.keySize),
    o.timeout?.getD (.value ambient.timeout)⟩

end ClientOptions

/-! ### What stops a command -/

/-- What stops a command before its task, by the stage at which it does. -/
inductive Obstacle where
  | configuration (fault : SettingFault)
  | keyLoading (path : Argument Text) (fault : KeyFault)
  /-- A number that is needed was given empty. -/
  | number (fault : ConversionFault)
  /-- Responses are to be recovered under a padding that has no such mode. -/
  | recovery (error : CodecError)
  | selfTest (error : CodecError)
  /-- There is no server, for which words are given. -/
  | noServer (words : Text)
  | startup (fault : Relay.StartFault)

/-- A setting that is refused ends a command. -/
def refused (fault : SettingFault) : Outcome :=
  .failed (.failure fault.message)

/-- Whether a fault of a key is one that the service reports when it starts. The others
escape. -/
def reportsKeyFault : KeyFault → Bool
  | .file _ | .unreadable | .passphraseNotUtf8 => true
  | .unknownCurve _ | .needsPassphrase | .needsNoPassphrase | .notRsaPrivate | .notRsaPublic
  | .notRsa => false

/-- What a command comes to that is stopped. If a key cannot be loaded, the line says which file it
is that fails, but a curve that is not known escapes. -/
def Obstacle.outcome : Obstacle → Outcome
  | .configuration fault => refused fault
  | .keyLoading _ (.unknownCurve name) => .escaped (.key (.unknownCurve name))
  | .keyLoading path fault => .failed (.keyFailure path.shown fault)
  | .number fault => .escaped (.argument fault)
  | .recovery error => .failed (.failure error.message)
  | .selfTest error =>
      if error.isNamed then .failed (.failure error.message)
      else .escaped (.call (.codec error))
  | .noServer words => .failed (.failure ("uvicorn is required to serve the mirror: " ++ words))
  | .startup (.key fault) =>
      if reportsKeyFault fault then .failed (.failure fault.message) else .escaped (.key fault)
  | .startup fault => .failed (.failure fault.message)

/-! ### Stages -/

/-- The word for the kind of thing that an empty argument is. -/
def emptyKind : Text := "list"

/-- The number of an argument that is needed. -/
def needed {α : Type} (fault : Text → ConversionFault) : Argument α → Except Obstacle α
  | .value a => .ok a
  | .empty => .error (.number (fault emptyKind))

/-- Loads a key from the file that an argument names. -/
def loadKey (path : Argument Text) (load : Text → Except KeyFault Key) : Except Obstacle Key :=
  let loaded := match path with
    | .value t => load t
    | .empty => .error (.file .notPath)
  loaded.mapError (.keyLoading path)

/-- Where a command sends its request. -/
def endpoint (target : Target) (timeout : Argument Binary64) :
    Except Obstacle Http.Endpoint := do
  let port ← needed .notInt target.port
  let timeout ← needed .notFloat timeout
  return .ofHost target.host.shown port timeout Http.Endpoint.defaultLimit

/-- The key that reads responses, and how: the private key of the client if there is one,
or the key of the service. -/
def responseKey (w : World) (clientKey? : Option (Argument Text)) (serviceKey : Key) :
    Except Obstacle (Key × ResponseDecoding) :=
  match clientKey? with
  | none | some .empty | some (.value []) => .ok (serviceKey, .publicRecover)
  | some path =>
      (loadKey path fun t => Key.loadPrivate w.files t []).map fun key => (key, .privateDecrypt)

/-- What a key that passes its test is reported as. -/
def testedLine (key : Key) (scheme : Scheme) : Text :=
  "ok: " ++ (key.kind ++ (" key, " ++ (Text.ofNat key.size ++ ("-byte blocks (" ++
    (scheme.name ++ Text.ofString ")")))))

/-- The size that an argument expects of a key. -/
def expectedSize : Argument Int → ExpectedSize
  | .value n => .octets n
  | .empty => .value (.array [])

/-- What is left of a command when nothing stands in its way. -/
inductive Task where
  /-- A request is made. -/
  | request (deployment : Deployment) (endpoint : Http.Endpoint) (text : Text)
  /-- A line is shown. -/
  | report (line : Text)
  /-- A service is handed over to a server. -/
  | serve (server : Server) (listening : Listening)

variable [Json.NestingLimit]

/-- The stages of a command before its task. A request is encrypted for the key of the service, or
signed with that of the client. A key that is tried out passes its test here. -/
def Command.prepare (w : World) (logLevel : Text) : Command → Except Obstacle Task
  | .encryptedRequest target clientKey? options => do
      let choices ← (options.choices w.env).mapError .configuration
      let key ← loadKey target.keyFile fun t => Key.loadAny w.files t []
      let (reader, decoding) ← responseKey w clientKey? key
      let endpoint ← endpoint target choices.timeout
      let deployment : Deployment := ⟨.encryptedBody, choices.scheme, decoding,
        some key.publicOnly, some reader, .octets Codec.defaultKeySize, .pool .single⟩
      let deployment ← deployment.create.mapError .recovery
      let expectedKeySize := .octets (← needed .notInt choices.keySize)
      return .request { deployment with expectedKeySize } endpoint target.request.shown
  | .signedRequest target options => do
      let choices ← (options.choices w.env).mapError .configuration
      let key ← loadKey target.keyFile fun t => Key.loadPrivate w.files t []
      let endpoint ← endpoint target choices.timeout
      let keySize ← needed .notInt choices.keySize
      let deployment : Deployment := ⟨.signedEnvelope, choices.scheme, .privateDecrypt,
        some key, some key, .octets keySize, .pool .single⟩
      return .request deployment endpoint target.request.shown
  | .selfTest keyFile options => do
      let choices ← (options.choices w.env).mapError .configuration
      let key ← loadKey keyFile fun t => Key.loadAny w.files t []
      let size := expectedSize choices.keySize
      (Codec.selfTest w.coins key choices.scheme size).mapError .selfTest
      return .report (testedLine key choices.scheme)
  | .serve host port => do
      let server ← w.server.mapError .noServer
      let service ← (Relay.Service.startIn w.coins w.env w.files).mapError .startup
      let port ← needed .notInt port
      return .serve server ⟨host, port, logLevel.toLower, service⟩

/-! ### Running -/

/-- Makes a call to a service and shows the plaintext of its response. Log notices below
`threshold` are dropped. -/
def request (w : World) (threshold : Nat) (deployment : Deployment) (endpoint : Http.Endpoint)
    (text : Text) : Outcome :=
  let transport : Client.Transport :=
    ⟨fun e => endpoint.post w.network e.path e.body e.contentType, none⟩
  let called := (Client.ofDeployment deployment).call w.coins transport (.text text)
  let notices := (called.notices.filter (·.reaches threshold)).map ErrorLine.notice
  match called.result with
  | .ok plaintext =>
      ⟨.ok 0, Utf8.decodeLossy plaintext ++ Text.ofString "\n", notices, called.sent, none⟩
  | .error e =>
      if e.isNamed then ⟨.ok 2, [], notices ++ [.failure e.message], called.sent, none⟩
      else ⟨.error (.call e), [], notices, called.sent, none⟩

/-- Carries a task out. What a server raises escapes. -/
def Task.outcome (w : World) (threshold : Nat) : Task → Outcome
  | .request deployment endpoint text => CommandLine.request w threshold deployment endpoint text
  | .report line => .success line
  | .serve server listening =>
      let status := ((server listening).map fun _ => 0).mapError .server
      ⟨status, [], [], [], some listening⟩

/-- Runs a command. -/
def runCommand (w : World) (logLevel : Text) (threshold : Nat) (c : Command) : Outcome :=
  match c.prepare w logLevel with
  | .ok task => task.outcome w threshold
  | .error obstacle => obstacle.outcome

/-- Runs an invocation. -/
def Invocation.run (w : World) (i : Invocation) : Outcome :=
  match i.logLevel with
  | .empty => .escaped .emptyLevel
  | .value logLevel =>
      match Level.threshold? logLevel.toUpper with
      | none => .escaped (.unknownLevel logLevel.toUpper)
      | some threshold => runCommand w logLevel threshold i.command

/-- What came of a command line that is not carried out. -/
def Outcome.ofExit (exit : Exit) : Outcome :=
  ⟨.ok exit.status, [], exit.message?.toList.map .usage, [], none⟩

/-- Runs a command line. -/
def run (w : World) (words : List Text) : Outcome :=
  match parse words with
  | .ok invocation => invocation.run w
  | .error exit => .ofExit exit

end SealedRpc.CommandLine
