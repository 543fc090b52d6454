import SealedRpc.Codec.Seeded
import SealedRpc.CommandLine.Run

/-!
# The program

The outer layer of the command line: it gathers the arguments, the environment, the files
that may be needed and a random seed, runs the command, and prints what came of it. No
sockets are linked in, so that every post finds the service unreachable, and a service that
is ready is reported and not listened for.
-/

namespace SealedRpc.Program

/-- The names of the settings, without what they all begin with. -/
def settingNames : List String :=
  ["MIRROR_PRIVATE_KEY", "CLIENT_PUBLIC_KEY", "SCHEME", "KEY_SIZE", "RESPONSE_DECODING",
    "WALLET_SERVICE_URI", "ALLOWED_METHODS", "MAX_BODY_BYTES", "TIMEOUT_SEC", "LOG_LEVEL"]

/-- Reads the settings from the environment. -/
def readEnvironment : IO Environment := do
  let found ← settingNames.mapM fun name => do
    let name := Environment.nameStart ++ name
    return (← IO.getEnv name).map fun value => (Text.ofString name, Text.ofString value)
  return found.reduceOption

/-- A text for a terminal. Lone surrogates are not shown. -/
def shown (t : Text) : String :=
  String.ofList ((t.filter fun c => !c.isSurrogate).map fun c => Char.ofNat c.val)

/-- The paths of all keys that a command may read. An empty argument names no file. -/
def keyPaths (env : Environment) : CommandLine.Command → List Text
  | .encryptedRequest target clientKey? _ =>
      target.keyFile.shown :: clientKey?.toList.map CommandLine.Argument.shown
  | .signedRequest target _ => [target.keyFile.shown]
  | .selfTest keyFile _ => [keyFile.shown]
  | .serve .. =>
      (env.presentSetting? "MIRROR_PRIVATE_KEY").toList ++
        (env.presentSetting? "CLIENT_PUBLIC_KEY").toList

/-- Reads one file. -/
def readFile (path : Text) : IO (Except FileFault Bytes) := do
  try
    return .ok (← IO.FS.readBinFile (shown path)).toList
  catch
    | .noFileOrDirectory .. => return .error (.missing path)
    | e => return .error (.other (e.toString))

/-- Reads the files with some paths. -/
def readFiles (paths : List Text) : IO Files := do
  let contents ← paths.mapM fun path => return (path, ← readFile path)
  return fun path => (contents.lookup path).getD (.error (.missing path))

/-- The network of a program without sockets. -/
def noNetwork : Http.Network := fun _ => .failed (.unreachable "no network")

/-- The server of a program without sockets, which returns at once. -/
def noServer : CommandLine.Server := fun _ => .ok ()

/-- Prints what came of a command and gives back its status. -/
def report (outcome : CommandLine.Outcome) : IO UInt32 := do
  IO.print (shown outcome.output)
  for line in outcome.errors do
    IO.eprintln (shown line.text)
  if let some listening := outcome.listening? then
    IO.println s!"ready for {shown listening.host.shown}, number {listening.port}"
  match outcome.status with
  | .ok status => return UInt32.ofNat status
  | .error cause =>
      IO.eprintln (shown cause.message)
      return 1

end SealedRpc.Program

open SealedRpc in
/-- Runs the command line. -/
def main (arguments : List String) : IO UInt32 := do
  let words := arguments.map Text.ofString
  let env ← Program.readEnvironment
  let paths := match CommandLine.parse words with
    | .ok invocation => Program.keyPaths env invocation.command
    | .error _ => []
  let files ← Program.readFiles paths
  let secret ← IO.getRandomBytes 32
  let world : CommandLine.World :=
    ⟨.ofSeed secret.toList, env, files, Program.noNetwork, .ok Program.noServer⟩
  Program.report (CommandLine.run world words)
