import SealedRpc.CommandLine.Grammar

/-!
# Invocations

The commands of the program with their arguments, and how they are read off a command line.
-/

namespace SealedRpc.CommandLine

/-- What every client command may set; what is not set comes from the environment. -/
structure ClientOptions where
  scheme? : Option (Argument Text)
  keySize? : Option (Argument Int)
  timeout? : Option (Argument Binary64)
  deriving DecidableEq, Repr

/-- Where a request goes, which key it is made with, and its text. -/
structure Target where
  host : Argument Text
  port : Argument Int
  keyFile : Argument Text
  request : Argument Text
  deriving DecidableEq, Repr

/-- A command. -/
inductive Command where
  | encryptedRequest (target : Target) (clientKey? : Option (Argument Text))
      (options : ClientOptions)
  | signedRequest (target : Target) (options : ClientOptions)
  | selfTest (keyFile : Argument Text) (options : ClientOptions)
  | serve (host : Argument Text) (port : Argument Int)
  deriving DecidableEq, Repr

/-- A command with the log level of the program. -/
structure Invocation where
  logLevel : Argument Text
  command : Command
  deriving DecidableEq, Repr

/-! ### Commands -/

/-- The arguments of a command while they are read. -/
structure Draft where
  target : Target
  clientKey? : Option (Argument Text)
  options : ClientOptions

/-- Reads an integer argument. -/
def intArgument (name : String) : Argument Text → Except UsageFault (Argument Int) :=
  Argument.read fun word => (Number.readInt word).mapError fun _ => .invalidInt name word

/-- Reads an argument in seconds. -/
def secondsArgument (name : String) : Argument Text → Except UsageFault (Argument Binary64) :=
  Argument.read fun word =>
    match Number.readFloat? word with
    | some x => .ok x
    | none => .error (.invalidFloat name word)

/-- The parameter with the host. -/
def hostParameter : Parameter Draft :=
  ⟨"host", fun w d => .ok { d with target := { d.target with host := w } }⟩

/-- The parameter with the port. -/
def portParameter : Parameter Draft :=
  ⟨"port", fun w d => do
    let port ← intArgument "port" w
    return { d with target := { d.target with port } }⟩

/-- The parameter with the path of a key. -/
def keyFileParameter : Parameter Draft :=
  ⟨"key_file", fun w d => .ok { d with target := { d.target with keyFile := w } }⟩

/-- The parameter with the text of a request. -/
def requestParameter : Parameter Draft :=
  ⟨"request", fun w d => .ok { d with target := { d.target with request := w } }⟩

/-- The flag with the path of the key for responses. -/
def clientKeyFlag : Flag Draft :=
  ⟨"--client-key", fun w d => .ok { d with clientKey? := some w }⟩

/-- The flags of every client command. -/
def clientFlags : List (Flag Draft) :=
  [⟨"--scheme", fun w d => .ok { d with options := { d.options with scheme? := some w } }⟩,
    ⟨"--key-size", fun w d => do
      let n ← intArgument "--key-size" w
      return { d with options := { d.options with keySize? := some n } }⟩,
    ⟨"--timeout", fun w d => do
      let x ← secondsArgument "--timeout" w
      return { d with options := { d.options with timeout? := some x } }⟩]

/-- The flags of the service. -/
def serveFlags : List (Flag Draft) :=
  [⟨"--host", hostParameter.set⟩,
    ⟨"--port", fun w d => do
      let port ← intArgument "--port" w
      return { d with target := { d.target with port } }⟩]

/-- The name of the program. -/
def program : String := "mirrorcrypt"

/-- A kind of command: its name, its grammar, what its draft starts with, and the command
of a draft. -/
structure CommandKind where
  name : String
  flags : List (Flag Draft)
  parameters : List (Parameter Draft)
  host : Text := []
  port : Int := 0
  toCommand : Draft → Command

/-- All kinds of commands. -/
def commandKinds : List CommandKind :=
  [{ name := "encrypted-request", flags := clientKeyFlag :: clientFlags
     parameters := [hostParameter, portParameter, keyFileParameter, requestParameter]
     toCommand := fun d => .encryptedRequest d.target d.clientKey? d.options },
    { name := "signed-request", flags := clientFlags
      parameters := [hostParameter, portParameter, keyFileParameter, requestParameter]
      toCommand := fun d => .signedRequest d.target d.options },
    { name := "self-test", flags := clientFlags, parameters := [keyFileParameter]
      toCommand := fun d => .selfTest d.target.keyFile d.options },
    { name := "serve", flags := serveFlags, parameters := []
      host := "127.0.0.1", port := 9091
      toCommand := fun d => .serve d.target.host d.target.port }]

/-- Reads the arguments of a command. Gives back the words that found no place as well. -/
def CommandKind.read (kind : CommandKind) (words : List Text) :
    Except Exit (Command × List Text) := do
  let grammar : Grammar Draft :=
    ⟨program ++ " " ++ kind.name, kind.flags, kind.parameters, none⟩
  let target : Target := ⟨.value kind.host, .value kind.port, .empty, .empty⟩
  let initial : Draft := ⟨target, none, ⟨none, none, none⟩⟩
  let (draft, extras) ← grammar.read initial words
  return (kind.toCommand draft, extras)

/-! ### The whole command line -/

/-- A command line while it is read: the log level, and the command with the words that
found no place in it. -/
structure TopDraft where
  logLevel : Argument Text
  command? : Option (Command × List Text)

/-- The flag with the log level. -/
def logLevelFlag : Flag TopDraft :=
  ⟨"--log-level", fun w d => .ok { d with logLevel := w }⟩

/-- The name of the command among the arguments. -/
def commandArgument : String := "cmd"

/-- Reads a command and everything after it. -/
def readCommand (words : List Text) (d : TopDraft) : Except Exit TopDraft :=
  let name := words.headD []
  match commandKinds.find? fun k => Text.ofString k.name = name with
  | some kind => (kind.read (words.drop 1)).map fun command => { d with command? := some command }
  | none =>
      .error (.usage program (.invalidChoice commandArgument name (commandKinds.map (·.name))))

/-- The grammar of the whole command line. -/
def topGrammar : Grammar TopDraft :=
  ⟨program, [logLevelFlag], [], some ⟨commandArgument, readCommand⟩⟩

/-- Reads a command line. -/
def parse (words : List Text) : Except Exit Invocation := do
  let (draft, extras) ← topGrammar.read ⟨.value "WARNING", none⟩ words
  match draft.command? with
  | none => .error (.usage program (.missing [commandArgument]))
  | some (command, more) =>
      if (extras ++ more).isEmpty then return ⟨draft.logLevel, command⟩
      else .error (.usage program (.unrecognised (extras ++ more)))

end SealedRpc.CommandLine
