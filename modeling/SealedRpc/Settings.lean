import SealedRpc.Codec.Basic
import SealedRpc.Exchange.Framing
import SealedRpc.Http.Exchange

/-!
# Settings

What an operator sets in the environment, for clients and for the service. White space
around a setting does not matter. A number that cannot be read leaves the default in
force; a name that is not known is an error.

## Main results

* `mem_methodEntries`: the methods that a list allows are its entries after trimming, less
  the blank ones.
-/

namespace SealedRpc

/-- The variables of an environment by name. -/
abbrev Environment := List (Text × Text)

/-- A setting that names nothing known. -/
inductive SettingFault where
  | unknownScheme (setting : Text)
  | unknownDecoding (setting : Text)
  deriving DecidableEq, Repr

/-- The words for a fault. -/
def SettingFault.message : SettingFault → Text
  | .unknownScheme setting => "unknown padding scheme: " ++ setting.quoted
  | .unknownDecoding setting => setting.quoted ++ " is not a valid ResponseDecoding"

namespace Environment

/-- What the names of all variables of this program begin with. -/
def nameStart : String := "MIRRORCRYPT_"

/-- A setting, or its default if the variable is not set, without white space around it. -/
def setting (env : Environment) (name : String) (default : Text) : Text :=
  ((env.lookup (nameStart ++ Text.ofString name)).getD default).trim

/-- An integer setting. -/
def intSetting (env : Environment) (name : String) (default : Int) : Int :=
  (Number.readInt (env.setting name [])).toOption.getD default

/-- A setting in seconds. -/
def secondsSetting (env : Environment) (name : String) (default : Binary64) : Binary64 :=
  (Number.readFloat? (env.setting name [])).getD default

/-- A setting that is not blank. -/
def presentSetting? (env : Environment) (name : String) : Option Text :=
  let t := env.setting name []
  if t.isEmpty then none else some t

/-- Reads the name of a padding scheme. -/
def readScheme (setting : Text) : Except SettingFault Scheme :=
  match Scheme.parse? setting with
  | some s => .ok s
  | none => .error (.unknownScheme setting)

/-- The padding scheme. -/
def scheme (env : Environment) : Except SettingFault Scheme :=
  match env.presentSetting? "SCHEME" with
  | some t => readScheme t
  | none => .ok .oaepSha256

/-- How responses are decoded. -/
def decoding (env : Environment) : Except SettingFault ResponseDecoding :=
  match env.presentSetting? "RESPONSE_DECODING" with
  | some t =>
      match ResponseDecoding.ofName? t.toLower with
      | some d => .ok d
      | none => .error (.unknownDecoding t.toLower)
  | none => .ok .privateDecrypt

/-- The key size in octets. -/
def keySize (env : Environment) : Int :=
  env.intSetting "KEY_SIZE" Codec.defaultKeySize

/-- How long a request may take. -/
def timeout (env : Environment) : Binary64 :=
  env.secondsSetting "TIMEOUT_SEC" Http.Endpoint.defaultTimeout

/-- The log level of the service, in capital letters. -/
def logLevel (env : Environment) : Text :=
  let level := (env.setting "LOG_LEVEL" "INFO").toUpper
  if level.isEmpty then "INFO" else level

end Environment

/-! ### Clients -/

/-- The settings of a client. -/
structure ClientSettings where
  scheme : Scheme
  keySize : Int
  timeout : Binary64
  decoding : ResponseDecoding
  deriving DecidableEq, Repr

/-- The settings of a client in an environment. -/
def ClientSettings.ofEnvironment (env : Environment) : Except SettingFault ClientSettings := do
  let scheme ← env.scheme
  let decoding ← env.decoding
  return ⟨scheme, env.keySize, env.timeout, decoding⟩

/-! ### The service -/

/-- The entries of a list that is written with commas, without white space around them and
without blank ones. -/
def methodEntries (list : Text) : List Text :=
  ((Text.splitOn ',' list).map Text.trim).filter fun entry => !entry.isEmpty

/-- An entry counts exactly if it is what is left of a part after trimming, and something
is left. -/
theorem mem_methodEntries {list entry : Text} :
    entry ∈ methodEntries list ↔
      entry ≠ [] ∧ ∃ part ∈ Text.splitOn ',' list, Text.trim part = entry := by
  simp only [methodEntries, List.mem_filter, List.mem_map, Bool.not_eq_true',
    List.isEmpty_eq_false_iff]
  exact and_comm

/-- The settings of the service. Without a key of the client, signed requests are off; an
empty list of methods allows every method. -/
structure ServiceSettings where
  privateKeyPath? : Option Text
  clientKeyPath? : Option Text
  scheme : Scheme
  keySize : Int
  decoding : ResponseDecoding
  backend : Text
  allowedMethods : List Text
  bodyLimit : Int
  timeout : Binary64
  deriving DecidableEq, Repr

namespace ServiceSettings

/-- Where the service behind the relay is unless a setting says otherwise. -/
def defaultBackend : String := "http://127.0.0.1:9090/"

/-- How many octets a request may have unless a setting says otherwise. -/
def defaultBodyLimit : Int := 4 * 1024 * 1024

/-- The settings of a service for which nothing is set. -/
def default : ServiceSettings where
  privateKeyPath? := none
  clientKeyPath? := none
  scheme := .oaepSha256
  keySize := Codec.defaultKeySize
  decoding := .privateDecrypt
  backend := defaultBackend
  allowedMethods := []
  bodyLimit := defaultBodyLimit
  timeout := Http.Endpoint.defaultTimeout

/-- The settings of the service in an environment. -/
def ofEnvironment (env : Environment) : Except SettingFault ServiceSettings := do
  let scheme ← env.scheme
  let decoding ← env.decoding
  return {
    privateKeyPath? := env.presentSetting? "MIRROR_PRIVATE_KEY"
    clientKeyPath? := env.presentSetting? "CLIENT_PUBLIC_KEY"
    scheme, decoding
    keySize := env.keySize
    backend := env.setting "WALLET_SERVICE_URI" defaultBackend
    allowedMethods := methodEntries (env.setting "ALLOWED_METHODS" [])
    bodyLimit := env.intSetting "MAX_BODY_BYTES" defaultBodyLimit
    timeout := env.timeout }

/-- The allowed methods as they are shown: each once, in the order of code points. -/
def shownMethods (s : ServiceSettings) : List Text :=
  s.allowedMethods.eraseDups.mergeSort Text.le

end ServiceSettings

end SealedRpc
