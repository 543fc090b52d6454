import SealedRpc.Key.Load
import SealedRpc.Relay.Service

/-!
# Starting the relay

A relay starts only with keys that fit its settings: the sizes of both keys are tried out,
its own key holds private material, and there is a way to encrypt replies. Keys that are
not handed in come from the files that the settings name.

## Main results

* `checkKeys_of_start`: the keys and settings of a relay that runs have passed the checks.
* `hasPrivate_of_checkKeys`, `isSome_of_checkKeys`: keys that pass can do what replies need.
-/

namespace SealedRpc.Relay

/-- Why a relay does not start. -/
inductive StartFault where
  | setting (fault : SettingFault)
  | keyMissing
  | key (fault : KeyFault)
  | keyNotPrivate
  | clientKeyMissing
  | codec (error : CodecError)
  | unknownLevel (name : Text)
  deriving DecidableEq, Repr

/-- The words for a log level that is not known. -/
def unknownLevelMessage (name : Text) : Text :=
  "Unknown level: " ++ name.quoted

/-- The words for a fault. -/
def StartFault.message : StartFault → Text
  | .setting fault => fault.message
  | .keyMissing => "a mirror private key is required (MIRRORCRYPT_MIRROR_PRIVATE_KEY)"
  | .key fault => fault.message
  | .keyNotPrivate => "the mirror key must hold private material"
  | .clientKeyMissing => "a client public key is required to encrypt responses"
  | .codec error => error.message
  | .unknownLevel name => unknownLevelMessage name

/-- What a relay is started with besides its settings. -/
structure Provision where
  key? : Option Key
  clientKey? : Option Key
  handler? : Option Handler

/-- Nothing but the settings. -/
def Provision.none : Provision := ⟨.none, .none, .none⟩

namespace Service

/-- A path that names a file: an empty one names none. -/
def named? (path? : Option Text) : Option Text :=
  path?.filter fun path => !path.isEmpty

/-- The key of the relay: the one that is handed in, or the one in the file that the
settings name. -/
def obtainKey (files : Files) (settings : ServiceSettings) (given : Option Key) :
    Except StartFault Key :=
  match given with
  | some key => .ok key
  | none =>
      match named? settings.privateKeyPath? with
      | some path => (Key.loadPrivate files path []).mapError .key
      | none => .error .keyMissing

/-- The key of the client, if there is one. -/
def obtainClientKey (files : Files) (settings : ServiceSettings) (given : Option Key) :
    Except StartFault (Option Key) :=
  match given, named? settings.clientKeyPath? with
  | none, some path => ((Key.loadPublic files path).map some).mapError .key
  | given, _ => .ok given

/-- Checks that keys and settings fit together. -/
def checkKeys (coins : Coins) (settings : ServiceSettings) (key : Key)
    (clientKey? : Option Key) : Except StartFault Unit := do
  if !key.hasPrivate then .error .keyNotPrivate
  if settings.decoding = .publicRecover ∧ settings.scheme ≠ .pkcs1v15 then
    .error (.codec (.unsupported .publicRecovery))
  if settings.decoding = .privateDecrypt ∧ clientKey?.isNone then .error .clientKeyMissing
  (Codec.selfTest coins key settings.scheme settings.keySize).mapError .codec
  match clientKey? with
  | some clientKey =>
      (Codec.selfTest coins clientKey settings.scheme settings.keySize).mapError .codec
  | none => .ok ()

/-- The severity from which on the log of a relay is kept. A level that lets everything
pass leaves it to the rest of the program, which keeps warnings. -/
def logThreshold (env : Environment) : Except StartFault Nat :=
  match Level.threshold? env.logLevel with
  | some 0 => .ok Level.warning.severity
  | some n => .ok n
  | none => .error (.unknownLevel env.logLevel)

/-- Starts a relay. -/
def start [Json.NestingLimit] (coins : Coins) (env : Environment) (files : Files)
    (settings : ServiceSettings) (provision : Provision) : Except StartFault Service := do
  let key ← obtainKey files settings provision.key?
  let clientKey? ← obtainClientKey files settings provision.clientKey?
  let () ← checkKeys coins settings key clientKey?
  let threshold ← logThreshold env
  let handler := provision.handler?.getD (Handler.forward settings.backend settings.timeout)
  return ⟨settings, key, clientKey?, handler, threshold⟩

/-- Starts a relay with nothing but its environment. -/
def startIn [Json.NestingLimit] (coins : Coins) (env : Environment) (files : Files) :
    Except StartFault Service := do
  let settings ← (ServiceSettings.ofEnvironment env).mapError .setting
  start coins env files settings .none

/-- Keys that pass the checks hold private material on the side of the relay. -/
theorem hasPrivate_of_checkKeys {coins : Coins} {settings : ServiceSettings} {key : Key}
    {clientKey? : Option Key} (h : checkKeys coins settings key clientKey? = .ok ()) :
    key.hasPrivate = true := by
  cases hk : key.hasPrivate with
  | true => rfl
  | false => simp [checkKeys, hk, bind, Except.bind] at h

/-- Keys that pass the checks include one of the client if replies are encrypted for it. -/
theorem isSome_of_checkKeys {coins : Coins} {settings : ServiceSettings} {key : Key}
    {clientKey? : Option Key} (h : checkKeys coins settings key clientKey? = .ok ())
    (hd : settings.decoding = .privateDecrypt) : clientKey?.isSome = true := by
  have hk := hasPrivate_of_checkKeys h
  cases clientKey? with
  | some k => rfl
  | none => simp [checkKeys, hk, hd, bind, Except.bind] at h

/-- The keys and settings of a relay that runs have passed the checks. -/
theorem checkKeys_of_start [Json.NestingLimit] {coins : Coins} {env : Environment} {files : Files}
    {settings : ServiceSettings} {provision : Provision} {s : Service}
    (h : start coins env files settings provision = .ok s) :
    s.settings = settings ∧ checkKeys coins s.settings s.key s.clientKey? = .ok () := by
  unfold start at h
  simp only [bind, Except.bind, pure, Except.pure] at h
  split at h
  · cases h
  · split at h
    · cases h
    · split at h
      · cases h
      · rename_i hc
        split at h
        · cases h
        · cases h
          exact ⟨rfl, hc⟩

end Service

end SealedRpc.Relay
