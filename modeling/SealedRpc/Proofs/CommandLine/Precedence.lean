import SealedRpc.CommandLine.Run
import SealedRpc.Proofs.Codec.SelfTest
import SealedRpc.Proofs.Key.Loading

/-!
# What goes before the environment

An option on the command line of a client goes before a variable of the environment. So a command
should not depend on the variables whose options are given. What the environment says reaches a
command through `ClientOptions.choices` alone, and this is where the dependence is cut: commands
with the same choices are the same (`runCommand_congr`), and the choices are the same in
environments that differ in variables whose options are given (`choices_congr`).

There is one gap. All settings of the environment are read before any option is looked at. A number
that cannot be read leaves its default, but a scheme that is not known is a fault, and it ends the
command although the option for it is given. So what is proved of the scheme is proved of
environments in which it can be read.

## Main results

* `run_eq_of_overridden`: runs in environments that differ in variables whose options are given.
* `status_unread_scheme`: a variable that ends a command although its option is given.
-/

namespace SealedRpc

/-! ### Environments -/

/-- Strings with the same text are the same. -/
theorem Text.ofString_injective : Function.Injective Text.ofString := by
  have hchar : Function.Injective CodePoint.ofChar := by
    intro a b h
    have hval : a.toNat = b.toNat := congrArg (fun c : CodePoint => c.val) h
    exact Char.ext (UInt32.toNat_inj.mp hval)
  intro s t h
  exact String.toList_inj.mp (hchar.list_map h)

namespace Environment

/-- Whether two environments have the same variables, except that those of some names may differ. -/
def SameBut (names : String → Prop) (env env' : Environment) : Prop :=
  ∀ key : Text, (∀ name, names name → key ≠ nameStart ++ Text.ofString name) →
    env.lookup key = env'.lookup key

variable {names : String → Prop} {env env' : Environment} {name : String} {word : Text}

/-- An environment differs in nothing from itself. -/
theorem SameBut.refl (names : String → Prop) (env : Environment) : SameBut names env env :=
  fun _ _ => rfl

/-- A variable under one of the names may be set in one of them. -/
theorem SameBut.set (h : SameBut names env env') (hname : names name) (word : Text) :
    SameBut names env ((nameStart ++ Text.ofString name, word) :: env') := by
  intro key hkey
  rw [h key hkey, List.lookup_cons, beq_eq_false_iff_ne.mpr (hkey name hname)]

section SameBut

variable (h : SameBut names env env') (hname : ¬ names name)
include h hname

/-- A setting under another name is the same. -/
theorem SameBut.setting_eq (default : Text) :
    env.setting name default = env'.setting name default := by
  have hlookup := h (nameStart ++ Text.ofString name) fun other hother heq =>
    hname (Text.ofString_injective (List.append_cancel_left heq) ▸ hother)
  rw [setting, setting, hlookup]

/-- So is a setting that is not blank. -/
theorem SameBut.presentSetting?_eq : env.presentSetting? name = env'.presentSetting? name := by
  rw [presentSetting?, presentSetting?, h.setting_eq hname]

end SameBut

/-- Whether the scheme that is set, if one is, has a name that is known. -/
def ReadsScheme (env : Environment) : Prop :=
  ∀ word, env.presentSetting? "SCHEME" = some word → Scheme.parse? word ≠ none

/-- It can be read if it is this one. -/
theorem readsScheme_of_set (hset : env.presentSetting? "SCHEME" = some word)
    (hknown : Scheme.parse? word ≠ none) : env.ReadsScheme := by
  intro other hother
  obtain rfl := Option.some.inj (hset.symm.trans hother)
  exact hknown

/-- With nothing set there is nothing to be read. -/
theorem readsScheme_nil : ReadsScheme [] :=
  fun word hword => absurd hword (Option.some_ne_none word).symm

/-- A scheme that can be read is one. -/
theorem ReadsScheme.exists_scheme_eq (h : env.ReadsScheme) : ∃ scheme, env.scheme = .ok scheme := by
  rw [scheme]
  cases hword : env.presentSetting? "SCHEME" with
  | none => exact ⟨_, rfl⟩
  | some word =>
      obtain ⟨s, hs⟩ := Option.ne_none_iff_exists'.mp (h word hword)
      exact ⟨s, by simp only [readScheme, hs]⟩

/-- A scheme that is not known is a fault. -/
theorem scheme_of_unread (hword : env.presentSetting? "SCHEME" = some word)
    (hunread : Scheme.parse? word = none) : env.scheme = .error (.unknownScheme word) := by
  simp only [scheme, hword, readScheme, hunread]

end Environment

namespace CommandLine

open Environment

/-! ### Options -/

variable {o : ClientOptions} {env env' : Environment}

namespace ClientOptions

/-- Whether a variable, by its name, is one that the options of a client go before. An option for
the scheme counts unless it is empty. -/
def Overrides (o : ClientOptions) : String → Prop
  | "SCHEME" => ∃ word, o.scheme? = some (.value word) ∧ word ≠ []
  | "KEY_SIZE" => o.keySize? ≠ none
  | "TIMEOUT_SEC" => o.timeout? ≠ none
  | _ => False

/-- What counts depends on four settings, of which the last is only looked at for its faults. -/
theorem choices_eq (o : ClientOptions) (env : Environment) :
    o.choices env = env.scheme.bind fun ambient => env.decoding.bind fun _ =>
      (o.scheme ambient).map fun scheme =>
        ⟨scheme, o.keySize?.getD (.value env.keySize), o.timeout?.getD (.value env.timeout)⟩ := by
  rw [choices, ClientSettings.ofEnvironment]
  cases env.scheme with
  | error fault => rfl
  | ok ambient =>
      cases env.decoding with
      | error fault => rfl
      | ok decoding =>
          cases hscheme : o.scheme ambient <;>
            simp only [bind, Except.bind, pure, Except.pure, Except.map, hscheme]

/-- If the option for the scheme is given, no other scheme counts. -/
theorem scheme_of_overrides (h : o.Overrides "SCHEME") (ambient ambient' : Scheme) :
    o.scheme ambient = o.scheme ambient' := by
  obtain ⟨word, hword, hne⟩ := h
  rw [scheme, scheme, hword]
  simp only [List.isEmpty_eq_false_iff.mpr hne, Bool.false_eq_true, if_false]

/-- Either the option for the key size counts in any environment, or the setting is the same. -/
theorem keySize_congr (h : SameBut o.Overrides env env') :
    o.keySize?.getD (.value env.keySize) = o.keySize?.getD (.value env'.keySize) := by
  cases hsize : o.keySize? with
  | some size => rw [Option.getD_some, Option.getD_some]
  | none =>
      have hname : ¬ o.Overrides "KEY_SIZE" := fun h => h hsize
      rw [keySize, keySize, intSetting, intSetting, h.setting_eq hname]

/-- The same holds of the seconds that a request may take. -/
theorem timeout_congr (h : SameBut o.Overrides env env') :
    o.timeout?.getD (.value env.timeout) = o.timeout?.getD (.value env'.timeout) := by
  cases hseconds : o.timeout? with
  | some seconds => rw [Option.getD_some, Option.getD_some]
  | none =>
      have hname : ¬ o.Overrides "TIMEOUT_SEC" := fun h => h hseconds
      rw [timeout, timeout, secondsSetting, secondsSetting, h.setting_eq hname]

/-- What counts is the same in environments that differ in variables whose options are given, if
both schemes can be read where they differ. -/
theorem choices_congr (h : SameBut o.Overrides env env')
    (hread : o.Overrides "SCHEME" → env.ReadsScheme ∧ env'.ReadsScheme) :
    o.choices env = o.choices env' := by
  have hdecoding : env.decoding = env'.decoding := by
    rw [decoding, decoding, h.presentSetting?_eq id]
  rw [choices_eq, choices_eq, keySize_congr h, timeout_congr h, hdecoding]
  by_cases hscheme : o.Overrides "SCHEME"
  · obtain ⟨ambient, hambient⟩ := (hread hscheme).1.exists_scheme_eq
    obtain ⟨ambient', hambient'⟩ := (hread hscheme).2.exists_scheme_eq
    rw [hambient, hambient']
    simp only [Except.bind, scheme_of_overrides hscheme ambient ambient']
  · have hsame : env.scheme = env'.scheme := by
      rw [Environment.scheme, Environment.scheme, h.presentSetting?_eq hscheme]
    rw [hsame]

/-- A scheme that is not known is a fault, whatever options are given. -/
theorem choices_of_unread {word : Text} (hword : env.presentSetting? "SCHEME" = some word)
    (hunread : Scheme.parse? word = none) (o : ClientOptions) :
    o.choices env = .error (.unknownScheme word) := by
  rw [choices_eq, scheme_of_unread hword hunread]
  rfl

end ClientOptions

/-! ### Commands -/

/-- The options of a command of a client. -/
def Command.options? : Command → Option ClientOptions
  | .encryptedRequest _ _ options | .signedRequest _ options | .selfTest _ options => some options
  | .serve _ _ => none

section

variable [Json.NestingLimit] {c : Command}

/-- The environment reaches the stages of a command of a client through what counts alone. -/
theorem prepare_congr (hoptions : c.options? = some o) {w : World}
    (h : o.choices w.env = o.choices env) (logLevel : Text) :
    c.prepare { w with env } logLevel = c.prepare w logLevel := by
  cases c with
  | encryptedRequest target clientKey? options =>
      obtain rfl := Option.some.inj hoptions
      rw [Command.prepare, Command.prepare, h]
      rfl
  | signedRequest target options =>
      obtain rfl := Option.some.inj hoptions
      rw [Command.prepare, Command.prepare, h]
  | selfTest keyFile options =>
      obtain rfl := Option.some.inj hoptions
      rw [Command.prepare, Command.prepare, h]
  | serve host port => cases hoptions

/-- It does not reach tasks at all. -/
theorem outcome_congr (w : World) (threshold : Nat) (task : Task) :
    task.outcome { w with env } threshold = task.outcome w threshold := by
  cases task <;> rfl

/-- So it reaches the command through what counts alone. -/
theorem runCommand_congr (hoptions : c.options? = some o) {w : World}
    (h : o.choices w.env = o.choices env) (logLevel : Text) (threshold : Nat) :
    runCommand { w with env } logLevel threshold c = runCommand w logLevel threshold c := by
  rw [runCommand, runCommand, prepare_congr hoptions h]
  simp only [outcome_congr]

/-- A command of a client whose choices are at fault is refused before anything else. -/
theorem runCommand_of_fault (hoptions : c.options? = some o) {w : World} {fault : SettingFault}
    (h : o.choices w.env = .error fault) (logLevel : Text) (threshold : Nat) :
    runCommand w logLevel threshold c = refused fault := by
  have hprepare : c.prepare w logLevel = .error (.configuration fault) := by
    cases c with
    | encryptedRequest target clientKey? options =>
        obtain rfl := Option.some.inj hoptions
        rw [Command.prepare, h]
        rfl
    | signedRequest target options =>
        obtain rfl := Option.some.inj hoptions
        rw [Command.prepare, h]
        rfl
    | selfTest keyFile options =>
        obtain rfl := Option.some.inj hoptions
        rw [Command.prepare, h]
        rfl
    | serve host port => cases hoptions
  rw [runCommand, hprepare]
  rfl

/-- A self-test comes to the line that it shows if its key is loaded and passes. -/
theorem prepare_selfTest {w : World} {file : Argument Text} {choices : Choices} {key : Key}
    {logLevel : Text} (hchoices : o.choices w.env = .ok choices)
    (hload : loadKey file (fun t => Key.loadAny w.files t []) = .ok key)
    (htest : Codec.selfTest w.coins key choices.scheme (expectedSize choices.keySize) = .ok ()) :
    (Command.selfTest file o).prepare w logLevel
      = .ok (.report (testedLine key choices.scheme)) := by
  rw [Command.prepare, hchoices]
  simp only [Except.mapError_ok, hload, htest, bind, Except.bind, pure, Except.pure]

/-- **What is given goes before the environment.** Take any command line of a client, and two
environments that differ only in variables whose options are given, whatever these variables hold.
The command comes to the same in both, to the last line and request, under the same random choices,
also if the words are refused; unless the option for the scheme is among those that are given, and
one of the two environments names a scheme that is not known. In such an environment the command is
refused with a line about that name, if its log level is known. -/
theorem run_eq_of_overridden {words : List Text}
    (hoptions : ∀ i, parse words = .ok i → i.command.options? = some o) {w : World}
    (hsame : SameBut o.Overrides w.env env) :
    ((o.Overrides "SCHEME" → w.env.ReadsScheme ∧ env.ReadsScheme) →
      run { w with env } words = run w words) ∧
    ∀ word, w.env.presentSetting? "SCHEME" = some word → Scheme.parse? word = none →
      ∀ i level threshold, parse words = .ok i → i.logLevel = .value level →
        Level.threshold? level.toUpper = some threshold →
        run w words = refused (.unknownScheme word) := by
  constructor
  · intro hread
    have hchoices := ClientOptions.choices_congr hsame hread
    cases hparse : parse words with
    | error exit => simp only [run, hparse]
    | ok i =>
        simp only [run, hparse, Invocation.run, runCommand_congr (hoptions i hparse) hchoices]
  · intro word hword hunread i level threshold hparse hlevel hthreshold
    have hfault := ClientOptions.choices_of_unread hword hunread o
    simp only [run, hparse, Invocation.run, hlevel, hthreshold,
      runCommand_of_fault (hoptions i hparse) hfault]

end

/-! ### A variable that ends a command -/

/-- A file with a public key of 32 octets. -/
def keyFile : Bytes :=
  Pem.ascii ("-----BEGIN PUBLIC KEY-----\n" ++
    "MDwwDQYJKoZIhvcNAQEBBQADKwAwKAIhAL77ZIXnXqlbSTAvWeUxEUIJeDejLaf3\n" ++
    "B31fMqH9lIZxAgMBAAE=\n-----END PUBLIC KEY-----\n")

/-- A directory with the file. -/
def keyWorld (env : Environment) : World where
  coins := .constant
  env
  files := Files.ofDirectory [("k.pem", keyFile)]
  network := fun _ => .failed (.unnumbered [])
  server := .ok fun _ => .ok ()

/-- The key in the file is loaded. -/
theorem loadAny_keyWorld (env : Environment) :
    Key.loadAny (keyWorld env).files "k.pem" [] = .ok (.ofPublic Key.commentedKey) := by
  have hfile : (keyWorld env).files "k.pem" = .ok keyFile := by
    change Files.ofDirectory [("k.pem", keyFile)] "k.pem" = .ok keyFile
    generalize keyFile = content
    rfl
  have hraw : Pem.rawBlock? keyFile = some (Key.commentedRawBlock, []) := by
    simp only [keyFile, Key.commentedRawBlock, Pem.ascii, String.toList_append,
      String.reduceToList]
    decide +kernel
  have hwords : Key.mentionsPrivate keyFile = false := by
    simp only [keyFile, Pem.ascii, String.toList_append, String.reduceToList]
    decide +kernel
  have hfirst : Pem.firstBlock? keyFile = some Key.commentedBlock :=
    (Pem.firstBlock?_of_rawBlock? hraw).trans Key.readBlock?_commentedRawBlock
  have hmaterial : Key.publicMaterial Key.commentedBlock = .ok (.rsa Key.commentedKey) := rfl
  have haccept : Key.acceptPublic (.rsa Key.commentedKey) = .ok (.ofPublic Key.commentedKey) :=
    Key.acceptPublic_eq_ok_iff.mpr ⟨Key.commentedKey, rfl, by decide +kernel, rfl⟩
  have hpublic : Key.readPublic keyFile = .ok (.ofPublic Key.commentedKey) := by
    rw [Key.readPublic_of_firstBlock hfirst, hmaterial]
    exact haccept
  rw [Key.loadAny, Key.Opener.loadAny_eq hfile, if_neg (Bool.eq_false_iff.mp hwords)]
  exact (Key.loadPublic_of_file hfile).trans hpublic

/-- A self-test with options for the scheme and the key size. -/
def pinnedWords : List Text :=
  ["self-test", "k.pem", "--scheme", "pkcs1v15", "--key-size", "32"]

/-- These options. -/
def pinnedOptions : ClientOptions := ⟨some (.value "pkcs1v15"), some (.value 32), none⟩

/-- The scheme is given. -/
theorem overrides_pinnedOptions : pinnedOptions.Overrides "SCHEME" := ⟨"pkcs1v15", rfl, by decide⟩

/-- The words are read as the self-test with the options. -/
theorem parse_pinnedWords :
    parse pinnedWords = .ok ⟨.value "WARNING", .selfTest (.value "k.pem") pinnedOptions⟩ := by
  decide +kernel

/-- These are the options of the command. -/
theorem options?_pinnedWords {i : Invocation} (hparse : parse pinnedWords = .ok i) :
    i.command.options? = some pinnedOptions := by
  obtain rfl := Except.ok.inj (parse_pinnedWords.symm.trans hparse)
  rfl

/-- With nothing set, the self-test passes. -/
theorem status_run_pinnedWords : (run (keyWorld []) pinnedWords).status = .ok 0 := by
  have hthreshold : Level.threshold? (Text.toUpper "WARNING") = some 30 := by decide +kernel
  have hchoices : pinnedOptions.choices (keyWorld []).env
      = .ok ⟨.pkcs1v15, .value 32, .value Http.Endpoint.defaultTimeout⟩ := rfl
  have hload : loadKey (.value "k.pem") (fun t => Key.loadAny (keyWorld []).files t [])
      = .ok (.ofPublic Key.commentedKey) := by
    rw [loadKey, loadAny_keyWorld]
    rfl
  have husable : Codec.Usable (.ofPublic Key.commentedKey) .pkcs1v15 (.octets 32) :=
    ⟨by decide +kernel, by decide +kernel, by decide +kernel⟩
  have htest : Codec.selfTest (keyWorld []).coins (.ofPublic Key.commentedKey) .pkcs1v15
      (expectedSize (.value 32)) = .ok () := Codec.selfTest_eq_ok_iff.mpr husable
  have hrun : run (keyWorld []) pinnedWords
      = runCommand (keyWorld []) "WARNING" 30 (.selfTest (.value "k.pem") pinnedOptions) := by
    simp only [run, parse_pinnedWords, Invocation.run, hthreshold]
  rw [hrun, runCommand, prepare_selfTest hchoices hload htest]
  rfl

/-- An environment with another scheme and with a text that is no number for the key size. -/
def restlessEnvironment : Environment :=
  [("MIRRORCRYPT_SCHEME", "OAEP"), ("MIRRORCRYPT_KEY_SIZE", "many")]

/-- There the self-test passes all the same. -/
theorem run_eq_of_overridden_sample :
    (∀ i, parse pinnedWords = .ok i → i.command.options? = some pinnedOptions) ∧
    SameBut pinnedOptions.Overrides [] restlessEnvironment ∧
    (pinnedOptions.Overrides "SCHEME" → ReadsScheme [] ∧ restlessEnvironment.ReadsScheme) ∧
    (run (keyWorld restlessEnvironment) pinnedWords).status = .ok 0 := by
  have hsize : pinnedOptions.Overrides "KEY_SIZE" := Option.some_ne_none _
  have hsame : SameBut pinnedOptions.Overrides [] restlessEnvironment :=
    ((SameBut.refl _ []).set hsize "many").set overrides_pinnedOptions "OAEP"
  have hset : restlessEnvironment.presentSetting? "SCHEME" = some "OAEP" := by decide +kernel
  have hread : pinnedOptions.Overrides "SCHEME" →
      ReadsScheme [] ∧ restlessEnvironment.ReadsScheme :=
    fun _ => ⟨readsScheme_nil, readsScheme_of_set hset (by decide +kernel)⟩
  have hoptions : ∀ i, parse pinnedWords = .ok i → i.command.options? = some pinnedOptions :=
    fun _ => options?_pinnedWords
  have hsame' : SameBut pinnedOptions.Overrides (keyWorld []).env restlessEnvironment := hsame
  have hrun := (run_eq_of_overridden hoptions hsame').1 hread
  exact ⟨hoptions, hsame, hread, (congrArg Outcome.status hrun).trans status_run_pinnedWords⟩

/-- A name that is not known ends the self-test although the scheme is given. -/
theorem status_unread_scheme :
    parse pinnedWords = .ok ⟨.value "WARNING", .selfTest (.value "k.pem") pinnedOptions⟩ ∧
    pinnedOptions.Overrides "SCHEME" ∧
    SameBut (· = "SCHEME") [] [("MIRRORCRYPT_SCHEME", "bogus")] ∧
    (run (keyWorld []) pinnedWords).status = .ok 0 ∧
    (run (keyWorld [("MIRRORCRYPT_SCHEME", "bogus")]) pinnedWords).status = .ok 2 := by
  have hname : (· = "SCHEME") "SCHEME" := rfl
  have hsame : SameBut (· = "SCHEME") [] [("MIRRORCRYPT_SCHEME", "bogus")] :=
    (SameBut.refl (· = "SCHEME") []).set hname "bogus"
  have hset : presentSetting? [("MIRRORCRYPT_SCHEME", "bogus")] "SCHEME" = some "bogus" := by
    decide +kernel
  have hfault := ClientOptions.choices_of_unread hset (by decide +kernel) pinnedOptions
  have hthreshold : Level.threshold? (Text.toUpper "WARNING") = some 30 := by decide +kernel
  refine ⟨parse_pinnedWords, overrides_pinnedOptions, hsame, status_run_pinnedWords, ?_⟩
  simp only [run, parse_pinnedWords, Invocation.run, hthreshold]
  rw [runCommand_of_fault rfl hfault]
  rfl

end CommandLine

end SealedRpc
