import SealedRpc.Key.Material
import SealedRpc.Key.Pem

/-!
# Loading keys

Reading RSA keys from files. A private key comes from the first block with a private
label, a public key from the first block of all. A private key is checked before it is
taken: its factors are prime, and its other numbers follow from them.

What a passphrase makes of an encrypted key is left to an opener.

## Main results

* `Opener.loadAny_eq`: which of the two loaders reads a file depends on whether the file speaks
  of a private key anywhere.
* `acceptPrivate_eq_ok_iff`, `acceptPublic_eq_ok_iff`: the keys that are taken are the RSA
  keys that pass the checks.
-/

namespace SealedRpc

/-- Whether the numbers of a private key belong together. -/
def PrivateKey.isConsistent (key : PrivateKey) : Bool :=
  let e := key.toPublic.exponent
  key.p % 2 = 1 && key.q % 2 = 1 && e % 2 = 1 && 1 < e && key.p * key.q = key.toPublic.modulus &&
    key.exponent * e % Nat.lcm (key.p - 1) (key.q - 1) = 1 &&
    key.exponentP = key.exponent % (key.p - 1) && key.exponentQ = key.exponent % (key.q - 1) &&
    key.inverseQ < key.p && key.inverseQ * key.q % key.p = 1 &&
    Number.isProbablePrime key.p && Number.isProbablePrime key.q

/-- Whether the numbers of a public key can be those of one: the exponent is odd, at least
three and below the modulus. -/
def PublicKey.isProper (key : PublicKey) : Bool :=
  3 ≤ key.exponent && key.exponent < key.modulus && key.exponent % 2 = 1

namespace Key

/-- The handle of an RSA key; other keys have none. -/
def ofMaterial : Material Key → Except KeyFault Key
  | .rsa key => .ok key
  | .other => .error .notRsa

/-! ### Private keys -/

/-- The label of the structure that holds private keys of every kind. -/
def privateLabel : Text := "PRIVATE KEY"

/-- The label of encrypted private keys. -/
def encryptedLabel : Text := "ENCRYPTED PRIVATE KEY"

/-- The label of private RSA keys. -/
def rsaPrivateLabel : Text := "RSA PRIVATE KEY"

/-- The label of private keys on curves. -/
def curvePrivateLabel : Text := "EC PRIVATE KEY"

/-- The label of private keys for signatures over a prime field. -/
def signaturePrivateLabel : Text := "DSA PRIVATE KEY"

/-- The labels of blocks with private keys. -/
def privateLabels : List Text :=
  [privateLabel, encryptedLabel, rsaPrivateLabel, curvePrivateLabel, signaturePrivateLabel]

/-- Whether a block names the cipher of its data and where the cipher starts, with a comma
between them. -/
def namesCipher (block : Pem.Block) : Bool :=
  (block.header? "DEK-Info").any fun info => (Text.cut? ',' info).isSome

/-- What the headers of an encrypted block say about it. -/
def encryptedKind : Text := "4,ENCRYPTED"

/-- Whether a block is encrypted: its headers say so, or they do not say how it was made and
its label does. -/
def isEncrypted (block : Pem.Block) : Bool :=
  match block.header? "Proc-Type" with
  | none => block.label = encryptedLabel
  | some kind => kind = encryptedKind && namesCipher block

/-- Refuses a block that says in its headers that it is encrypted, or something else about
how it was made. -/
def checkHeaders (block : Pem.Block) : Except KeyFault Unit :=
  match block.header? "Proc-Type" with
  | none => .ok ()
  | some kind =>
      if kind = encryptedKind ∧ namesCipher block then .error .needsPassphrase
      else .error .unreadable

/-- The key in a block with a private label. -/
def privateMaterial (block : Pem.Block) : Except KeyFault (Material PrivateKey) :=
  let bytes := block.content
  if block.label = privateLabel then wrappedPrivate bytes
  else if block.label = rsaPrivateLabel then KeyKind.rsa.readPrivate bytes
  else if block.label = curvePrivateLabel then curvePrivate none bytes
  else if block.label = signaturePrivateLabel then other (isSignatureKey bytes)
  else do
    require (isEncryptedKey bytes)
    .error .needsPassphrase

/-- Takes a private RSA key whose numbers belong together. -/
def acceptPrivate : Material PrivateKey → Except KeyFault Key
  | .rsa key => if key.isConsistent then .ok (.ofPrivate key) else .error .unreadable
  | .other => .error .notRsaPrivate

/-- Exactly the private RSA keys are taken whose numbers belong together. -/
theorem acceptPrivate_eq_ok_iff {material : Material PrivateKey} {key : Key} :
    acceptPrivate material = .ok key ↔
      ∃ k, material = .rsa k ∧ k.isConsistent = true ∧ key = .ofPrivate k := by
  cases material with
  | other => simp [acceptPrivate]
  | rsa k =>
      simp only [acceptPrivate, Material.rsa.injEq, exists_eq_left']
      split
      · rename_i h
        simp [h, eq_comm]
      · rename_i h
        simp [h]

/-- What is made of encrypted blocks with passphrases that are not empty. -/
abbrev Opener := Pem.Block → Text → Except KeyFault (Material PrivateKey)

/-- No passphrase opens anything. -/
def Opener.none : Opener := fun _ _ => .error .unreadable

/-- Reads a private key from the content of a file. An empty passphrase is none; any other
is for an encrypted block. -/
def Opener.readPrivate (opener : Opener) (content : Bytes) (passphrase : Text) :
    Except KeyFault Key := do
  let some _ := Utf8.encode? passphrase | .error .passphraseNotUtf8
  let blocks ← readable (Pem.blocks? content)
  let block ← readable (blocks.find? fun b => privateLabels.contains b.label)
  if isEncrypted block && !passphrase.isEmpty then
    let material ← opener block passphrase
    acceptPrivate material
  else
    let () ← checkHeaders block
    let material ← privateMaterial block
    if passphrase.isEmpty then acceptPrivate material else .error .needsNoPassphrase

/-! ### Public keys -/

/-- The label of the structure that holds public keys of every kind. -/
def publicLabel : Text := "PUBLIC KEY"

/-- The label of public RSA keys. -/
def rsaPublicLabel : Text := "RSA PUBLIC KEY"

/-- The key in a block with a public label. Under the label of RSA the structure for keys of
every kind is read too if there is an RSA key in it. -/
def publicMaterial (block : Pem.Block) : Except KeyFault (Material PublicKey) :=
  let bytes := block.content
  if block.label = publicLabel then wrappedPublic bytes
  else if block.label = rsaPublicLabel then
    match rsaPublic? bytes, wrappedPublic bytes with
    | some key, _ | none, .ok (.rsa key) => .ok (.rsa key)
    | none, _ => .error .unreadable
  else .error .unreadable

/-- Takes a public RSA key whose numbers can be those of one. -/
def acceptPublic : Material PublicKey → Except KeyFault Key
  | .rsa key => if key.isProper then .ok (.ofPublic key) else .error .unreadable
  | .other => .error .notRsaPublic

/-- Exactly the public RSA keys are taken whose numbers can be those of one. -/
theorem acceptPublic_eq_ok_iff {material : Material PublicKey} {key : Key} :
    acceptPublic material = .ok key ↔
      ∃ k, material = .rsa k ∧ k.isProper = true ∧ key = .ofPublic k := by
  cases material with
  | other => simp [acceptPublic]
  | rsa k =>
      simp only [acceptPublic, Material.rsa.injEq, exists_eq_left']
      split
      · rename_i h
        simp [h, eq_comm]
      · rename_i h
        simp [h]

/-- Reads a public key from the content of a file. -/
def readPublic (content : Bytes) : Except KeyFault Key := do
  let block ← readable (Pem.firstBlock? content)
  let material ← publicMaterial block
  acceptPublic material

/-! ### Loading -/

/-- Whether one byte string stands somewhere in another. -/
def occursIn (part : Bytes) : Bytes → Bool
  | [] => part.isEmpty
  | b :: rest => part.isPrefixOf (b :: rest) || occursIn part rest

/-- Whether the content of a file speaks of a private key. -/
def mentionsPrivate (content : Bytes) : Bool :=
  occursIn (Pem.ascii "PRIVATE KEY") content

/-- Reads a key of either kind: a private one if the file speaks of one. -/
def Opener.readAny (opener : Opener) (content : Bytes) (passphrase : Text) : Except KeyFault Key :=
  if mentionsPrivate content then opener.readPrivate content passphrase else readPublic content

/-- Loads a private key from a file. -/
def Opener.loadPrivate (opener : Opener) (files : Files) (path : Text) (passphrase : Text) :
    Except KeyFault Key := do
  let content ← (files path).mapError .file
  opener.readPrivate content passphrase

/-- Loads a public key from a file. -/
def loadPublic (files : Files) (path : Text) : Except KeyFault Key := do
  let content ← (files path).mapError .file
  readPublic content

/-- Loads a key of either kind from a file. -/
def Opener.loadAny (opener : Opener) (files : Files) (path : Text) (passphrase : Text) :
    Except KeyFault Key := do
  let content ← (files path).mapError .file
  opener.readAny content passphrase

/-- Which loader reads a file depends on whether it speaks of a private key. -/
theorem Opener.loadAny_eq {opener : Opener} {files : Files} {path passphrase : Text}
    {content : Bytes} (h : files path = .ok content) : opener.loadAny files path passphrase
      = if mentionsPrivate content then opener.loadPrivate files path passphrase
        else loadPublic files path := by
  rw [Opener.loadAny, Opener.loadPrivate, loadPublic, h]
  rfl

/-! ### Without opening anything -/

/-- Loads a private key from a file, and opens no encrypted one. -/
def loadPrivate (files : Files) (path : Text) (passphrase : Text) : Except KeyFault Key :=
  Opener.none.loadPrivate files path passphrase

/-- Loads a key of either kind from a file, and opens no encrypted one. -/
def loadAny (files : Files) (path : Text) (passphrase : Text) : Except KeyFault Key :=
  Opener.none.loadAny files path passphrase

end Key

end SealedRpc
