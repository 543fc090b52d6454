import SealedRpc.Key.Algorithm
import SealedRpc.Key.Basic

/-!
# What key files hold

Reading the structures of key files. RSA keys are taken as they stand, without a look at
their numbers. Of keys of other kinds only this much is asked: whether they are in order.

## Main results

* `rsaPrivate?_isSome_iff`, `rsaPublic?_isSome_iff`: which structures hold RSA keys.
-/

namespace SealedRpc.Key

open Der (Element)

/-- What a structure holds: an RSA key, or a key of another kind. -/
inductive Material (α : Type) where
  | rsa (key : α)
  | other
  deriving DecidableEq, Repr

/-- Finding that a key of another kind is in order. -/
def other {α : Type} (inOrder : Bool) : Except KeyFault (Material α) :=
  (require inOrder).map fun () => .other

/-! ### RSA keys -/

/-- The numbers in a structure that is nothing but numbers. -/
def naturals? (bytes : Bytes) : Option (List Nat) := do
  (← Der.sequence? bytes).mapM Der.natural?

/-- The private key in the structure of its numbers. -/
def rsaPrivate? (bytes : Bytes) : Option PrivateKey := do
  match ← naturals? bytes with
  | [0, n, e, d, p, q, dp, dq, qi] => some ⟨⟨n, e⟩, d, p, q, dp, dq, qi⟩
  | _ => none

/-- The public key in the structure of its numbers. -/
def rsaPublic? (bytes : Bytes) : Option PublicKey := do
  match ← naturals? bytes with
  | [n, e] => some ⟨n, e⟩
  | _ => none

/-- Private RSA keys are nine numbers, the first of which is zero. -/
theorem rsaPrivate?_isSome_iff {bytes : Bytes} :
    (rsaPrivate? bytes).isSome ↔
      ∃ numbers, naturals? bytes = some (0 :: numbers) ∧ numbers.length = 8 := by
  unfold rsaPrivate?
  cases h : naturals? bytes with
  | none => simp
  | some numbers =>
      simp only [Option.bind_eq_bind, Option.bind_some, Option.some.injEq]
      split
      · exact ⟨fun _ => ⟨_, rfl, rfl⟩, fun _ => rfl⟩
      · rename_i hne
        constructor
        · intro hs
          cases hs
        · rintro ⟨rest, rfl, hl⟩
          match rest, hl with
          | [n, e, d, p, q, dp, dq, qi], _ => exact absurd rfl (hne n e d p q dp dq qi)

/-- Public RSA keys are two numbers. -/
theorem rsaPublic?_isSome_iff {bytes : Bytes} :
    (rsaPublic? bytes).isSome ↔ ∃ n e, naturals? bytes = some [n, e] := by
  unfold rsaPublic?
  cases h : naturals? bytes with
  | none => simp
  | some numbers =>
      simp only [Option.bind_eq_bind, Option.bind_some, Option.some.injEq]
      split
      · exact ⟨fun _ => ⟨_, _, rfl⟩, fun _ => rfl⟩
      · rename_i hne
        constructor
        · intro hs
          cases hs
        · rintro ⟨n, e, rfl⟩
          exact absurd rfl (hne n e)

/-! ### Keys on curves -/

/-- A private key on a curve: its number, the curve if it is given here, and the public
point if it is written down. -/
structure CurveSecret where
  factor : Nat
  parameters? : Option Element
  point? : Option Bytes
  deriving DecidableEq, Repr

/-- Reads the structure of a private key on a curve. -/
def CurveSecret.ofBytes? (bytes : Bytes) : Option CurveSecret := do
  let version :: factor :: rest ← Der.sequence? bytes | none
  let (parameters, rest) := Der.optional (Der.fieldTag 0) rest
  let (point, rest) := Der.optional (Der.fieldTag 1) rest
  let factor ← Der.contentOf? Der.octetStringTag factor
  let parameters? ← parameters.mapM fun field => do
    let e ← Der.whole? field.content
    if isCurveChoice e then some e else none
  let point? ← point.mapM fun field => do
    return (← Der.bits? (← Der.whole? field.content)).2
  if Der.natural? version = some 1 ∧ rest.isEmpty then
    return ⟨Bytes.toNat factor, parameters?, point?⟩
  else none

/-- Whether a private key on a curve is in order: its number is positive and below the order
of the generator, and the public point, if it is written down, is that multiple of the
generator. -/
def CurveSecret.isOn (c : Curve) (secret : CurveSecret) : Bool :=
  let point := c.multiple secret.factor c.generator
  0 < secret.factor && secret.factor < c.order && secret.point?.all fun bytes =>
    (WrittenPoint.ofBytes? c.size bytes).any (·.writes point)

/-- The one choice that two places make which may each leave it to the other. -/
def agreed? (a b : Option Element) : Option Element :=
  match a, b with
  | some a, some b => if a = b then some a else none
  | some a, none => some a
  | none, b => b

/-- Reads a private key on a curve that may be given outside of its structure. -/
def curvePrivate {α : Type} (outer : Option Element) (bytes : Bytes) :
    Except KeyFault (Material α) := do
  let secret ← readable (CurveSecret.ofBytes? bytes)
  let parameters ← readable (agreed? outer secret.parameters?)
  let c ← curveOf parameters
  other (secret.isOn c)

/-- Reads a public key on a curve. -/
def curvePublic {α : Type} (parameters : Element) (bytes : Bytes) :
    Except KeyFault (Material α) := do
  let c ← curveOf parameters
  other ((WrittenPoint.ofBytes? c.size bytes).any (·.isOn c))

/-! ### Other keys -/

/-- Whether octets write numbers of twelve bits, two in three octets and the low octet
first, that are remainders modulo 3329. -/
def areRemainders : Bytes → Bool
  | a :: b :: c :: rest =>
      let (a, b, c) := (a.toNat, b.toNat, c.toNat)
      a + 256 * (b % 16) < 3329 && b / 16 + 16 * c < 3329 && areRemainders rest
  | rest => rest.isEmpty

/-- Whether octets are a private key of a form. -/
def OctetForm.isPrivate (form : OctetForm) (bytes : Bytes) : Bool :=
  (Der.whole? bytes).any fun e => e.tag = form.privateTag && e.content.length = form.privateSize

/-- Whether octets are a public key of a form. -/
def OctetForm.isPublic (form : OctetForm) (bytes : Bytes) : Bool :=
  bytes.length = form.publicSize && areRemainders (bytes.take (form.remainders / 2 * 3))

/-- Whether octets are one number. -/
def isNumber (bytes : Bytes) : Bool :=
  ((Der.whole? bytes).bind Der.natural?).isSome

/-- Whether octets are the numbers of a private key for signatures over a prime field,
together with its group and its public number. -/
def isSignatureKey (bytes : Bytes) : Bool :=
  match naturals? bytes with
  | some [0, _, _, _, _, _] => true
  | _ => false

/-! ### Keys of every kind -/

/-- Reads a private key of a kind. -/
def KeyKind.readPrivate (kind : KeyKind) (bytes : Bytes) :
    Except KeyFault (Material PrivateKey) :=
  match kind with
  | .rsa => (readable (rsaPrivate? bytes)).map .rsa
  | .onCurve parameters => curvePrivate (some parameters) bytes
  | .octets form => other (form.isPrivate bytes)
  | .number => other (isNumber bytes)

/-- Reads a public key of a kind. -/
def KeyKind.readPublic (kind : KeyKind) (bytes : Bytes) : Except KeyFault (Material PublicKey) :=
  match kind with
  | .rsa => (readable (rsaPublic? bytes)).map .rsa
  | .onCurve parameters => curvePublic parameters bytes
  | .octets form => other (form.isPublic bytes)
  | .number => other (isNumber bytes)

/-- Whether an element is an attribute: a name and a set of values. -/
def isAttribute (e : Element) : Bool :=
  match Der.elementsOf? Der.sequenceTag e with
  | some [name, values] =>
      (Der.identifier? name).isSome && (Der.elementsOf? Der.setTag values).isSome
  | _ => false

/-- The algorithm and the content of the structure that holds private keys of every kind.
Attributes may follow. -/
def privateParts? (bytes : Bytes) : Option (KeyKind × Bytes) := do
  let version :: algorithm :: content :: rest ← Der.sequence? bytes | none
  let (attributes, rest) := Der.optional (Der.fieldTag 0) rest
  let kind ← (← Algorithm.ofElement? algorithm).kind?
  let content ← Der.contentOf? Der.octetStringTag content
  let areAttributes := attributes.all fun field =>
    (Der.elements? field.content).any fun elements => elements.all isAttribute
  if Der.natural? version = some 0 ∧ areAttributes ∧ rest.isEmpty then some (kind, content)
  else none

/-- The algorithm and the content of the structure that holds public keys of every kind. -/
def publicParts? (bytes : Bytes) : Option (KeyKind × Bytes) := do
  let [algorithm, content] ← Der.sequence? bytes | none
  let kind ← (← Algorithm.ofElement? algorithm).kind?
  let (unused, content) ← Der.bits? content
  if unused = 0 then some (kind, content) else none

/-- Reads the structure that holds private keys of every kind. -/
def wrappedPrivate (bytes : Bytes) : Except KeyFault (Material PrivateKey) := do
  let (kind, content) ← readable (privateParts? bytes)
  kind.readPrivate content

/-- Reads the structure that holds public keys of every kind. -/
def wrappedPublic (bytes : Bytes) : Except KeyFault (Material PublicKey) := do
  let (kind, content) ← readable (publicParts? bytes)
  kind.readPublic content

/-! ### Encrypted keys -/

/-- The identifier of encryption with a key that is derived from a passphrase. -/
def passphraseIdentifier : Bytes := [0x2A, 0x86, 0x48, 0x86, 0xF7, 0x0D, 0x01, 0x05, 0x0D]

/-- Whether an element names an encryption. One with a key from a passphrase says in its
parameters how the key is derived and what is done with it. -/
def isEncryption (e : Element) : Bool :=
  (Algorithm.ofElement? e).any fun a =>
    a.identifier ≠ passphraseIdentifier || a.parameters?.any fun p =>
      match Der.elementsOf? Der.sequenceTag p with
      | some [derivation, cipher] =>
          (Algorithm.ofElement? derivation).isSome && (Algorithm.ofElement? cipher).isSome
      | _ => false

/-- Whether octets are an encrypted private key: how it is encrypted, and the result. -/
def isEncryptedKey (bytes : Bytes) : Bool :=
  match Der.sequence? bytes with
  | some [encryption, content] =>
      isEncryption encryption && (Der.contentOf? Der.octetStringTag content).isSome
  | _ => false

end SealedRpc.Key
