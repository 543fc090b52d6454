import SealedRpc.Key.CurveTable
import SealedRpc.Key.Fault

/-!
# Algorithms in key files

A key file names the algorithm that its key is for, and may give parameters with the name.
This decides what form the key has.
-/

namespace SealedRpc.Key

open Der (Element)

/-- An algorithm: the identifier that names it, and its parameters. -/
structure Algorithm where
  identifier : Bytes
  parameters? : Option Element
  deriving DecidableEq, Repr

/-- Reads the element that names an algorithm. -/
def Algorithm.ofElement? (e : Element) : Option Algorithm := do
  match ← Der.elementsOf? Der.sequenceTag e with
  | [name] => return ⟨← Der.identifier? name, none⟩
  | [name, parameters] => return ⟨← Der.identifier? name, some parameters⟩
  | _ => none

/-- The element without content. -/
def null : Element := ⟨Der.nullTag, []⟩

/-- Whether an algorithm that takes no parameters has none: they are left out, or there is
the element without content in their place. -/
def Algorithm.isPlain (a : Algorithm) : Bool :=
  a.parameters?.all (· = null)

/-! ### Parameters of probabilistic signatures -/

/-- The identifiers of digests. -/
def digestIdentifiers : List Bytes :=
  [0x2B, 0x0E, 0x03, 0x02, 0x1A] ::
    [1, 2, 3, 4, 7, 8, 9, 10].map fun n => [0x60, 0x86, 0x48, 0x01, 0x65, 0x03, 0x04, 0x02, n]

/-- The digest that is meant if none is given. -/
def usualDigest : Algorithm := ⟨[0x2B, 0x0E, 0x03, 0x02, 0x1A], some null⟩

/-- Whether an algorithm may be given as a digest: one that is known takes no parameters. -/
def isDigest (a : Algorithm) : Bool :=
  !digestIdentifiers.contains a.identifier || a.isPlain

/-- The identifier of the mask that is meant if none is given; it goes with a digest. -/
def usualMask : Bytes := [0x2A, 0x86, 0x48, 0x86, 0xF7, 0x0D, 0x01, 0x01, 0x08]

/-- Reads a mask: an identifier and the digest that goes with it. -/
def mask? (e : Element) : Option (Bytes × Algorithm) := do
  match ← Der.elementsOf? Der.sequenceTag e with
  | [name, digest] =>
      let digest ← Algorithm.ofElement? digest
      if isDigest digest then return (← Der.identifier? name, digest) else none
  | _ => none

/-- Whether a number is given that fits in an octet or two and is not the usual one. -/
def isUnusualNumber (bound usual : Nat) (e : Element) : Bool :=
  (Der.natural? e).any fun n => n < bound && n ≠ usual

/-- Whether an element gives a digest, a mask, a length of the salt and a trailer, leaving
out each that is the usual one. -/
def isSignatureChoice (e : Element) : Bool :=
  match Der.elementsOf? Der.sequenceTag e with
  | none => false
  | some fields =>
      let (digest, fields) := Der.optional (Der.fieldTag 0) fields
      let (mask, fields) := Der.optional (Der.fieldTag 1) fields
      let (salt, fields) := Der.optional (Der.fieldTag 2) fields
      let (trailer, fields) := Der.optional (Der.fieldTag 3) fields
      let inside := fun (field : Option Element) (holds : Element → Bool) =>
        field.all fun f => (Der.whole? f.content).any holds
      fields.isEmpty &&
        inside digest (fun e =>
          (Algorithm.ofElement? e).any fun a => isDigest a && a ≠ usualDigest) &&
        inside mask (fun e => (mask? e).any (· ≠ (usualMask, usualDigest))) &&
        inside salt (isUnusualNumber 0x10000 20) && inside trailer (isUnusualNumber 0x100 1)

/-! ### Parameters of curves -/

/-- The identifier of prime fields. -/
def primeField : Bytes := [0x2A, 0x86, 0x48, 0xCE, 0x3D, 0x01, 0x01]

/-- The point of a curve that makes the others, in the form with both coordinates. -/
def writtenGenerator (c : Curve) : Bytes :=
  4 :: Bytes.ofNat c.size c.x ++ Bytes.ofNat c.size c.y

/-- Whether an element gives a curve by its numbers: field, coefficients, generator and
order, with or without the seed of the coefficients and the cofactor, which is one. -/
def spellsOut (c : Curve) (e : Element) : Bool :=
  (do
    let version :: field :: coefficients :: base :: order :: cofactor ←
      Der.elementsOf? Der.sequenceTag e | none
    let [name, modulus] ← Der.elementsOf? Der.sequenceTag field | none
    let a :: b :: seed ← Der.elementsOf? Der.sequenceTag coefficients | none
    let isRest := fun (rest : List Element) (holds : Element → Bool) =>
      rest.length ≤ 1 && rest.all holds
    return Der.natural? version = some 1 && Der.identifier? name = some primeField &&
      Der.natural? modulus = some c.modulus &&
      Der.contentOf? Der.octetStringTag a = some (Bytes.ofNat c.size c.a) &&
      Der.contentOf? Der.octetStringTag b = some (Bytes.ofNat c.size c.b) &&
      isRest seed (fun s => (Der.bits? s).isSome) &&
      Der.contentOf? Der.octetStringTag base = some (writtenGenerator c) &&
      Der.natural? order = some c.order &&
      isRest cofactor (fun n => Der.natural? n = some 1) : Option Bool) = some true

/-- Whether an element can stand for a curve: a name, its numbers, or nothing, which leaves
the curve to be known from elsewhere. -/
def isCurveChoice (e : Element) : Bool :=
  (Der.identifier? e).isSome || (Der.elementsOf? Der.sequenceTag e).isSome || e = null

/-- The curve that an element stands for. -/
def curveOf (e : Element) : Except KeyFault Curve :=
  match Der.identifier? e with
  | some name =>
      match Curve.all.find? (·.identifier = name) with
      | some c => .ok c
      | none => .error (.unknownCurve name)
  | none => readable (Curve.spelledOut.find? fun c => spellsOut c e)

/-! ### Parameters over prime fields -/

/-- Whether an element gives the numbers of a group for signatures. -/
def isSignatureGroup (e : Element) : Bool :=
  match Der.elementsOf? Der.sequenceTag e with
  | some [p, q, g] => [p, q, g].all fun n => (Der.natural? n).isSome
  | _ => false

/-- Whether an element gives the numbers of a group for agreeing on secrets, and perhaps
the length of secrets. -/
def isAgreementGroup (e : Element) : Bool :=
  match Der.elementsOf? Der.sequenceTag e with
  | some (p :: g :: rest) =>
      (p :: g :: rest).all (fun n => (Der.natural? n).isSome) && rest.length ≤ 1 &&
        rest.all fun n => (Der.natural? n).any (· < 2 ^ 32)
  | _ => false

/-- Whether an element says how the numbers of a group were found: a seed and a counter. -/
def isValidation (e : Element) : Bool :=
  match Der.elementsOf? Der.sequenceTag e with
  | some [seed, counter] => (Der.bits? seed).isSome && (Der.natural? counter).isSome
  | _ => false

/-- Whether an element gives the numbers of a group with the order of its generator, and
perhaps the cofactor and how they were found. -/
def isOrderedGroup (e : Element) : Bool :=
  match Der.elementsOf? Der.sequenceTag e with
  | some (p :: g :: q :: rest) =>
      let (cofactor, rest) := Der.optional Der.integerTag rest
      let (validation, rest) := Der.optional Der.sequenceTag rest
      ([p, g, q] ++ cofactor.toList).all (fun n => (Der.natural? n).isSome) &&
        validation.all isValidation && rest.isEmpty
  | _ => false

/-! ### Kinds of keys -/

/-- Keys that are so and so many octets. The private ones stand in an element with a tag.
The public ones start with numbers of twelve bits, low octet first, that are remainders
modulo 3329. -/
structure OctetForm where
  privateTag : UInt8
  privateSize : Nat
  publicSize : Nat
  remainders : Nat
  deriving DecidableEq, Repr

/-- The form of a key. -/
inductive KeyKind where
  | rsa
  | onCurve (parameters : Element)
  | octets (form : OctetForm)
  | number
  deriving DecidableEq, Repr

/-- The identifier of RSA keys. -/
def rsaIdentifier : Bytes := [0x2A, 0x86, 0x48, 0x86, 0xF7, 0x0D, 0x01, 0x01, 0x01]

/-- The identifier of RSA keys for probabilistic signatures. -/
def probabilisticIdentifier : Bytes := [0x2A, 0x86, 0x48, 0x86, 0xF7, 0x0D, 0x01, 0x01, 0x0A]

/-- The identifier of keys on a curve that the parameters give. -/
def curveIdentifier : Bytes := [0x2A, 0x86, 0x48, 0xCE, 0x3D, 0x02, 0x01]

/-- The keys that are a number over a prime field: their identifiers, and what their
parameters are. -/
def numberForms : List (Bytes × (Element → Bool)) :=
  [([0x2A, 0x86, 0x48, 0xCE, 0x38, 0x04, 0x01], isSignatureGroup),
    ([0x2A, 0x86, 0x48, 0x86, 0xF7, 0x0D, 0x01, 0x03, 0x01], isAgreementGroup),
    ([0x2A, 0x86, 0x48, 0xCE, 0x3E, 0x02, 0x01], isOrderedGroup)]

/-- The keys that are octets, by their identifiers. They have no parameters. -/
def octetForms : List (Bytes × OctetForm) :=
  let lattice : Bytes := [0x60, 0x86, 0x48, 0x01, 0x65, 0x03, 0x04]
  [([0x2B, 0x65, 0x70], ⟨Der.octetStringTag, 32, 32, 0⟩),
    ([0x2B, 0x65, 0x71], ⟨Der.octetStringTag, 57, 57, 0⟩),
    ([0x2B, 0x65, 0x6E], ⟨Der.octetStringTag, 32, 32, 0⟩),
    ([0x2B, 0x65, 0x6F], ⟨Der.octetStringTag, 56, 56, 0⟩),
    (lattice ++ [0x03, 0x11], ⟨Der.octetFieldTag 0, 32, 1312, 0⟩),
    (lattice ++ [0x03, 0x12], ⟨Der.octetFieldTag 0, 32, 1952, 0⟩),
    (lattice ++ [0x03, 0x13], ⟨Der.octetFieldTag 0, 32, 2592, 0⟩),
    (lattice ++ [0x04, 0x02], ⟨Der.octetFieldTag 0, 64, 1184, 768⟩),
    (lattice ++ [0x04, 0x03], ⟨Der.octetFieldTag 0, 64, 1568, 1024⟩)]

/-- The form of the keys for an algorithm, if it is known and its parameters are in order. -/
def Algorithm.kind? (a : Algorithm) : Option KeyKind :=
  let only := fun (holds : Bool) (kind : KeyKind) => if holds then some kind else none
  if a.identifier = rsaIdentifier then only a.isPlain .rsa
  else if a.identifier = probabilisticIdentifier then
    only (a.parameters?.all isSignatureChoice) .rsa
  else if a.identifier = curveIdentifier then
    (a.parameters?.filter isCurveChoice).map .onCurve
  else match numberForms.lookup a.identifier, octetForms.lookup a.identifier with
    | some holds, _ => only (a.parameters?.any holds) .number
    | none, some form => only a.parameters?.isNone (.octets form)
    | none, none => none

end SealedRpc.Key
