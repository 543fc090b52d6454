import SealedRpc.Envelope
import SealedRpc.Json.Parser
import SealedRpc.Text.Utf8

/-!
# Posted envelopes

Reading the envelope of a signed request from the body of a post. The body is a JSON
object with the request text and the signature; whatever is wrong with it is listed as
issues, each with its place. Octets of a signature may be written as integers, as floating
point numbers without a fraction, as truth values, or as texts of integers.
-/

namespace SealedRpc.Relay

/-- What is wrong at some place of a body. -/
inductive IssueKind where
  | malformedJson
  | notObject
  | missing
  | notText
  | notList
  | tooManyItems
  | notInt
  | unreadableInt
  | oversizedInt
  | fractional
  | notFinite
  | tooLarge
  | tooSmall
  deriving DecidableEq, Repr

/-- The name of a kind. -/
def IssueKind.name : IssueKind → String
  | .malformedJson => "json_invalid"
  | .notObject => "model_type"
  | .missing => "missing"
  | .notText => "string_type"
  | .notList => "list_type"
  | .tooManyItems => "too_long"
  | .notInt => "int_type"
  | .unreadableInt => "int_parsing"
  | .oversizedInt => "int_parsing_size"
  | .fractional => "int_from_float"
  | .notFinite => "finite_number"
  | .tooLarge => "less_than_equal"
  | .tooSmall => "greater_than_equal"

/-- A step on the way from a body to a place in it. -/
inductive Step where
  | field (name : Text)
  | item (index : Nat)
  deriving DecidableEq, Repr

/-- An issue: its kind, its place, and the value that was found there. -/
structure Issue where
  kind : IssueKind
  place : List Step
  found : Json
  deriving Repr

namespace Posted

/-! ### Octets -/

/-- Drops zeros and underscores in front of a number that starts with a zero, down to another
digit or a minus sign, or to the last of them before its end or its point. -/
def dropZeros (last : CodePoint) : Text → Option Text
  | [] => some [last]
  | c :: rest =>
      if c = '0' ∨ c = '_' then dropZeros c rest
      else if (CodePoint.asciiDigit? c).isSome ∨ c = '-' then some (c :: rest)
      else if c = '.' then some (last :: c :: rest)
      else none

/-- The part of a number from its first digit that counts. -/
def withoutLeadingZeros : Text → Option Text
  | [] => none
  | c :: rest =>
      if c = '0' then dropZeros c rest
      else if (CodePoint.asciiDigit? c).isSome then some (c :: rest)
      else none

/-- A number without a point and the zeros after it; other places are refused, and so are
none. -/
def withoutPlaces (t : Text) : Option Text :=
  match Text.cut? '.' t with
  | none => some t
  | some (whole, places) =>
      if !places.isEmpty && places.all (· = ('0' : CodePoint)) then some whole else none

/-- A number without the underscores between its digits. Two of them in a row, or one at
an end, stay. -/
def withoutUnderscores (t : Text) : Text :=
  let parts := Text.splitOn '_' t
  if parts.any List.isEmpty then t else parts.flatten

/-- A number without a plus sign in front, which no minus sign may follow. -/
def withoutPlus (t : Text) : Option Text :=
  match t with
  | [] => some []
  | c :: rest =>
      if c ≠ '+' then some t else if rest.head? = some '-' then none else some rest

/-- A number without a minus sign in front, and whether it has one. -/
def cutMinus (t : Text) : Bool × Text :=
  match Text.after? "-" t with
  | some rest => (true, rest)
  | none => (false, t)

/-- The plain spelling of an integer that may have white space around it, a sign, zeros in
front, a point with zeros, and underscores. -/
def plainInt? (t : Text) : Option Text := do
  let (negative, body) := cutMinus (← withoutPlus (Text.trimWhile CodePoint.isWhiteSpace t))
  let whole ← withoutPlaces (← withoutLeadingZeros body)
  return (if negative then "-" else "") ++ withoutUnderscores whole

/-- The number of a plain spelling: no zero in front of another digit, and no more digits than
integers have. -/
def ofPlain? (plain : Text) : Option Int :=
  let (negative, digits) := cutMinus plain
  let padded := 1 < digits.length && digits.head? = some '0'
  if digits.isEmpty || padded || digitLimit < digits.length ||
      !digits.all fun c => c.asciiDigit?.isSome then none
  else some (if negative then -(Number.ofDigits digits : Int) else Number.ofDigits digits)

/-- Whether a text begins with an integer of too many digits. -/
def beginsOversized (t : Text) : Bool :=
  let body := (cutMinus t).2
  let digits := body.takeWhile fun c => c.asciiDigit?.isSome
  body.head? ≠ some '0' && digitLimit < digits.length

/-- Reads an integer in a text. -/
def readIntText (t : Text) : Except IssueKind Int :=
  if beginsOversized t then .error .oversizedInt
  else match (plainInt? t).bind ofPlain? with
    | some n => .ok n
    | none => .error .unreadableInt

/-- Floating point numbers from here on are not taken for integers. -/
def floatBound : Nat := 2 ^ 63

/-- The integer that a value stands for. -/
def readInt : Json → Except IssueKind Int
  | .int n => .ok n
  | .bool b => .ok (if b then 1 else 0)
  | .float x =>
      match x with
      | .nan | .infinite _ => .error .notFinite
      | x =>
          match x.toInt? with
          | none => .error .fractional
          | some n => if floatBound ≤ n.natAbs then .error .oversizedInt else .ok n
  | .text t => readIntText t
  | _ => .error .notInt

/-- The octet that a value stands for. -/
def readOctet (j : Json) : Except IssueKind UInt8 := do
  let n ← readInt j
  if 255 < n then .error .tooLarge
  else if n < 0 then .error .tooSmall
  else return UInt8.ofNat n.toNat

/-! ### Envelopes -/

/-- The longest signature that an envelope may have: one block of a key of 8192 bits. -/
def signatureLimit : Nat := 1024

/-- The name of the field with the request text. -/
def requestField : Text := "request"

/-- The name of the field with the signature. -/
def signatureField : Text := "signature"

/-- Reads the octets of a signature from some index on, with all issues. -/
def readOctets : Nat → List Json → List Issue × Bytes
  | _, [] => ([], [])
  | index, item :: rest =>
      let (issues, octets) := readOctets (index + 1) rest
      match readOctet item with
      | .ok b => (issues, b :: octets)
      | .error kind => (⟨kind, [.field signatureField, .item index], item⟩ :: issues, octets)

/-- Reads the signature of an envelope, which may be left out. -/
def readSignature : Option Json → List Issue × Bytes
  | none => ([], [])
  | some (.array items) =>
      if signatureLimit < items.length then
        ([⟨.tooManyItems, [.field signatureField], .array items⟩], [])
      else readOctets 0 items
  | some other => ([⟨.notList, [.field signatureField], other⟩], [])

/-- Reads the request text of an envelope. -/
def readRequest (j : Json) : List Issue × Text :=
  match j.field? requestField with
  | some (.text t) => ([], t)
  | some other => ([⟨.notText, [.field requestField], other⟩], [])
  | none => ([⟨.missing, [.field requestField], j⟩], [])

/-- Reads an envelope from a JSON value, or lists what is wrong with it. -/
def ofJson (j : Json) : Except (List Issue) Envelope :=
  match j with
  | .object _ =>
      let (requestIssues, text) := readRequest j
      let (signatureIssues, signature) := readSignature (j.field? signatureField)
      let issues := requestIssues ++ signatureIssues
      if issues.isEmpty then .ok ⟨text, signature⟩ else .error issues
  | _ => .error [⟨.notObject, [], j⟩]

/-- The dialect of posted bodies: no lone surrogates, little nesting, and no long numbers. -/
def dialect : Json.Dialect := ⟨200, false, false, some digitLimit⟩

/-- Why a body is no envelope. -/
inductive Fault where
  | notUtf8
  | issues (issues : List Issue)
  deriving Repr

/-- Reads an envelope from the body of a post. -/
def read (body : Bytes) : Except Fault Envelope :=
  match Utf8.decode? body with
  | none => .error .notUtf8
  | some t =>
      match Json.parseIn dialect t with
      | .error _ => .error (.issues [⟨.malformedJson, [], .text t⟩])
      | .ok j => (ofJson j).mapError .issues

end Posted

end SealedRpc.Relay
