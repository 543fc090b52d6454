import SealedRpc.Request
import SealedRpc.Signature

/-!
# Signed envelopes

A request text together with its raw signature, and its form on the wire: a JSON object
with the text and the signature as a list of octets.
-/

namespace SealedRpc

/-- A request text and its signature. -/
structure Envelope where
  text : Text
  signature : Bytes
  deriving DecidableEq, Repr

namespace Envelope

/-- The JSON object of an envelope. -/
def toJson (e : Envelope) : Json :=
  .object [("request", .text e.text),
    ("signature", .array (e.signature.map fun b => .int b.toNat))]

/-- The compact text of an envelope. -/
def wireText (e : Envelope) : Text :=
  e.toJson.render .compact

/-- The octets of an envelope, if its text has a UTF-8 form. -/
def toBytes? (e : Envelope) : Option Bytes :=
  Utf8.encode? e.wireText

/-- The octet that an integer value is. -/
def octet? : Value → Option UInt8
  | .int n => if 0 ≤ n ∧ n ≤ 255 then some (UInt8.ofNat n.toNat) else none
  | _ => none

/-- Reads an envelope from a mapping, strictly: the text must be a text and the signature
a list of integers from 0 to 255. -/
def ofValue (v : Value) : Except RequestFault Envelope :=
  match v.entry? "request" with
  | some (.text t) =>
      match v.entry? "signature" with
      | some (.list items) =>
          match items.mapM octet? with
          | some signature => .ok ⟨t, signature⟩
          | none => .error .envelopeSignature
      | _ => .error .envelopeSignature
  | _ => .error .envelopeText

/-- Reads an envelope from a JSON object. -/
def ofJson (j : Json) : Except RequestFault Envelope :=
  ofValue (Value.ofJson j)

end Envelope

end SealedRpc
