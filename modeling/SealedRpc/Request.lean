import SealedRpc.Text.Utf8
import SealedRpc.Value

/-!
# Requests

A request is given as a text, as the octets of one, or as a value that is written as
compact JSON. Its text is what is encrypted or signed.

## Main results

* `Request.text_of_text`: a request that is a text already is left alone.
-/

namespace SealedRpc

/-- Why a request or an envelope is refused. -/
inductive RequestFault where
  | notUtf8
  | unserializable (cause : Unserializable)
  | envelopeText
  | envelopeSignature
  deriving DecidableEq, Repr

/-- The words for a fault. -/
def RequestFault.message : RequestFault → Text
  | .notUtf8 => "request bytes are not valid UTF-8"
  | .unserializable cause => "request is not JSON-serializable: " ++ cause.message
  | .envelopeText => "envelope field 'request' must be a string"
  | .envelopeSignature => "envelope field 'signature' must be a list of bytes"

namespace Request

variable [Json.NestingLimit]

/-- The text of a request. -/
def text : Value → Except RequestFault Text
  | .text t => .ok t
  | .bytes b =>
      match Utf8.decode? b with
      | some t => .ok t
      | none => .error .notUtf8
  | value => value.compactText.mapError .unserializable

/-- A request that is a text already is left alone. -/
theorem text_of_text (t : Text) : text (.text t) = .ok t := rfl

end Request

end SealedRpc
