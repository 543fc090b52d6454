import SealedRpc.Codec.Error
import SealedRpc.Exchange.Framing
import SealedRpc.Notice
import SealedRpc.Relay.Handler
import SealedRpc.Relay.Posted

/-!
# How requests to the relay end

Every way in which a request to the relay can end, as data, and what the relay writes into
its log meanwhile. A refusal has a status and a detail that the caller may see. A defect is
something that no layer expects; the caller learns nothing about it.

## Main results

* `status_mem`: the statuses of refusals are 400, 403, 404, 405, 413 and 502.
-/

namespace SealedRpc.Relay

/-- A request that the relay refuses. -/
inductive Refusal where
  | notFound
  | methodNotAllowed
  | tooLarge
  | undecryptable
  | notUtf8
  | malformedJson (fault : Json.Fault)
  | notObject
  | unsupportedMethod
  | signedDisabled
  | badSignature
  | backend (fault : BackendFault)
  deriving DecidableEq, Repr

namespace Refusal

/-- The status of a refusal. -/
def status : Refusal → Nat
  | .notFound | .signedDisabled => 404
  | .methodNotAllowed => 405
  | .tooLarge => 413
  | .undecryptable | .notUtf8 | .malformedJson _ | .notObject => 400
  | .unsupportedMethod | .badSignature => 403
  | .backend _ => 502

/-- The beginning of what is said about a text that is no request. -/
def parsing : String := "Error parsing JSON request: "

/-- What the caller is told. -/
def detail : Refusal → Text
  | .notFound => "Not Found"
  | .methodNotAllowed => "Method Not Allowed"
  | .tooLarge => "request_too_large"
  | .undecryptable => "Decryption failed"
  | .notUtf8 => parsing ++ Text.ofString "not UTF-8"
  | .malformedJson fault => parsing ++ fault.message
  | .notObject => parsing ++ Text.ofString "expected an object"
  | .unsupportedMethod => "Unsupported request"
  | .signedDisabled => "signed_requests_disabled"
  | .badSignature => "Signature verification failed"
  | .backend fault => fault.message

/-- The statuses of refusals. -/
theorem status_mem (r : Refusal) : r.status ∈ [400, 403, 404, 405, 413, 502] := by
  cases r <;> simp [status]

end Refusal

/-- Something that no layer of the relay expects. -/
inductive Defect where
  /-- A text nests too deeply to be read. -/
  | tooDeep
  /-- The method of a request is a container, and there is a list of methods. -/
  | containerMethod
  | handler (fault : HandlerFault)
  /-- The value of a handler has no JSON text. -/
  | unserializable (cause : Unserializable)
  /-- The text of a reply has no UTF-8 form. -/
  | unencodable
  | codec (error : CodecError)
  | noClientKey
  /-- The body of a post is no text, so that no issue with it can be reported. -/
  | undecodableBody
  /-- An issue was found at a number that is not finite, which no report can show. -/
  | unreportable (issues : List Issue)
  deriving Repr

/-- How a request ends. -/
inductive Ending where
  /-- With a reply that is encrypted. -/
  | answered (message : Bytes)
  /-- With the state of the relay. -/
  | health
  | refused (refusal : Refusal)
  | invalid (issues : List Issue)
  /-- With a pointer to another path. -/
  | moved (path : Text)
  | defect (cause : Defect)
  deriving Repr

/-- The status of an ending. -/
def Ending.status : Ending → Nat
  | .answered _ | .health => 200
  | .refused refusal => refusal.status
  | .invalid _ => 422
  | .moved _ => 307
  | .defect _ => 500

/-! ### The log -/

/-- An entry of the log. Entries never hold bodies. -/
inductive Record where
  /-- Every request leaves one; the status is missing after a defect. -/
  | access (method path : Text) (framing : Option Framing) (status : Option Nat)
  | handlerFailed (message : Text)
  | decryptFailed (message : Text)
  deriving DecidableEq, Repr

namespace Record

/-- How urgent an entry is. -/
def level : Record → Level
  | .access .. => .info
  | .handlerFailed _ | .decryptFailed _ => .warning

/-- The name of the event. -/
def event : Record → String
  | .access .. => "mirror_access"
  | .handlerFailed _ => "mirror_handler_failed"
  | .decryptFailed _ => "mirror_decrypt_failed"

end Record

end SealedRpc.Relay
