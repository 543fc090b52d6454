import SealedRpc.Codec.Error
import SealedRpc.Exchange.Cycle
import SealedRpc.Exchange.WorkerSetting
import SealedRpc.Http.Exchange
import SealedRpc.Request

/-!
# Failures of a call

Everything that an operation of a client can end with instead of a value. Most of them are
failures that the library names; the others are defects of the input or of the set-up that
no layer turns into one of those.
-/

namespace SealedRpc

/-- A failure of a call. -/
inductive CallError where
  | codec (error : CodecError)
  | invalidRequest (fault : RequestFault)
  | fault (fault : Http.Fault)
  /-- A cycle was driven out of order. -/
  | transition (t : InvalidTransition)
  /-- A text with a lone surrogate was to be encoded. -/
  | unencodable
  /-- Plaintext that is no UTF-8 was to be read as text. -/
  | undecodable
  /-- Plaintext that is no JSON was to be read as JSON. -/
  | malformedJson (fault : Json.Fault)
  /-- Containers nest too deeply to be written. -/
  | tooDeep
  /-- A key was needed where none is set. -/
  | missingKey
  /-- The number of workers is no number. -/
  | workers (kind : Text)
  deriving Repr

namespace CallError

/-- A fault of a request as a failure. Too deep nesting is not reported as a fault of the
request. -/
def ofRequestFault : RequestFault → CallError
  | .unserializable .tooDeep => .tooDeep
  | cause => .invalidRequest cause

/-- An answer with another status than 200. -/
def ofStatus (status : Int) (body : Bytes) : CallError :=
  .fault (.transport (.status status body))

/-- Whether the library has a name for a failure, so that callers who expect its failures
meet no other. -/
def isNamed : CallError → Bool
  | .codec error => error.isNamed
  | .invalidRequest _ => true
  | .fault (.transport _) | .fault (.backend _) => true
  | _ => false

/-- The words for a failure. -/
def message : CallError → Text
  | .codec error => error.message
  | .invalidRequest cause => cause.message
  | .fault cause => cause.message
  | .transition t => t.message
  | .unencodable => "the text holds a lone surrogate"
  | .undecodable => "the plaintext is not UTF-8"
  | .malformedJson cause => cause.message
  | .tooDeep => "maximum recursion depth exceeded"
  | .missingKey => "no key is set"
  | .workers kind => WorkerSetting.notComparedMessage kind

end CallError

end SealedRpc
