import SealedRpc.Http.Url
import SealedRpc.Number.Shortest
import SealedRpc.Text.Utf8

/-!
# Failures of an exchange

What can go wrong between a request and its response. A transport error is what a caller
of this library sees: the service cannot be reached, it does not answer in time, or it
answers with another status than 200. A network fault is what the network raises
underneath.
-/

namespace SealedRpc.Http

/-- Headers by name, in order. -/
abbrev Headers := List (Text × Text)

/-- Why a service could not be reached. -/
inductive ConnectionCause where
  | network (reason : Text)
  | tooLarge (limit : Int)
  | reported (text : Text)
  deriving DecidableEq, Repr

/-- Which wait was in vain. -/
inductive TimeoutCause where
  | waited (seconds : Binary64) (url : Text)
  | reported (text : Text)
  deriving DecidableEq, Repr

/-- An exchange that did not complete. The raw body, if there is any, is kept. -/
inductive TransportError where
  | connection (cause : ConnectionCause) (body : Bytes)
  | timeout (cause : TimeoutCause) (body : Bytes)
  | status (code : Int) (body : Bytes)
  deriving DecidableEq, Repr

/-- The words for a cause. -/
def ConnectionCause.message : ConnectionCause → Text
  | .network reason => "network error: " ++ reason
  | .tooLarge limit => "response too large: more than " ++ Text.ofInt limit ++ " bytes"
  | .reported text => text

/-- The words for a cause. -/
def TimeoutCause.message : TimeoutCause → Text
  | .waited seconds url => "timed out after " ++ seconds.toBrief ++ "s: " ++ url
  | .reported text => text

/-- The words for an error. -/
def TransportError.message : TransportError → Text
  | .connection cause _ => cause.message
  | .timeout cause _ => cause.message
  | .status code body =>
      "Http error, status: " ++ Text.ofInt code ++ ": " ++ Utf8.decodeLossy body

/-- The body that came with an error. -/
def TransportError.body : TransportError → Bytes
  | .connection _ body | .timeout _ body | .status _ body => body

/-- What an operation on the network may raise. -/
inductive Fault where
  /-- An error response; reading its body may raise something in turn. -/
  | errorResponse (code : Int) (reason : Text) (headers : Headers) (body : Bytes)
      (bodyFault : Option Fault)
  /-- The address cannot be opened, for a reason in words. -/
  | unreachable (reason : Text)
  /-- The address cannot be opened because of something else. -/
  | unreachableBecause (cause : Fault)
  | timeout (text : Text)
  /-- A failure that the system numbers. -/
  | system (number : Int) (text : Text)
  /-- A failure that the system does not number. -/
  | unnumbered (text : Text)
  | transport (error : TransportError)
  /-- A failure of the service behind a relay. -/
  | backend (text : Text)
  | url (fault : UrlFault)
  | invalidValue (text : Text)
  | other (text : Text)
  deriving Repr

namespace Fault

/-- The number that the system has for a connection that timed out. -/
def timedOutNumber : Int := 110

/-- Whether a fault is a timeout. -/
def isTimeout : Fault → Bool
  | .timeout _ => true
  | .system number _ => number = timedOutNumber
  | _ => false

/-- The words for a fault. -/
def message : Fault → Text
  | .errorResponse code reason _ _ _ => "HTTP Error " ++ Text.ofInt code ++ ": " ++ reason
  | .unreachable reason => "<urlopen error " ++ reason ++ ">"
  | .unreachableBecause cause => "<urlopen error " ++ cause.message ++ ">"
  | .timeout text | .unnumbered text | .backend text | .invalidValue text | .other text => text
  | .system number text => "[Errno " ++ Text.ofInt number ++ "] " ++ text
  | .transport error => error.message
  | .url fault => fault.message

end Fault

end SealedRpc.Http
