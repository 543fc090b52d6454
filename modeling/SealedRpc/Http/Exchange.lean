import SealedRpc.Http.Fault
import SealedRpc.Json.Parser
import SealedRpc.Notice

/-!
# Posting over HTTP

One request, one response. The network is a function from what is sent to how the
connection opens, so that everything else here is plain data. Whatever the network does, a
post ends with a response of any status, or with the failure that it is reported as. The
size of a response is bounded, and a longer one is an error and never cut short.

## Main results

* `settle_answered`: an undisturbed answer is taken whole or refused as too large.
-/

namespace SealedRpc.Http

/-- A request as it is sent. -/
structure Request where
  url : Text
  body : Bytes
  contentType : Text
  timeout : Binary64
  deriving DecidableEq, Repr

/-- The headers of a request. -/
def Request.headers (r : Request) : Headers :=
  [("content-type", r.contentType), ("content-length", Text.ofNat r.body.length)]

/-- A response. -/
structure Response where
  status : Int
  headers : Headers
  body : Bytes
  deriving DecidableEq, Repr

namespace Response

/-- Whether a response is a success. -/
def ok (r : Response) : Bool :=
  r.status = 200

/-- The body as text, with U+FFFD for what cannot be read. -/
def text (r : Response) : Text :=
  Utf8.decodeLossy r.body

/-- Why a body is no JSON. -/
inductive JsonFault where
  | notUtf8
  | malformed (fault : Json.Fault)
  deriving DecidableEq, Repr

/-- The body as JSON. -/
def json [Json.NestingLimit] (r : Response) : Except JsonFault Json :=
  match Utf8.decode? r.body with
  | none => .error .notUtf8
  | some t => (Json.parse t).mapError .malformed

end Response

/-- How a connection opens: with an answer, whose body may fail to arrive, or not at all. -/
inductive Opening where
  | answered (status : Int) (headers : Headers) (body : Bytes) (readFault : Option Fault)
  | failed (fault : Fault)

/-- The network: what each request meets. -/
abbrev Network := Request → Opening

/-- The first `count` octets of a body, or all of it for a negative count. -/
def readUpTo (count : Int) (body : Bytes) : Bytes :=
  if count < 0 then body else body.take count.toNat

/-- A body of at most `limit` octets. One octet more is asked for, so that a longer body
shows. -/
def readBounded (limit : Int) (body : Bytes) : Except Fault Bytes :=
  let data := readUpTo (limit + 1) body
  if limit < data.length then .error (.transport (.connection (.tooLarge limit) []))
  else .ok data

/-- What a fault becomes while a request waits for its response: an error response is a
response, a timeout is reported as such, everything else from the network as a connection
failure. Faults that are none of the network's pass through. -/
def recover (request : Request) (limit : Int) (fault : Fault) : Except Fault Response :=
  let timedOut : Except Fault Response :=
    .error (.transport (.timeout (.waited request.timeout request.url) []))
  let failed := fun reason : Text =>
    (.error (.transport (.connection (.network reason) [])) : Except Fault Response)
  match fault with
  | .errorResponse code _ headers body none => do
      let data ← readBounded limit body
      return ⟨code, headers, data⟩
  | .errorResponse _ _ _ _ (some bodyFault) => .error bodyFault
  | .unreachable reason => failed reason
  | .unreachableBecause cause => if cause.isTimeout then timedOut else failed cause.message
  | .timeout _ => timedOut
  | .system number text =>
      if (Fault.system number text).isTimeout then timedOut
      else failed (Fault.system number text).message
  | .unnumbered text => failed text
  | fault => .error fault

/-- The response that an opening leads to. -/
def settle (request : Request) (limit : Int) : Opening → Except Fault Response
  | .answered status headers body none => do
      let data ← readBounded limit body
      return ⟨status, headers, data⟩
  | .answered _ _ _ (some fault) => recover request limit fault
  | .failed fault => recover request limit fault

/-- An undisturbed answer is taken whole or refused as too large. -/
theorem settle_answered (request : Request) (limit status : Int) (headers : Headers)
    (body : Bytes) : settle request limit (.answered status headers body none)
      = if limit < body.length then .error (.transport (.connection (.tooLarge limit) []))
        else .ok ⟨status, headers, body⟩ := by
  have hread : limit < (readUpTo (limit + 1) body).length ↔ limit < body.length := by
    unfold readUpTo
    split
    · rfl
    · rw [List.length_take]; omega
  unfold settle readBounded
  simp only [hread]
  split
  · rfl
  · rename_i h
    have : readUpTo (limit + 1) body = body := by
      unfold readUpTo
      split
      · rfl
      · rw [List.take_of_length_le]; omega
    rw [this]
    rfl

/-- What became of a request: its outcome, what was sent on the way, and what was logged. -/
structure Delivery where
  outcome : Except Fault Response
  sent : List Request
  notices : List Notice

/-- Where requests go: a base address, how long to wait, and how much to read. -/
structure Endpoint where
  base : Text
  timeout : Binary64
  limit : Int
  deriving DecidableEq, Repr

namespace Endpoint

/-- The seconds that a request may take unless a caller says otherwise. -/
def defaultTimeout : Binary64 := .ofRatio false 120 1

/-- The octets that a response may have unless a caller says otherwise. -/
def defaultLimit : Int := 64 * 1024 * 1024

/-- A text without slashes at its end. -/
def withoutSlashes (t : Text) : Text :=
  t.dropEndWhile (· = '/')

/-- An endpoint whose base ends in exactly one slash. -/
def ofBase (base : Text) (timeout : Binary64) (limit : Int) : Endpoint :=
  ⟨withoutSlashes base ++ "/", timeout, limit⟩

/-- The endpoint of a host and a port, without encryption on the way. -/
def ofHost (host : Text) (port : Int) (timeout : Binary64) (limit : Int) : Endpoint :=
  ofBase ("http://" ++ host ++ ":" ++ Text.ofInt port) timeout limit

/-- The part of the program that speaks in the notices of this module. -/
def source : String := "mirrorcrypt.client"

/-- Posts to an address exactly as given. -/
def postUrl (e : Endpoint) (network : Network) (url : Text) (body : Bytes) (contentType : Text) :
    Delivery :=
  match Url.forRequest url with
  | .error fault => ⟨.error (.url fault), [], []⟩
  | .ok address =>
      let request : Request := ⟨address, body, contentType, e.timeout⟩
      let outcome := settle request e.limit (network request)
      let done := if outcome.isOk then [⟨.debug, source, "mirror_response"⟩] else []
      ⟨outcome, [request], ⟨.debug, source, "mirror_post"⟩ :: done⟩

/-- The address of a path under the base. -/
def address (e : Endpoint) (path : Text) : Except UrlFault Text :=
  Url.join e.base (path.dropWhile (· = '/'))

/-- Posts to a path under the base. -/
def post (e : Endpoint) (network : Network) (path : Text) (body : Bytes) (contentType : Text) :
    Delivery :=
  match e.address path with
  | .error fault => ⟨.error (.url fault), [], []⟩
  | .ok url => e.postUrl network url body contentType

end Endpoint

end SealedRpc.Http
