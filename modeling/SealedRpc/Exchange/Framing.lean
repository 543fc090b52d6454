import SealedRpc.Text.Basic

/-!
# Framings

The two ways in which a deployment puts requests on the wire, and the two ways in which it
turns a response back into plaintext.
-/

namespace SealedRpc

/-- How a request is put on the wire: encrypted as a whole, or in the clear with a
signature. -/
inductive Framing where
  | encryptedBody
  | signedEnvelope
  deriving DecidableEq, Repr

namespace Framing

/-- All framings. -/
def all : List Framing := [.encryptedBody, .signedEnvelope]

/-- The name of a framing. -/
def name : Framing → String
  | .encryptedBody => "encrypted-body"
  | .signedEnvelope => "signed-envelope"

/-- The framing with this name. -/
def ofName? (t : Text) : Option Framing :=
  all.find? fun f => Text.ofString f.name = t

/-- The path that requests of a framing are posted to. -/
def path : Framing → String
  | .encryptedBody => "/encrypted-request"
  | .signedEnvelope => "/signed-request"

/-- The framing of a path. -/
def ofPath? (t : Text) : Option Framing :=
  all.find? fun f => Text.ofString f.path = t

/-- The content type of requests of a framing. -/
def contentType : Framing → String
  | .encryptedBody => "application/octet-stream"
  | .signedEnvelope => "application/json"

end Framing

/-- How a response is turned into plaintext: with the caller's private key, or with the
public key of the service. -/
inductive ResponseDecoding where
  | privateDecrypt
  | publicRecover
  deriving DecidableEq, Repr

namespace ResponseDecoding

/-- Both ways. -/
def all : List ResponseDecoding := [.privateDecrypt, .publicRecover]

/-- The name of a way. -/
def name : ResponseDecoding → String
  | .privateDecrypt => "private-decrypt"
  | .publicRecover => "public-recover"

/-- The way with this name. -/
def ofName? (t : Text) : Option ResponseDecoding :=
  all.find? fun d => Text.ofString d.name = t

end ResponseDecoding

end SealedRpc
