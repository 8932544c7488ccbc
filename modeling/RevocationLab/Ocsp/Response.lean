/-
**Status responses.**

A response answers each query with a status and the window in which it holds.  The answers, the name
of the responder and the time of production are signed together; the signed response travels inside
an envelope that says whether the responder succeeded.

Main definitions:

* `Ocsp.SingleResponse`, `Ocsp.ResponderId`, `Ocsp.ResponseData` — what is signed;
* `Ocsp.BasicResponse` — the data with its signature;
* `Ocsp.Outcome`, `Ocsp.Envelope` — the outer layer;
* `Ocsp.BasicResponse.decode` — the basic response in an envelope, or why there is none.
-/

import RevocationLab.Ocsp.Request
import RevocationLab.Ocsp.Status

set_option autoImplicit false

namespace RevocationLab

namespace Ocsp

open Der X509

/-! ### Answers -/

/-- The answer about one certificate. -/
structure SingleResponse where
  certId : CertId
  status : Status
  thisUpdate : Der.Time
  nextUpdate : Option Der.Time
  extensions : Option (List Extension)
  deriving DecidableEq

namespace SingleResponse

/-- The element of an answer. -/
def encode (s : SingleResponse) : Octets :=
  element Tag.sequence
    (s.certId.encode ++ s.status.encode ++ s.thisUpdate.generalized
      ++ ((s.nextUpdate.map fun t => element (Tag.contextConstructed 0) t.generalized).getD [])
      ++ Extension.encodeField 1 s.extensions)

/-- An answer. -/
def decoder : Decoder SingleResponse :=
  Decoder.sequence do
    let certId ← CertId.decoder
    let status ← Status.decoder
    let thisUpdate ← Decoder.generalizedTime
    let nextUpdate ← Decoder.explicit 0 Decoder.generalizedTime
    return ⟨certId, status, thisUpdate, nextUpdate, ← Decoder.explicit 1 Extension.listDecoder⟩

end SingleResponse

/-- Who produced a response: by name or by the digest of the key. -/
inductive ResponderId where
  | name (name : Name)
  | key (hash : Octets)
  deriving DecidableEq

namespace ResponderId

/-- The element of a responder's name. -/
def encode : ResponderId → Octets
  | name n => element (Tag.contextConstructed 1) n.encode
  | key h => element (Tag.contextConstructed 2) (octetString h)

/-- The responder named in an element. -/
def ofElement? (e : Element) : Option ResponderId :=
  if e.tag = Tag.contextConstructed 1 then name <$> Decoder.name.whole e.content
  else if e.tag = Tag.contextConstructed 2 then key <$> Decoder.octetString.whole e.content
  else none

/-- A responder's name. -/
def decoder : Decoder ResponderId := do
  match ofElement? (← Decoder.any) with
  | some r => pure r
  | none => failure

end ResponderId

/-! ### What is signed -/

/-- The answers of a response with who produced them and when. -/
structure ResponseData where
  responder : ResponderId
  producedAt : Der.Time
  responses : List SingleResponse
  extensions : Option (List Extension)
  deriving DecidableEq

namespace ResponseData

/-- The element of the data. -/
def encode (d : ResponseData) : Octets :=
  element Tag.sequence
    (d.responder.encode ++ d.producedAt.generalized
      ++ element Tag.sequence (d.responses.flatMap SingleResponse.encode)
      ++ Extension.encodeField 1 d.extensions)

/-- The data. -/
def decoder : Decoder ResponseData :=
  Decoder.sequence do
    versionDecoder
    let responder ← ResponderId.decoder
    let producedAt ← Decoder.generalizedTime
    let responses ← Decoder.listOf SingleResponse.decoder
    return ⟨responder, producedAt, responses, ← Decoder.explicit 1 Extension.listDecoder⟩

end ResponseData

/-- The data of a response with its signature. -/
structure BasicResponse where
  data : ResponseData
  algorithm : AlgorithmIdentifier
  signature : BitString
  certificates : Option (List Certificate)
  deriving DecidableEq

namespace BasicResponse

/-- The element of a signed response. -/
def encode (b : BasicResponse) : Octets :=
  element Tag.sequence
    (b.data.encode ++ b.algorithm.encode ++ b.signature.encode ++ encodeCertificates b.certificates)

/-- A signed response. -/
def decoder : Decoder BasicResponse :=
  Decoder.sequence do
    return ⟨← ResponseData.decoder, ← AlgorithmIdentifier.decoder, ← Decoder.bitString,
      ← certificatesDecoder⟩

end BasicResponse

/-! ### The envelope -/

/-- Whether a responder succeeded, or why not. -/
inductive Outcome where
  | successful
  | malformedRequest
  | internalError
  | tryLater
  | sigRequired
  | unauthorized
  deriving DecidableEq, Repr

namespace Outcome

/-- The number of an outcome; four is not used. -/
def number : Outcome → Nat
  | successful => 0
  | malformedRequest => 1
  | internalError => 2
  | tryLater => 3
  | sigRequired => 5
  | unauthorized => 6

/-- The name of an outcome. -/
def name : Outcome → String
  | successful => "Successful"
  | malformedRequest => "MalformedRequest"
  | internalError => "InternalError"
  | tryLater => "TryLater"
  | sigRequired => "SigRequired"
  | unauthorized => "Unauthorized"

/-- The outcome with a number. -/
def ofNumber? (n : Nat) : Option Outcome :=
  [successful, malformedRequest, internalError, tryLater, sigRequired, unauthorized].find?
    fun o => o.number == n

end Outcome

/-- The content of an envelope: octets of a kind. -/
structure EnvelopeContent where
  kind : ObjectId
  octets : Octets
  deriving DecidableEq, Repr

/-- An outcome with its content, if there is any. -/
structure Envelope where
  outcome : Outcome
  content : Option EnvelopeContent
  deriving DecidableEq, Repr

/-- The kind of content that holds a basic response. -/
def basicKind : ObjectId := ⟨[0x2b, 0x06, 0x01, 0x05, 0x05, 0x07, 0x30, 0x01, 0x01]⟩

namespace Envelope

/-- The element of an envelope. -/
def encode (e : Envelope) : Octets :=
  element Tag.sequence
    (element Tag.enumerated (smallContent e.outcome.number)
      ++ (e.content.map fun c =>
          element (Tag.contextConstructed 0)
            (element Tag.sequence (c.kind.encode ++ octetString c.octets))).getD [])

/-- An envelope. -/
def decoder : Decoder Envelope :=
  Decoder.sequence do
    let outcome ← Decoder.small Tag.enumerated Outcome.ofNumber?
    let content ← Decoder.explicit 0
      (Decoder.sequence do return EnvelopeContent.mk (← Decoder.objectId) (← Decoder.octetString))
    return ⟨outcome, content⟩

end Envelope

/-! ### Reading a response -/

/-- Why a response could not be read. -/
inductive ReadError where
  | malformed
  | unsuccessful (outcome : Outcome)
  | missingBody
  deriving DecidableEq, Repr

/-- The text of an error, where the rule that failed says one. -/
def ReadError.message : ReadError → String
  | malformed => "malformed response"
  | unsuccessful outcome => "response status is " ++ outcome.name
  | missingBody => "response carries no basic response bytes"

/-- The basic response in the encoding of a successful envelope. -/
def BasicResponse.decode (b : Octets) : Except ReadError BasicResponse :=
  match Der.decode? Envelope.decoder b with
  | none => .error .malformed
  | some envelope =>
      if envelope.outcome ≠ .successful then .error (.unsuccessful envelope.outcome)
      else match envelope.content.filter fun c => c.kind == basicKind with
        | none => .error .missingBody
        | some content =>
            match Der.decode? BasicResponse.decoder content.octets with
            | none => .error .malformed
            | some basic => .ok basic

end Ocsp

end RevocationLab
