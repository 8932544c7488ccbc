/-
**Producing a signed response.**

The statuses of the queries, in their order, are put under one time of production; each holds from
that second to the next.  A nonce is echoed as an extension that is not critical.  The data is signed
and wrapped, with the certificates that check the signature, in a successful envelope.

Main definitions:

* `Ocsp.ResponseParts` — what goes into a response;
* `Ocsp.ResponseParts.data` — the data to be signed;
* `Ocsp.ResponseParts.sign` — the encoding of the whole response.
-/

import RevocationLab.Ocsp.Response
import RevocationLab.Rsa

set_option autoImplicit false

namespace RevocationLab

namespace Ocsp

open Der X509

/-- The seconds that a status holds. -/
def responseLifetime : Nat := 1

/-- What goes into a response. -/
structure ResponseParts where
  signer : Certificate
  key : Rsa.KeyPair
  chain : List Certificate
  statuses : List (CertId × Status)
  nonce : Option Extension
  now : Instant

/-- Why there is no response. -/
inductive SigningError where
  /-- A time is outside the calendar, or the encoding is too long. -/
  | unencodable
  /-- The clock cannot say the end of the window. -/
  | clockOverflow
  /-- The modulus is too short for a digest. -/
  | keyTooSmall
  deriving DecidableEq, Repr

/-- The answer about one certificate in a window of time. -/
def SingleResponse.of (thisUpdate nextUpdate : Der.Time) (entry : CertId × Status) :
    SingleResponse :=
  ⟨entry.1, entry.2, thisUpdate, some nextUpdate, none⟩

/-- The extensions of a response: the nonce, if there is one, not critical. -/
def echoedNonce (nonce : Option Extension) : Option (List Extension) :=
  nonce.map fun n => [{ n with critical := false }]

namespace ResponseParts

/-- The data to be signed. -/
def data (parts : ResponseParts) : Except SigningError ResponseData :=
  match Der.Time.ofInstant? parts.now with
  | none => .error .unencodable
  | some thisUpdate =>
      match parts.now.plus? responseLifetime with
      | none => .error .clockOverflow
      | some later =>
          match Der.Time.ofInstant? later with
          | none => .error .unencodable
          | some nextUpdate =>
              .ok
                { responder := .name parts.signer.body.subject
                  producedAt := thisUpdate
                  responses := parts.statuses.map (SingleResponse.of thisUpdate nextUpdate)
                  extensions := echoedNonce parts.nonce }

/-- The signed response, before it is wrapped. -/
def basic (parts : ResponseParts) : Except SigningError BasicResponse := do
  let data ← parts.data
  match sealed? data.encode with
  | none => .error .unencodable
  | some octets =>
      match parts.key.sign? octets with
      | none => .error .keyTooSmall
      | some signature =>
          .ok
            { data := data
              algorithm := AlgorithmIdentifier.sha256WithRsa
              signature := BitString.ofOctets signature
              certificates := some parts.chain }

/-- The encoding of the whole response. -/
def sign (parts : ResponseParts) : Except SigningError Octets := do
  let basic ← parts.basic
  match sealed? (Envelope.encode ⟨.successful, some ⟨basicKind, basic.encode⟩⟩) with
  | none => .error .unencodable
  | some octets => .ok octets

end ResponseParts

end Ocsp

end RevocationLab
