/-
**Answering status queries.**

A request comes in the path of a GET or as the body of a POST.  What cannot be read as a request is
answered with an empty response of status 400; only a transport that fails while the body is read is
a failure.  Each query gets the status that the authority has for it, in order.

Main definitions:

* `Responder.Ocsp.Intake`, `Responder.Ocsp.intake` — the octets of a request;
* `Responder.Ocsp.parts` — what goes into the response;
* `Responder.Ocsp.respond` — the reply of an authority.
-/

import RevocationLab.Authority.Registry
import RevocationLab.Http.Request
import RevocationLab.Ocsp.Request
import RevocationLab.Ocsp.Segment
import RevocationLab.Ocsp.Signing
import RevocationLab.Responder.Outcome
import RevocationLab.Routing.Key

set_option autoImplicit false

namespace RevocationLab

namespace Responder

namespace Ocsp

open RevocationLab.Ocsp

/-! ### Taking a request in -/

/-- What came of looking for the octets of a request. -/
inductive Intake where
  | octets (b : Octets)
  | refused
  | rejected (cause : Http.ReadError)
  | failed (text : String)
  deriving DecidableEq, Repr

/-- Whether the content type is that of a request. -/
def hasContentType (headers : Http.Headers) : Bool :=
  match headers.text? "content-type" with
  | some value => isRequestContentType value
  | none => false

/-- The octets in the path of a request. -/
def segmentOctets? (path : String) : Option Octets :=
  Segment.decode? (((Routing.key? path).map fun key => Routing.remainder path key).getD "")

/-- The octets of a request. -/
def intake (request : Http.Request) : Intake :=
  if request.isGet then
    match segmentOctets? request.target.path with
    | some b => .octets b
    | none => .refused
  else if request.isPost && hasContentType request.headers then
    match request.read with
    | .ok b => .octets b
    | .error (.transport text) => .failed text
    | .error cause => .rejected cause
  else .refused

/-! ### Answering -/

/-- An event of this responder. -/
def event (message : String) (fields : List (String × String)) : Log.Event :=
  Log.event .debug "responder::ocsp" message fields

/-- The empty response to what is no request. -/
def badRequest : Outcome := .response (Http.Response.empty 400)

/-- What goes into the response to a request. -/
def parts (authority : Authority) (chain : List X509.Certificate) (now : Instant)
    (request : RevocationLab.Ocsp.Request) : ResponseParts :=
  { signer := authority.certificate
    key := authority.key
    chain := chain
    statuses := request.body.queries.map fun q => (q.certId, authority.status q.certId)
    nonce := findNonce? request.body.extensions
    now := now }

/-- The response with this body. -/
def success (body : Octets) : Http.Response :=
  Http.ResponseHead.withBody
    ⟨200, [⟨"content-type", Octets.ofText responseContentType⟩]⟩ body

/-- What comes of a response that could not be signed. -/
def unsigned : SigningError → Outcome
  | .unencodable => .failure (.encoding "value cannot be encoded")
  | .clockOverflow => .broken (.text Instant.overflowText)
  | .keyTooSmall => .failure (.signing "signature error: message too long")

/-- The reply to the octets of a request. -/
def answer (authority : Authority) (chain : List X509.Certificate) (now : Instant)
    (octets : Octets) : Reply :=
  match RevocationLab.Ocsp.Request.decode? octets with
  | none => ⟨badRequest, [event "Undecodable OCSP request" [("error", "malformed")]]⟩
  | some request =>
      match (parts authority chain now request).sign with
      | .error cause => ⟨unsigned cause, []⟩
      | .ok body =>
          ⟨.response (success body),
            [event "OCSP response signed" [("authority", authority.id.toText),
              ("queries", toString request.body.queries.length)]]⟩

/-- The reply of an authority to a request. -/
def respond (authority : Authority) (chain : List X509.Certificate) (now : Instant)
    (request : Http.Request) : Reply :=
  match intake request with
  | .octets b => answer authority chain now b
  | .refused => ⟨badRequest, []⟩
  | .rejected cause =>
      ⟨badRequest, [event "Rejected OCSP request body" [("error", cause.message)]]⟩
  | .failed text => ⟨.failure (.body text), []⟩

end Ocsp

end Responder

end RevocationLab
