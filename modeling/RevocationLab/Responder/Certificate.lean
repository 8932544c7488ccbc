/-
**Handing out certificates.**

A GET is answered with the encoding of one certificate, and every other method with an empty response
of status 405.

Main definitions:

* `Responder.Certificate.respond`.
-/

import RevocationLab.Http.Request
import RevocationLab.Responder.Outcome
import RevocationLab.X509.Certificate

set_option autoImplicit false

namespace RevocationLab

namespace Responder

namespace Certificate

/-- The content type of a certificate. -/
def contentType : String := "application/pkix-cert"

/-- The reply to a request for a certificate. -/
def respond (certificate : X509.Certificate) (request : Http.Request) : Reply :=
  if request.isGet then
    match Der.sealed? certificate.encode with
    | some body =>
        ⟨.response (Http.ResponseHead.withBody
          ⟨200, [⟨"content-type", Octets.ofText contentType⟩]⟩ body), []⟩
    | none => ⟨.failure (.encoding "value cannot be encoded"), []⟩
  else ⟨.response (Http.Response.empty 405), []⟩

end Certificate

end Responder

end RevocationLab
