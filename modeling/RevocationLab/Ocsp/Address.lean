/-
**The address of a request.**

A request in a path is sent to the URL of its responder with the request's segment behind it, after a
slash if there is none yet.

Main definitions:

* `Ocsp.requestUrl` — the URL of a request.
-/

import RevocationLab.Ocsp.Segment
import RevocationLab.Url.Parse

set_option autoImplicit false

namespace RevocationLab

namespace Ocsp

/-- The URL of a request for a responder, with the slashes of its segment escaped if `escaped` is
set. -/
def requestUrl (responder : Url) (request : Octets) (escaped : Bool) : Except Url.ParseError Url :=
  let base := responder.toText
  let separator := if base.toList.getLast? = some '/' then "" else "/"
  Url.parse (base ++ separator ++ Segment.encode request escaped)

end Ocsp

end RevocationLab
