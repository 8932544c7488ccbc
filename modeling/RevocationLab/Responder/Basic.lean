/-
**Responders.**

A responder answers at one address.  It answers status queries for an authority, hands out a
certificate, or does what a script says.

Main definitions:

* `Responder`, `Responder.ocspOf`, `Responder.certificateOf`;
* `Responder.Calls` — how often each scripted responder was called;
* `Responder.respond`.
-/

import RevocationLab.Responder.Certificate
import RevocationLab.Responder.Ocsp
import RevocationLab.Responder.Script
import RevocationLab.Tally

set_option autoImplicit false

namespace RevocationLab

namespace Responder

/-- What a responder does: an authority is named by its place, and scripted responders are told apart
by numbers. -/
inductive Role where
  | ocsp (authority : Nat)
  | certificate (certificate : X509.Certificate)
  | scripted (script : Script) (number : Nat)
  deriving DecidableEq

/-- How often each scripted responder was called. -/
abbrev Calls := Tally Nat

end Responder

/-- A responder at an address. -/
structure Responder where
  url : Url
  role : Responder.Role
  deriving DecidableEq

namespace Responder

/-- The responder that answers status queries for the authority at a place. -/
def ocspOf (place : Nat) (a : Authority) : Responder := ⟨a.ocspUrl, .ocsp place⟩

/-- The responder that hands out the certificate of an authority. -/
def certificateOf (a : Authority) : Responder := ⟨a.certificateUrl, .certificate a.certificate⟩

/-- The reply of a responder, and the calls with this one. -/
def respond (authorities : Authority.Registry) (now : Instant) (r : Responder)
    (request : Http.Request) (calls : Calls) : Reply × Calls :=
  match r.role with
  | .ocsp place =>
      match authorities.get? place with
      | some a => (Ocsp.respond a (authorities.chain place) now request, calls)
      | none => (⟨Ocsp.badRequest, []⟩, calls)
  | .certificate certificate => (Certificate.respond certificate request, calls)
  | .scripted script number =>
      let calls := calls.add number
      (⟨script.respond (calls.count number) request, []⟩, calls)

end Responder

end RevocationLab
