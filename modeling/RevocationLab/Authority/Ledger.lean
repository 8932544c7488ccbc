/-
**What an authority has issued.**

An authority remembers the serial number of every certificate that it issued, and whether the
certificate was revoked, when, and why.  A serial number is entered once; what is written later about
it replaces what was there.

Main definitions:

* `Authority.Standing` — what is known about a certificate;
* `Authority.Ledger`.
-/

import RevocationLab.Instant
import RevocationLab.Keyed
import RevocationLab.Ocsp.Status
import RevocationLab.X509.SerialNumber

set_option autoImplicit false

namespace RevocationLab

namespace Authority

/-- What is known about a certificate that was issued. -/
inductive Standing where
  | valid
  | revoked (moment : Instant) (reason : Option Ocsp.Reason)
  deriving DecidableEq, Repr

/-- Serial numbers with what is known about their certificates. -/
abbrev Ledger := Keyed X509.SerialNumber Standing

/-- The status that a standing has in an answer; a moment outside the calendar cannot be told. -/
def Standing.status : Standing → Ocsp.Status
  | valid => .good
  | revoked moment reason =>
      match Der.Time.ofInstant? moment with
      | some time => .revoked time reason
      | none => .unknown

end Authority

end RevocationLab
