/-
**Certificate statuses.**

A certificate is good, revoked at some time for some reason, or unknown.

Main definitions:

* `Ocsp.Reason` — why a certificate was revoked;
* `Ocsp.Status`, `Ocsp.Status.encode`, `Ocsp.Status.decoder`.
-/

import RevocationLab.Der.Time

set_option autoImplicit false

namespace RevocationLab

namespace Ocsp

open Der

/-! ### Reasons -/

/-- Why a certificate was revoked. -/
inductive Reason where
  | unspecified
  | keyCompromise
  | caCompromise
  | affiliationChanged
  | superseded
  | cessationOfOperation
  | certificateHold
  | removeFromCrl
  | privilegeWithdrawn
  | aaCompromise
  deriving DecidableEq, Repr

namespace Reason

/-- The number and the name of a reason. -/
def row (r : Reason) : Nat × String :=
  match r with
  | unspecified => (0, "Unspecified")
  | keyCompromise => (1, "KeyCompromise")
  | caCompromise => (2, "CaCompromise")
  | affiliationChanged => (3, "AffiliationChanged")
  | superseded => (4, "Superseded")
  | cessationOfOperation => (5, "CessationOfOperation")
  | certificateHold => (6, "CertificateHold")
  | removeFromCrl => (8, "RemoveFromCRL")
  | privilegeWithdrawn => (9, "PrivilegeWithdrawn")
  | aaCompromise => (10, "AaCompromise")

/-- All reasons. -/
def all : List Reason :=
  [unspecified, keyCompromise, caCompromise, affiliationChanged, superseded, cessationOfOperation,
    certificateHold, removeFromCrl, privilegeWithdrawn, aaCompromise]

/-- The number of a reason; seven is not used. -/
def number (r : Reason) : Nat := r.row.1

/-- The name of a reason. -/
def name (r : Reason) : String := r.row.2

/-- The reason with a number. -/
def ofNumber? (n : Nat) : Option Reason := all.find? fun r => r.number == n

/-- The reason with a name. -/
def ofName? (s : String) : Option Reason := all.find? fun r => r.name == s

/-- A number names at most one reason. -/
theorem ofNumber?_number (r : Reason) : ofNumber? r.number = some r := by
  cases r <;> rfl

end Reason

/-! ### Statuses -/

/-- What an authority says about a certificate. -/
inductive Status where
  | good
  | revoked (time : Time) (reason : Option Reason)
  | unknown
  deriving DecidableEq

namespace Status

/-- The content of the field of a revocation. -/
def revocationContent (time : Time) (reason : Option Reason) : Octets :=
  time.generalized
    ++ (reason.map fun r =>
        element (Tag.contextConstructed 0) (element Tag.enumerated (smallContent r.number))).getD []

/-- The element of a status. -/
def encode : Status → Octets
  | good => element (Tag.context 0) []
  | revoked time reason => element (Tag.contextConstructed 1) (revocationContent time reason)
  | unknown => element (Tag.context 2) []

/-- The fields of a revocation. -/
def revocationDecoder : Decoder Status := do
  let time ← Decoder.generalizedTime
  return revoked time (← Decoder.explicit 0 (Decoder.small Tag.enumerated Reason.ofNumber?))

/-- The status in an element. -/
def ofElement? (e : Element) : Option Status :=
  if e.tag = Tag.context 0 then if e.content = [] then some good else none
  else if e.tag = Tag.contextConstructed 1 then revocationDecoder.whole e.content
  else if e.tag = Tag.context 2 then if e.content = [] then some unknown else none
  else none

/-- A status. -/
def decoder : Decoder Status := do
  match ofElement? (← Decoder.any) with
  | some s => pure s
  | none => failure

end Status

end Ocsp

end RevocationLab
