/-
**Authorities and who certified whom.**

The authorities are kept in the order in which they were made, so that whoever certified another one
stands before it.  Making, issuing and revoking are the only ways to change them; an operation that is
refused leaves every ledger as it was.

Main definitions:

* `Authority.Registry`, `Authority.Registry.get?`;
* `Authority.Registry.createRoot`, `Authority.Registry.createIntermediate`;
* `Authority.Registry.issue`, `Authority.Registry.revoke`;
* `Authority.Registry.chain` — the certificates from an authority up to its root;
* `Authority.Registry.describe` — the text of an authority.
-/

import RevocationLab.Authority.Basic
import RevocationLab.Text.Quoted

set_option autoImplicit false

namespace RevocationLab

namespace Authority

open X509

/-- The authorities in the order in which they were made. -/
structure Registry where
  list : List Authority := []
  deriving DecidableEq

namespace Registry

/-! ### Looking -/

/-- The authority at a place. -/
def get? (r : Registry) (place : Nat) : Option Authority := r.list[place]?

/-- The number of authorities, which is the place of the next one. -/
def size (r : Registry) : Nat := r.list.length

/-- The certificates from an authority up to its root. -/
def chain (r : Registry) (place : Nat) : List Certificate :=
  match r.get? place with
  | none => []
  | some a =>
      match a.parent with
      | none => [a.certificate]
      | some parent =>
          if parent < place then a.certificate :: r.chain parent else [a.certificate]
termination_by place

/-- The authority that certified the one at a place, if another one did. -/
def parent? (r : Registry) (place : Nat) : Option Authority := do
  r.get? (← (← r.get? place).parent)

/-- The text of the authority at a place. -/
def describe (r : Registry) (place : Nat) : String :=
  match r.get? place with
  | none => ""
  | some a =>
      let parent := match r.parent? place with
        | some p => "Some(" ++ p.id.toText ++ ")"
        | none => "None"
      "CertificateAuthority \x7b id: " ++ a.id.toText ++ ", subject: "
        ++ Quoted.text a.subject.toText ++ ", parent: " ++ parent ++ ", .. \x7d"

/-! ### Changing -/

/-- The registry with one more authority. -/
def add (r : Registry) (a : Authority) : Registry := ⟨r.list ++ [a]⟩

/-- The registry with a standing written into one ledger. -/
def record (r : Registry) (place : Nat) (serial : SerialNumber) (standing : Standing) : Registry :=
  ⟨r.list.modify place fun a => a.record serial standing⟩

/-- Makes an authority that certifies itself. -/
def createRoot (r : Registry) (base : Url) (plan : Plan) (draws : Draws) (now : Instant) :
    Registry × Except Error Nat :=
  match certify plan.key .root plan.validity plan.commonName plan.key.publicKey.info draws.serial
      now with
  | .error e => (r, .error e)
  | .ok certificate =>
      match establish base certificate plan none draws.id with
      | .error e => (r, .error e)
      | .ok a => (r.add a, .ok r.size)

/-- Makes an authority that another one certifies, under the same base and for as long as
certificates of the other one last. -/
def createIntermediate (r : Registry) (parent : Nat) (plan : Plan) (draws : Draws) (now : Instant) :
    Registry × Except Error Nat :=
  match r.get? parent with
  | none => (r, .error .absent)
  | some issuer =>
      match certify issuer.key (.subordinate issuer.subject) issuer.validity plan.commonName
          plan.key.publicKey.info draws.serial now with
      | .error e => (r, .error e)
      | .ok certificate =>
          let r := r.record parent certificate.body.serial .valid
          match establish issuer.base certificate plan (some parent) draws.id with
          | .error e => (r, .error e)
          | .ok a => (r.add a, .ok r.size)

/-- Issues a certificate for a key. -/
def issue (r : Registry) (place : Nat) (commonName : String) (key : PublicKeyInfo) (draw : Octets)
    (now : Instant) : Registry × Except Error Certificate :=
  match r.get? place with
  | none => (r, .error .absent)
  | some issuer =>
      match certify issuer.key (.leaf issuer.subject) issuer.validity commonName key draw now with
      | .error e => (r, .error e)
      | .ok certificate => (r.record place certificate.body.serial .valid, .ok certificate)

/-- Marks a certificate revoked as of now, also one that was revoked before. -/
def revoke (r : Registry) (place : Nat) (serial : SerialNumber) (reason : Option Ocsp.Reason)
    (now : Instant) : Registry × Except Error Unit :=
  match r.get? place with
  | none => (r, .error .absent)
  | some a =>
      match Keyed.get? a.issued serial with
      | none => (r, .error (.unknownSerial serial))
      | some _ => (r.record place serial (.revoked now reason), .ok ())

end Registry

end Authority

end RevocationLab
