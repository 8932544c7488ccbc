/-
**Authorities.**

An authority has a certificate, the key that signs for it, the addresses under which it answers, and
a ledger of what it issued.  It answers only for itself: a query has to name it by digests of its own
name and key, under an algorithm that it knows, whatever the parameters of that algorithm are.

Main definitions:

* `Authority.Error` — why an operation was refused;
* `Authority.Plan` — what an authority is made from;
* `Authority.certify` — a certificate from a text and a key;
* `Authority`, `Authority.answersFor`, `Authority.status`.
-/

import RevocationLab.Authority.Ledger
import RevocationLab.Ocsp.CertId
import RevocationLab.Url.Parse
import RevocationLab.Uuid
import RevocationLab.X509.Issuing
import RevocationLab.X509.NameText

set_option autoImplicit false

namespace RevocationLab

open X509

/-! ### Making certificates -/

namespace Authority

/-- Why an operation was refused. -/
inductive Error where
  /-- There is no such authority. -/
  | absent
  /-- A name or a time cannot be written. -/
  | unwritable
  /-- The clock cannot say when the certificate ends: the operation breaks off. -/
  | clockOverflow
  /-- The certificate cannot be signed. -/
  | unsignable
  /-- The addresses of the authority cannot be derived. -/
  | url (cause : Url.ParseError)
  /-- The certificate was not issued here. -/
  | unknownSerial (serial : SerialNumber)
  deriving DecidableEq, Repr

/-- The text of an error. -/
def Error.message : Error → String
  | absent => "there is no such authority"
  | unwritable => "certificate encoding failed"
  | clockOverflow => Instant.overflowText
  | unsignable => "certificate builder failed"
  | url cause => "authority URL could not be derived: " ++ cause.message
  | unknownSerial serial => s!"serial number {serial.toHex} was not issued by this authority"

/-- What an authority is made from: the text of its common name, how long the certificates signed by it
last, and its key. -/
structure Plan where
  commonName : String
  validity : Duration
  key : Rsa.KeyPair
  deriving DecidableEq, Repr

/-- What is drawn for an authority: sixteen octets for its serial number and sixteen for its
identifier. -/
structure Draws where
  serial : Octets
  id : Octets
  deriving DecidableEq, Repr

/-- The certificate for a common name and a key that has a lifetime from now. -/
def certify (signer : Rsa.KeyPair) (role : Role) (lifetime : Duration) (commonName : String)
    (key : PublicKeyInfo) (draw : Octets) (now : Instant) : Except Error Certificate :=
  match Name.ofCommonName? commonName, Validity.lasting now lifetime with
  | some subject, .ok validity =>
      match Draft.sign? ⟨role, SerialNumber.ofDraw draw, validity, subject, key⟩ signer with
      | some certificate => .ok certificate
      | none => .error .unsignable
  | some _, .error .clockOverflow => .error .clockOverflow
  -- the name of an authority is read before the clock, the name on a leaf after it
  | none, .error .clockOverflow => .error (if role.isAuthority then .unwritable else .clockOverflow)
  | _, _ => .error .unwritable

end Authority

/-! ### Authorities -/

/-- An authority; `parent` is the place of the authority that certified it. -/
structure Authority where
  id : Uuid
  certificate : Certificate
  key : Rsa.KeyPair
  parent : Option Nat
  validity : Duration
  base : Url
  certificateUrl : Url
  ocspUrl : Url
  issued : Authority.Ledger
  deriving DecidableEq

namespace Authority

/-- The name of an authority. -/
def subject (a : Authority) : Name := a.certificate.body.subject

/-- The authority with this certificate whose addresses lie under a base, with nothing issued.  The
digests by which it will be asked for are taken first. -/
def establish (base : Url) (certificate : Certificate) (plan : Plan) (parent : Option Nat)
    (draw : Octets) : Except Error Authority :=
  let id := Uuid.ofDraw draw
  match Ocsp.IssuerHashes.of? certificate .sha1, Ocsp.IssuerHashes.of? certificate .sha256 with
  | some _, some _ =>
      match base.join (id.toText ++ "/"), base.join ("ocsp-" ++ id.toText ++ "/") with
      | .ok certificateUrl, .ok ocspUrl =>
          .ok
            { id, certificate, key := plan.key, parent, validity := plan.validity, base
              certificateUrl, ocspUrl, issued := [] }
      | .error cause, _ => .error (.url cause)
      | _, .error cause => .error (.url cause)
  | _, _ => .error .unwritable

/-- The authority with this standing for a serial number. -/
def record (a : Authority) (serial : SerialNumber) (standing : Standing) : Authority :=
  { a with issued := Keyed.put a.issued serial standing }

/-- Whether an identifier names this authority as the issuer. -/
def answersFor (a : Authority) (id : Ocsp.CertId) : Bool :=
  match Digest.Algorithm.ofObjectId? id.hash.algorithm with
  | some hash => Ocsp.IssuerHashes.of a.certificate hash == ⟨id.nameHash, id.keyHash⟩
  | none => false

/-- The status of the certificate that an identifier names. -/
def status (a : Authority) (id : Ocsp.CertId) : Ocsp.Status :=
  if a.answersFor id then
    match Keyed.get? a.issued id.serial with
    | some standing => standing.status
    | none => .unknown
  else .unknown

end Authority

end RevocationLab
