/-
**Issuing certificates.**

A certificate is made for one of three roles: a root signs itself, a subordinate authority and a leaf
are signed by their issuer.  The role decides the extensions, which always come in one order: the
identifier of the subject's key, that of the issuer's key unless the certificate is a root's, whether
the subject is an authority, and what its key may be used for.

Main definitions:

* `X509.Role`, `X509.Role.extensions`;
* `X509.Draft` — what goes into a certificate;
* `X509.Draft.sign?` — the signed certificate.
-/

import RevocationLab.Digest.Sha1
import RevocationLab.Rsa
import RevocationLab.X509.Certificate

set_option autoImplicit false

namespace RevocationLab

namespace X509

open Der

/-! ### Roles -/

/-- What a certificate is for, with the name of its issuer. -/
inductive Role where
  | root
  | subordinate (issuer : Name)
  | leaf (issuer : Name)
  deriving DecidableEq, Repr

namespace Role

/-- The issuer of a certificate for a subject in this role. -/
def issuer (subject : Name) : Role → Name
  | root => subject
  | subordinate issuer => issuer
  | leaf issuer => issuer

/-- Whether the subject is an authority. -/
def isAuthority : Role → Bool
  | leaf _ => false
  | _ => true

end Role

/-! ### Extensions -/

/-- The identifier of a key: the digest of its bits. -/
def keyId (key : PublicKeyInfo) : Octets := Digest.Sha1.digest key.key.octets

/-- The extension that identifies the key of the subject. -/
def subjectKeyExtension (key : PublicKeyInfo) : Extension :=
  ⟨⟨[0x55, 0x1d, 0x0e]⟩, false, octetString (keyId key)⟩

/-- The extension that identifies the key of the issuer. -/
def issuerKeyExtension (key : PublicKeyInfo) : Extension :=
  ⟨⟨[0x55, 0x1d, 0x23]⟩, false, element Tag.sequence (element (Tag.context 0) (keyId key))⟩

/-- The extension that tells whether the subject is an authority. -/
def constraintsExtension (isAuthority : Bool) : Extension :=
  ⟨⟨[0x55, 0x1d, 0x13]⟩, true, element Tag.sequence (if isAuthority then bool true else [])⟩

/-- The extension that tells what the key is for: signing certificates and lists of revoked ones for
an authority, signatures and commitments for a leaf. -/
def usageExtension (isAuthority : Bool) : Extension :=
  ⟨⟨[0x55, 0x1d, 0x0f]⟩, true,
    element Tag.bitString (if isAuthority then [1, 0x06] else [6, 0xc0])⟩

/-- The extensions of a certificate for a key, signed with another. -/
def Role.extensions (role : Role) (key signer : PublicKeyInfo) : List Extension :=
  [subjectKeyExtension key]
    ++ (if role = .root then [] else [issuerKeyExtension signer])
    ++ [constraintsExtension role.isAuthority, usageExtension role.isAuthority]

/-! ### Signing -/

/-- What goes into a certificate. -/
structure Draft where
  role : Role
  serial : SerialNumber
  validity : Validity
  subject : Name
  key : PublicKeyInfo
  deriving DecidableEq

namespace Draft

/-- The part that is signed. -/
def body (d : Draft) (signer : Rsa.KeyPair) : Body :=
  { version := .v3
    serial := d.serial
    algorithm := AlgorithmIdentifier.sha256WithRsa
    issuer := d.role.issuer d.subject
    validity := d.validity
    subject := d.subject
    key := d.key
    issuerId := none
    subjectId := none
    extensions := some (d.role.extensions d.key signer.publicKey.info) }

/-- The certificate, unless the signer's modulus is too short or the encoding too long. -/
def sign? (d : Draft) (signer : Rsa.KeyPair) : Option Certificate := do
  let body := d.body signer
  let octets ← sealed? body.encode
  let signature ← signer.sign? octets
  return ⟨body, AlgorithmIdentifier.sha256WithRsa, BitString.ofOctets signature⟩

end Draft

end X509

end RevocationLab
