/-
**Certificate identifiers.**

A status query names a certificate by the digests of its issuer's name and key, and by its serial
number.

Main definitions:

* `Ocsp.CertId`, `Ocsp.CertId.encode`, `Ocsp.CertId.decoder`;
* `Ocsp.IssuerHashes.of`, `Ocsp.IssuerHashes.of?` — the two digests of an issuer's certificate;
* `Ocsp.CertId.of` — the identifier of a certificate under its issuer.
-/

import RevocationLab.Digest
import RevocationLab.X509.Certificate

set_option autoImplicit false

namespace RevocationLab

namespace Ocsp

open Der X509

/-! ### Issuers -/

/-- The digests of an issuer's name and key. -/
structure IssuerHashes where
  name : Octets
  key : Octets
  deriving DecidableEq, Repr

/-- The digests of the subject and of the key bits of an issuer's certificate. -/
def IssuerHashes.of (issuer : Certificate) (hash : Digest.Algorithm) : IssuerHashes :=
  ⟨hash.digest issuer.body.subject.encode, hash.digest issuer.body.key.key.octets⟩

/-- These digests, unless the name is too long to be written. -/
def IssuerHashes.of? (issuer : Certificate) (hash : Digest.Algorithm) : Option IssuerHashes := do
  let name ← sealed? issuer.body.subject.encode
  return ⟨hash.digest name, hash.digest issuer.body.key.key.octets⟩

/-- A name that can be written has digests. -/
theorem IssuerHashes.of?_eq_some {issuer : Certificate}
    (h : issuer.body.subject.encode.length ≤ maxLength) (hash : Digest.Algorithm) :
    IssuerHashes.of? issuer hash = some (IssuerHashes.of issuer hash) := by
  have hsealed : sealed? issuer.body.subject.encode = some issuer.body.subject.encode := if_pos h
  rw [IssuerHashes.of?, hsealed]
  rfl

/-! ### Identifiers -/

/-- The name of a certificate in a status query. -/
structure CertId where
  hash : AlgorithmIdentifier
  nameHash : Octets
  keyHash : Octets
  serial : SerialNumber
  deriving DecidableEq, Repr

namespace CertId

/-- The identifier of a certificate under its issuer. -/
def of (issuer certificate : Certificate) (hash : Digest.Algorithm) : CertId :=
  let hashes := IssuerHashes.of issuer hash
  ⟨⟨hash.objectId, none⟩, hashes.name, hashes.key, certificate.body.serial⟩

/-- The element of an identifier. -/
def encode (c : CertId) : Octets :=
  element Tag.sequence
    (c.hash.encode ++ octetString c.nameHash ++ octetString c.keyHash ++ c.serial.encode)

/-- An identifier. -/
def decoder : Decoder CertId :=
  Decoder.sequence do
    return ⟨← AlgorithmIdentifier.decoder, ← Decoder.octetString, ← Decoder.octetString,
      ← SerialNumber.decoder⟩

end CertId

end Ocsp

end RevocationLab
