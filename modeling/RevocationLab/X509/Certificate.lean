/-
**Certificates.**

The signed part of a certificate, its algorithm and its signature.  A field that has its default
value is not written.

Main definitions:

* `X509.Time` — a time in one of two forms; `X509.Time.ofTime` picks the form by the year;
* `X509.Validity` — the first and the last moment of a certificate;
* `X509.Body` — the part that is signed;
* `X509.Certificate`, `X509.Certificate.encode`, `X509.Certificate.decoder`.
-/

import RevocationLab.Der.Time
import RevocationLab.X509.Extension
import RevocationLab.X509.Name
import RevocationLab.X509.SerialNumber

set_option autoImplicit false

namespace RevocationLab

namespace X509

open Der

/-! ### Times -/

/-- A time in the form that it is written in. -/
inductive Time where
  | utc (time : Der.Time)
  | generalized (time : Der.Time)
  deriving DecidableEq

namespace Time

/-- The form of a time: two digits for the year up to 2049, and four from 2050 on. -/
def ofTime (t : Der.Time) : Time :=
  if t.seconds ≤ Der.Time.lastShortSecond then utc t else generalized t

/-- The time without its form. -/
def time : Time → Der.Time
  | utc t => t
  | generalized t => t

/-- The element of a time. -/
def encode : Time → Octets
  | utc t => t.utc
  | generalized t => t.generalized

/-- A time. -/
def decoder : Decoder Time := do
  match ← Decoder.nextTag with
  | some tag =>
      if tag = Tag.utcTime then utc <$> Decoder.utcTime else generalized <$> Decoder.generalizedTime
  | none => failure

end Time

/-- The first and the last moment of a certificate. -/
structure Validity where
  notBefore : Time
  notAfter : Time
  deriving DecidableEq

namespace Validity

/-- Why a certificate would have no validity. -/
inductive Error where
  /-- The clock cannot say the end. -/
  | clockOverflow
  /-- One of the ends is not in the calendar. -/
  | unwritable
  deriving DecidableEq, Repr

/-- From the second of `now` to the second in which a lifetime ends.  The end is computed before either
is written. -/
def lasting (now : Instant) (lifetime : Duration) : Except Error Validity :=
  match now.after? lifetime with
  | none => .error .clockOverflow
  | some later =>
      match Der.Time.ofInstant? now, Der.Time.ofInstant? later with
      | some notBefore, some notAfter => .ok ⟨Time.ofTime notBefore, Time.ofTime notAfter⟩
      | _, _ => .error .unwritable

/-- The element of a validity. -/
def encode (v : Validity) : Octets :=
  element Tag.sequence (v.notBefore.encode ++ v.notAfter.encode)

/-- A validity. -/
def decoder : Decoder Validity :=
  Decoder.sequence do return ⟨← Time.decoder, ← Time.decoder⟩

end Validity

/-! ### The part that is signed -/

/-- The versions of certificates. -/
inductive Version where
  | v1
  | v2
  | v3
  deriving DecidableEq, Repr

namespace Version

/-- The number of a version. -/
def number : Version → Nat
  | v1 => 0
  | v2 => 1
  | v3 => 2

/-- The version with a number. -/
def ofNumber? : Nat → Option Version
  | 0 => some v1
  | 1 => some v2
  | 2 => some v3
  | _ => none

/-- The numbered field of a version; the first version is not written. -/
def encode (v : Version) : Octets :=
  if v = v1 then []
  else element (Tag.contextConstructed 0) (element Tag.integer (smallContent v.number))

/-- The numbered field of a version. -/
def decoder : Decoder Version := do
  return (← Decoder.explicit 0 (Decoder.small Tag.integer ofNumber?)).getD v1

end Version

/-- The part of a certificate that is signed. -/
structure Body where
  version : Version
  serial : SerialNumber
  algorithm : AlgorithmIdentifier
  issuer : Name
  validity : Validity
  subject : Name
  key : PublicKeyInfo
  issuerId : Option BitString
  subjectId : Option BitString
  extensions : Option (List Extension)
  deriving DecidableEq

namespace Body

/-- Numbered field `n` in place of the tag of a BIT STRING. -/
def encodeId (n : Nat) (id : Option BitString) : Octets :=
  match id with
  | some s => element (Tag.context n) s.content
  | none => []

/-- The element of the signed part. -/
def encode (b : Body) : Octets :=
  element Tag.sequence
    (b.version.encode ++ b.serial.encode ++ b.algorithm.encode ++ b.issuer.encode
      ++ b.validity.encode ++ b.subject.encode ++ b.key.encode ++ encodeId 1 b.issuerId
      ++ encodeId 2 b.subjectId ++ Extension.encodeField 3 b.extensions)

/-- The signed part of a certificate. -/
def decoder : Decoder Body :=
  Decoder.sequence do
    let version ← Version.decoder
    let serial ← SerialNumber.decoder
    let algorithm ← AlgorithmIdentifier.decoder
    let issuer ← Decoder.name
    let validity ← Validity.decoder
    let subject ← Decoder.name
    let key ← PublicKeyInfo.decoder
    let issuerId ← Decoder.implicit 1 BitString.ofContent?
    let subjectId ← Decoder.implicit 2 BitString.ofContent?
    let extensions ← Decoder.explicit 3 Extension.listDecoder
    return ⟨version, serial, algorithm, issuer, validity, subject, key, issuerId, subjectId,
      extensions⟩

end Body

/-! ### Certificates -/

/-- A signed certificate. -/
structure Certificate where
  body : Body
  algorithm : AlgorithmIdentifier
  signature : BitString
  deriving DecidableEq

namespace Certificate

/-- The element of a certificate. -/
def encode (c : Certificate) : Octets :=
  element Tag.sequence (c.body.encode ++ c.algorithm.encode ++ c.signature.encode)

/-- A certificate. -/
def decoder : Decoder Certificate :=
  Decoder.sequence do
    return ⟨← Body.decoder, ← AlgorithmIdentifier.decoder, ← Decoder.bitString⟩

/-- The certificate that an encoding holds. -/
def decode? (b : Octets) : Option Certificate := Der.decode? decoder b

end Certificate

end X509

end RevocationLab
