/-
**Status requests.**

A request lists the certificates whose status is asked for, and may carry a nonce among its
extensions.  Requests that are built here are unsigned and have no optional part but the nonce;
requests that are read may have any.

Main definitions:

* `Ocsp.Query`, `Ocsp.RequestBody`, `Ocsp.Request`;
* `Ocsp.Request.build`, `Ocsp.Request.encode?`, `Ocsp.Request.decode?`;
* `Ocsp.nonceExtension`, `Ocsp.findNonce?` — a nonce as an extension, and the first one in a list.
-/

import RevocationLab.Ocsp.CertId
import RevocationLab.X509.GeneralName

set_option autoImplicit false

namespace RevocationLab

namespace Ocsp

open Der X509

/-! ### Versions -/

/-- The only version of requests and responses is the first one, which is not written. -/
def versionDecoder : Decoder Unit := do
  let _ ← Decoder.explicit 0 (Decoder.small Tag.integer fun n => if n = 0 then some () else none)

/-! ### Nonces -/

/-- The kind of a nonce extension. -/
def nonceKind : ObjectId := ⟨[0x2b, 0x06, 0x01, 0x05, 0x05, 0x07, 0x30, 0x01, 0x02]⟩

/-- A nonce as an OCTET STRING in an extension that is not critical. -/
def nonceExtension (nonce : Octets) : Extension := ⟨nonceKind, false, octetString nonce⟩

/-- The first nonce among the extensions. -/
def findNonce? (extensions : Option (List Extension)) : Option Extension :=
  extensions.bind fun es => es.find? fun e => e.kind == nonceKind

/-! ### Queries -/

/-- A question about one certificate. -/
structure Query where
  certId : CertId
  extensions : Option (List Extension)
  deriving DecidableEq, Repr

namespace Query

/-- The element of a question. -/
def encode (q : Query) : Octets :=
  element Tag.sequence (q.certId.encode ++ Extension.encodeField 0 q.extensions)

/-- A question. -/
def decoder : Decoder Query :=
  Decoder.sequence do return ⟨← CertId.decoder, ← Decoder.explicit 0 Extension.listDecoder⟩

end Query

/-! ### Requests -/

/-- The part of a request that may be signed. -/
structure RequestBody where
  requestor : Option GeneralName
  queries : List Query
  extensions : Option (List Extension)
  deriving DecidableEq, Repr

namespace RequestBody

/-- The element of the questions. -/
def encode (b : RequestBody) : Octets :=
  element Tag.sequence
    (((b.requestor.map fun n => element (Tag.contextConstructed 1) n.encode).getD [])
      ++ element Tag.sequence (b.queries.flatMap Query.encode)
      ++ Extension.encodeField 2 b.extensions)

/-- The questions. -/
def decoder : Decoder RequestBody :=
  Decoder.sequence do
    versionDecoder
    let requestor ← Decoder.explicit 1 GeneralName.decoder
    let queries ← Decoder.listOf Query.decoder
    return ⟨requestor, queries, ← Decoder.explicit 2 Extension.listDecoder⟩

end RequestBody

/-- The signature of a request, with certificates to check it. -/
structure RequestSignature where
  algorithm : AlgorithmIdentifier
  signature : BitString
  certificates : Option (List Certificate)
  deriving DecidableEq

/-- Numbered field zero that holds a list of certificates, if there is one. -/
def encodeCertificates (cs : Option (List Certificate)) : Octets :=
  match cs with
  | some cs =>
      element (Tag.contextConstructed 0) (element Tag.sequence (cs.flatMap Certificate.encode))
  | none => []

/-- Numbered field zero that may hold a list of certificates. -/
def certificatesDecoder : Decoder (Option (List Certificate)) :=
  Decoder.explicit 0 (Decoder.listOf Certificate.decoder)

namespace RequestSignature

/-- The element of a signature. -/
def encode (s : RequestSignature) : Octets :=
  element Tag.sequence
    (s.algorithm.encode ++ s.signature.encode ++ encodeCertificates s.certificates)

/-- A signature. -/
def decoder : Decoder RequestSignature :=
  Decoder.sequence do
    return ⟨← AlgorithmIdentifier.decoder, ← Decoder.bitString, ← certificatesDecoder⟩

end RequestSignature

/-- A request for the status of certificates. -/
structure Request where
  body : RequestBody
  signature : Option RequestSignature
  deriving DecidableEq

namespace Request

/-- The element of a request. -/
def encode (r : Request) : Octets :=
  element Tag.sequence
    (r.body.encode
      ++ (r.signature.map fun s => element (Tag.contextConstructed 0) s.encode).getD [])

/-- A request. -/
def decoder : Decoder Request :=
  Decoder.sequence do
    return ⟨← RequestBody.decoder, ← Decoder.explicit 0 RequestSignature.decoder⟩

/-- The request that an encoding holds. -/
def decode? (b : Octets) : Option Request := Der.decode? decoder b

/-- The unsigned request about these certificates, in this order, with an optional nonce. -/
def build (certIds : List CertId) (nonce : Option Octets) : Request :=
  ⟨⟨none, certIds.map fun c => ⟨c, none⟩, nonce.map fun n => [nonceExtension n]⟩, none⟩

/-- The encoding of the request that is built, unless it is too long. -/
def encode? (certIds : List CertId) (nonce : Option Octets) : Option Octets :=
  sealed? (build certIds nonce).encode

end Request

end Ocsp

end RevocationLab
