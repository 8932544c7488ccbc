/-
**Algorithms, keys and extensions.**

The small records that certificates and status messages share.

Main definitions:

* `X509.AlgorithmIdentifier` — an algorithm with its parameters;
* `X509.PublicKeyInfo` — a key with its algorithm;
* `X509.Extension` — a value with its identifier and criticality.
-/

import RevocationLab.Der.ObjectId

set_option autoImplicit false

namespace RevocationLab

namespace X509

open Der

/-! ### Algorithms -/

/-- An algorithm with its parameters, if there are any. -/
structure AlgorithmIdentifier where
  algorithm : ObjectId
  parameters : Option Element
  deriving DecidableEq, Repr

namespace AlgorithmIdentifier

/-- The element of an algorithm. -/
def encode (a : AlgorithmIdentifier) : Octets :=
  element Tag.sequence (a.algorithm.encode ++ (a.parameters.map Element.encode).getD [])

/-- An algorithm. -/
def decoder : Decoder AlgorithmIdentifier :=
  Decoder.sequence do
    return ⟨← Decoder.objectId, ← Decoder.optional (fun _ => true) Decoder.any⟩

/-- RSA signatures over SHA-256 digests, with NULL parameters. -/
def sha256WithRsa : AlgorithmIdentifier :=
  ⟨⟨[0x2a, 0x86, 0x48, 0x86, 0xf7, 0x0d, 0x01, 0x01, 0x0b]⟩, some ⟨Tag.null, []⟩⟩

/-- RSA keys, with NULL parameters. -/
def rsaEncryption : AlgorithmIdentifier :=
  ⟨⟨[0x2a, 0x86, 0x48, 0x86, 0xf7, 0x0d, 0x01, 0x01, 0x01]⟩, some ⟨Tag.null, []⟩⟩

end AlgorithmIdentifier

/-! ### Keys -/

/-- A public key with its algorithm. -/
structure PublicKeyInfo where
  algorithm : AlgorithmIdentifier
  key : BitString
  deriving DecidableEq, Repr

namespace PublicKeyInfo

/-- The element of a public key. -/
def encode (k : PublicKeyInfo) : Octets :=
  element Tag.sequence (k.algorithm.encode ++ k.key.encode)

/-- A public key. -/
def decoder : Decoder PublicKeyInfo :=
  Decoder.sequence do return ⟨← AlgorithmIdentifier.decoder, ← Decoder.bitString⟩

end PublicKeyInfo

/-! ### Extensions -/

/-- A value with the identifier of its kind. -/
structure Extension where
  kind : ObjectId
  critical : Bool
  value : Octets
  deriving DecidableEq, Repr

namespace Extension

/-- The element of an extension; criticality is written only when it is set. -/
def encode (e : Extension) : Octets :=
  element Tag.sequence
    (e.kind.encode ++ (if e.critical then bool true else []) ++ octetString e.value)

/-- An extension. -/
def decoder : Decoder Extension :=
  Decoder.sequence do
    let kind ← Decoder.objectId
    let critical ← Decoder.optional (· == Tag.boolean) Decoder.bool
    return ⟨kind, critical.getD false, ← Decoder.octetString⟩

/-- The element of a list of extensions. -/
def encodeList (es : List Extension) : Octets :=
  element Tag.sequence (es.flatMap encode)

/-- The element of numbered field `n` that holds a list of extensions, if there is one. -/
def encodeField (n : Nat) (es : Option (List Extension)) : Octets :=
  match es with
  | some es => element (Tag.contextConstructed n) (encodeList es)
  | none => []

/-- A list of extensions. -/
def listDecoder : Decoder (List Extension) := Decoder.listOf decoder

end Extension

end X509

end RevocationLab
