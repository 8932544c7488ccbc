/-
**Texts in directories.**

A text is written with a tag that names its alphabet.

Main definitions:

* `X509.isAscii`, `X509.isPrintableOctet` — the smaller alphabets;
* `X509.DirectoryText` — a text in one of three alphabets.
-/

import RevocationLab.Der.Decoder

set_option autoImplicit false

namespace RevocationLab

namespace X509

open Der

/-- Whether every octet is ASCII. -/
def isAscii (b : Octets) : Bool := b.all (· < 0x80)

/-- Whether an octet may occur in a PrintableString. -/
def isPrintableOctet (b : UInt8) : Bool :=
  let c := Char.ofNat b.toNat
  b < 0x80 && (c.isAlphanum || " '()+,-./:=?".toList.contains c)

/-- A text in one of three alphabets, by its element. -/
structure DirectoryText where
  tag : Tag
  content : Octets
  deriving DecidableEq, Repr

namespace DirectoryText

/-- Whether the content is in the alphabet of the tag. -/
def isValid (tag : Tag) (content : Octets) : Bool :=
  if tag = Tag.printableString then content.all isPrintableOctet
  else if tag = Tag.teletexString then isAscii content
  else if tag = Tag.utf8String then (Octets.toText? content).isSome
  else false

/-- The element of a text. -/
def encode (t : DirectoryText) : Octets := element t.tag t.content

/-- A text. -/
def decoder : Decoder DirectoryText := do
  let e ← Decoder.any
  if isValid e.tag e.content then pure ⟨e.tag, e.content⟩ else failure

end DirectoryText

end X509

end RevocationLab
