/-
**Serial numbers.**

A serial number is kept as the content octets of its INTEGER, sign octet included.  One made from a
magnitude has at most twenty octets; one that is read may have twenty-one, and may be negative.  The
empty magnitude stays an INTEGER without content.

Main definitions:

* `X509.SerialNumber`;
* `X509.SerialNumber.ofMagnitude?` — a serial number from big-endian octets;
* `X509.SerialNumber.ofDraw` — a positive odd-headed serial number from sixteen random octets.
-/

import RevocationLab.Der.Primitive

set_option autoImplicit false

namespace RevocationLab

namespace X509

open Der

/-- A serial number by the content octets of its INTEGER. -/
structure SerialNumber where
  content : Octets
  deriving DecidableEq, Repr

namespace SerialNumber

/-- The magnitude without the zero octets in front, of which a single zero keeps one. -/
def stripZeros : Octets → Octets
  | 0 :: b :: r => stripZeros (b :: r)
  | b => b

/-- The magnitude with a zero octet in front if its first bit is set. -/
def signed : Octets → Octets
  | [] => []
  | b :: r => if b < 0x80 then b :: r else 0 :: b :: r

/-- The serial number with this magnitude, when its content has at most twenty octets. -/
def ofMagnitude? (magnitude : Octets) : Option SerialNumber :=
  let content := signed (stripZeros magnitude)
  if content.length ≤ 20 then some ⟨content⟩ else none

/-- The octets of a draw with the first one made odd and below 128. -/
def oddHead : Octets → Octets
  | [] => []
  | b :: r => ((b &&& 0x7f) ||| 0x01) :: r

/-- The serial number of a draw of sixteen octets. -/
def ofDraw (draw : Octets) : SerialNumber := ⟨oddHead draw⟩

/-- The content as hexadecimal text. -/
def toHex (s : SerialNumber) : String := Octets.toHex s.content

/-- The element of a serial number. -/
def encode (s : SerialNumber) : Octets := element Tag.integer s.content

/-- A serial number of at most twenty-one octets. -/
def decoder : Decoder SerialNumber :=
  Decoder.reading Tag.integer fun c =>
    if isMinimalInteger c ∧ c.length ≤ 21 then some ⟨c⟩ else none

end SerialNumber

end X509

end RevocationLab
