/-
**Elements of the distinguished encoding rules.**

Every value is written as one element: a tag octet, the length of the content in the fewest octets,
and the content.  Lengths end at `2 ^ 28 - 1` octets, and a text that would be longer has no
encoding.  Reading an element accepts exactly what writing one produces, for the tags that this
library knows.

Main definitions:

* `Der.Element`, `Der.Element.encode` — a tag with its content, and its octets;
* `Der.lengthOctets`, `Der.readLength` — the minimal length and its reading;
* `Der.readElement` — takes one element off the front of a string of octets;
* `Der.sealed?` — refuses an encoding that is too long.
-/

import RevocationLab.Octets

set_option autoImplicit false

namespace RevocationLab

namespace Der

/-! ### Tags -/

/-- A tag octet. -/
abbrev Tag := UInt8

/-- The tag of a BOOLEAN. -/
def Tag.boolean : Tag := 0x01

/-- The tag of an INTEGER. -/
def Tag.integer : Tag := 0x02

/-- The tag of a BIT STRING. -/
def Tag.bitString : Tag := 0x03

/-- The tag of an OCTET STRING. -/
def Tag.octetString : Tag := 0x04

/-- The tag of a NULL. -/
def Tag.null : Tag := 0x05

/-- The tag of an OBJECT IDENTIFIER. -/
def Tag.objectId : Tag := 0x06

/-- The tag of an ENUMERATED value. -/
def Tag.enumerated : Tag := 0x0a

/-- The tag of a UTF8String. -/
def Tag.utf8String : Tag := 0x0c

/-- The tag of a PrintableString. -/
def Tag.printableString : Tag := 0x13

/-- The tag of a TeletexString. -/
def Tag.teletexString : Tag := 0x14

/-- The tag of an IA5String. -/
def Tag.ia5String : Tag := 0x16

/-- The tag of a UTCTime. -/
def Tag.utcTime : Tag := 0x17

/-- The tag of a GeneralizedTime. -/
def Tag.generalizedTime : Tag := 0x18

/-- The tag of a SEQUENCE. -/
def Tag.sequence : Tag := 0x30

/-- The tag of a SET. -/
def Tag.set : Tag := 0x31

/-- The tag of context-specific field `n`, `n < 31`, with primitive content. -/
def Tag.context (n : Nat) : Tag := UInt8.ofNat (0x80 + n)

/-- The tag of context-specific field `n`, `n < 31`, with elements as content. -/
def Tag.contextConstructed (n : Nat) : Tag := UInt8.ofNat (0xa0 + n)

/-- The number in the low bits of a tag. -/
def Tag.number (t : Tag) : Nat := t.toNat % 32

/-- Whether the tag belongs to a context-specific field. -/
def Tag.isContext (t : Tag) : Bool := t.toNat / 64 == 2

/-- Whether the content of the tagged element consists of elements. -/
def Tag.isConstructed (t : Tag) : Bool := t.toNat / 32 % 2 == 1

/-- The universal tags that may occur. -/
def universalTags : List Tag :=
  [0x01, 0x02, 0x03, 0x04, 0x05, 0x06, 0x09, 0x0a, 0x0c, 0x12, 0x13, 0x14, 0x15, 0x16, 0x17, 0x18,
    0x1a, 0x1d, 0x30, 0x31]

/-- The tags that may occur: the universal ones above, and every number below thirty-one of the
other classes. -/
def Tag.isKnown (t : Tag) : Bool :=
  t.number != 31 && (0x40 ≤ t || universalTags.contains t)

/-! ### Lengths -/

/-- The largest length of a content, and of a whole encoding. -/
def maxLength : Nat := 0xfffffff

/-- The number of octets that a long length takes. -/
def lengthWidth (n : Nat) : Nat :=
  if n < 0x100 then 1 else if n < 0x10000 then 2 else if n < 0x1000000 then 3 else 4

/-- The length `n` in the fewest octets. -/
def lengthOctets (n : Nat) : Octets :=
  if n < 128 then [UInt8.ofNat n]
  else UInt8.ofNat (0x80 + lengthWidth n) :: Octets.ofNatPadded (lengthWidth n) n

/-- Takes a length off the front.  A length in more octets than it needs is refused. -/
def readLength : Octets → Option (Nat × Octets)
  | [] => none
  | b :: r =>
      if b < 0x80 then some (b.toNat, r)
      else
        let width := b.toNat - 0x80
        let n := Octets.toNat (r.take width)
        if width ≤ r.length ∧ 128 ≤ n ∧ n ≤ maxLength ∧ lengthWidth n = width then
          some (n, r.drop width)
        else none

/-! ### Elements -/

/-- A tag with its content. -/
structure Element where
  tag : Tag
  content : Octets
  deriving DecidableEq, Repr

/-- The octets of an element. -/
def Element.encode (e : Element) : Octets :=
  e.tag :: lengthOctets e.content.length ++ e.content

/-- The octets of the element with this tag and content. -/
def element (tag : Tag) (content : Octets) : Octets :=
  Element.encode ⟨tag, content⟩

/-- Takes one element with a known tag off the front. -/
def readElement : Octets → Option (Element × Octets)
  | [] => none
  | tag :: r =>
      if Tag.isKnown tag then do
        let (n, r) ← readLength r
        if n ≤ r.length then some (⟨tag, r.take n⟩, r.drop n) else none
      else none

/-- The encoding, unless it is longer than a length can say. -/
def sealed? (b : Octets) : Option Octets :=
  if b.length ≤ maxLength then some b else none

end Der

end RevocationLab
