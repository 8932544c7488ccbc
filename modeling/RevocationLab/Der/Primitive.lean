/-
**Primitive values.**

The contents of BOOLEAN, INTEGER, ENUMERATED, NULL, OCTET STRING and BIT STRING elements.

Main definitions:

* `Der.isMinimalInteger` — the canonical contents of an INTEGER;
* `Der.BitString` — the unused bits of the last octet, and the octets;
* `Der.Decoder.bool`, `Der.Decoder.small`, `Der.Decoder.octetString`, `Der.Decoder.bitString`.
-/

import RevocationLab.Der.Decoder

set_option autoImplicit false

namespace RevocationLab

namespace Der

/-! ### Booleans, small numbers and null -/

/-- The content of a BOOLEAN. -/
def boolContent (b : Bool) : Octets := if b then [0xff] else [0x00]

/-- The element of a BOOLEAN. -/
def bool (b : Bool) : Octets := element Tag.boolean (boolContent b)

/-- The content of an INTEGER below 256. -/
def smallContent (n : Nat) : Octets :=
  if n < 128 then [UInt8.ofNat n] else [0, UInt8.ofNat n]

/-- The element of a NULL. -/
def null : Octets := element Tag.null []

/-! ### Integers -/

/-- Whether the content of an INTEGER is in its only form: there is an octet, and the first nine
bits are not all equal. -/
def isMinimalInteger : Octets → Bool
  | [] => false
  | [_] => true
  | a :: b :: _ => !(a == 0 && b < 0x80) && !(a == 0xff && 0x80 ≤ b)

/-- The content of the INTEGER with this magnitude: no leading zero octet but the one that keeps the
first bit clear. -/
def unsignedContent (n : Nat) : Octets :=
  match Octets.ofNat n with
  | [] => [0]
  | b :: r => if b < 0x80 then b :: r else 0 :: b :: r

/-- The element of a natural number. -/
def unsigned (n : Nat) : Octets := element Tag.integer (unsignedContent n)

/-! ### Strings of octets and bits -/

/-- The element of an OCTET STRING. -/
def octetString (b : Octets) : Octets := element Tag.octetString b

/-- A string of bits: octets, of the last of which some low bits are unused. -/
structure BitString where
  unused : Nat
  octets : Octets
  deriving DecidableEq, Repr

/-- Whole octets as bits. -/
def BitString.ofOctets (b : Octets) : BitString := ⟨0, b⟩

/-- The content of a BIT STRING. -/
def BitString.content (s : BitString) : Octets := UInt8.ofNat s.unused :: s.octets

/-- The element of a BIT STRING. -/
def BitString.encode (s : BitString) : Octets := element Tag.bitString s.content

/-- The bits in the content of a BIT STRING. -/
def BitString.ofContent? : Octets → Option BitString
  | [] => none
  | u :: b => if u = 0 ∨ (u ≤ 7 ∧ b ≠ []) then some ⟨u.toNat, b⟩ else none

/-! ### Decoders -/

namespace Decoder

/-- A content that `read` turns into a value. -/
def reading {α : Type} (tag : Tag) (read : Octets → Option α) : Decoder α := fun b => do
  let (c, rest) ← content tag b
  let x ← read c
  return (x, rest)

/-- A BOOLEAN, which is all zeros or all ones. -/
def bool : Decoder Bool :=
  reading Tag.boolean fun
    | [0x00] => some false
    | [0xff] => some true
    | _ => none

/-- The value of the content of an INTEGER below 256. -/
def smallValue? (c : Octets) : Option Nat :=
  match c with
  | [a] => if a < 0x80 then some a.toNat else none
  | [0, a] => if 0x80 ≤ a then some a.toNat else none
  | _ => none

/-- An INTEGER or ENUMERATED value below 256 that `read` turns into a value. -/
def small {α : Type} (tag : Tag) (read : Nat → Option α) : Decoder α :=
  reading tag fun c => smallValue? c >>= read

/-- A NULL. -/
def null : Decoder Unit :=
  reading Tag.null fun c => if c = [] then some () else none

/-- An OCTET STRING. -/
def octetString : Decoder Octets := content Tag.octetString

/-- A BIT STRING. -/
def bitString : Decoder BitString := reading Tag.bitString BitString.ofContent?

end Decoder

end Der

end RevocationLab
