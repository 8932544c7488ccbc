/-
**Object identifiers.**

An identifier is kept as the octets it is written with: the first holds two arcs, each further arc is
a base-128 number with its most significant digit first.  Reading dotted text is wider than reading
octets: text may name an identifier of two octets, or an arc of thirty-two full bits, which are then
written but not read back.

Main definitions:

* `Der.ObjectId` — an identifier by its octets;
* `Der.ObjectId.ofText?`, `Der.ObjectId.toText` — dotted decimal text;
* `Der.ObjectId.isReadable` — the octets that are accepted when read.
-/

import RevocationLab.Der.Primitive
import RevocationLab.Text.Ascii

set_option autoImplicit false

namespace RevocationLab

namespace Der

/-- An object identifier by the content octets of its element. -/
structure ObjectId where
  octets : Octets
  deriving DecidableEq, Repr

namespace ObjectId

/-! ### Octets -/

/-- The most octets of an identifier. -/
def maxOctets : Nat := 39

/-- The base-128 digits of `n` before the octets in `acc`, all but the last marked. -/
def arcOnto : Nat → Nat → Octets → Octets
  | 0, _, acc => acc
  | fuel + 1, n, acc =>
      if n = 0 then acc else arcOnto fuel (n / 128) (UInt8.ofNat (0x80 + n % 128) :: acc)

/-- The octets of an arc below `2 ^ 32`. -/
def arcOctets (n : Nat) : Octets :=
  arcOnto 4 (n / 128) [UInt8.ofNat (n % 128)]

/-- Whether arcs follow each other without a break: `seen` octets of the current arc have gone by.
An arc has at most five octets, the fifth of which is below sixteen in its low seven bits' upper
part, and the last octet ends an arc. -/
def arcsReadable : Nat → Octets → Bool
  | seen, [] => seen == 0
  | seen, b :: r =>
      if seen < 4 ∨ (seen = 4 ∧ b &&& 0xf0 = 0) then
        arcsReadable (if b < 0x80 then 0 else seen + 1) r
      else false

/-- The octets that are accepted when read: three to thirty-nine, the first two arcs in range, and
whole arcs after them. -/
def isReadable : Octets → Bool
  | [] => false
  | b :: r => 2 ≤ r.length && r.length < maxOctets && b.toNat < 120 && arcsReadable 0 r

/-- The element of an identifier. -/
def encode (o : ObjectId) : Octets := element Tag.objectId o.octets

/-! ### Dotted text -/

/-- The numbers of the arcs in a string of octets, `n` being the value of the current arc so far. -/
def arcValues : Nat → Octets → List Nat
  | _, [] => []
  | n, b :: r =>
      let m := (n * 128 + b.toNat % 128) % UInt32.size
      if b < 0x80 then m :: arcValues 0 r else arcValues m r

/-- The arcs of an identifier. -/
def arcs (o : ObjectId) : List Nat :=
  match o.octets with
  | [] => []
  | b :: r => b.toNat / 40 :: b.toNat % 40 :: arcValues 0 r

/-- The dotted decimal text. -/
def toText (o : ObjectId) : String :=
  String.intercalate "." (o.arcs.map fun n => toString n)

/-- The numbers in a dotted text: a digit in front of each dot or number, where an empty number
between two dots is zero. -/
def textArcs? : Nat → List Char → Option (List Nat)
  | n, [] => some [n]
  | n, '.' :: c :: r => do
      let rest ← textArcs? 0 (c :: r)
      return n :: rest
  | _, ['.'] => none
  | n, c :: r =>
      if c.isDigit then
        let m := n * 10 + (c.toNat - 48)
        if m < UInt32.size then textArcs? m r else none
      else none

/-- The identifier that a dotted text names.  The text starts with a digit, the first arc is at most
two, the second below forty, and there are two to thirty-eight octets. -/
def ofText? (s : String) : Option ObjectId := do
  let chars := s.toList
  if (chars.head?.map Char.isDigit).getD false then
    match ← textArcs? 0 chars with
    | first :: second :: rest =>
        let octets := UInt8.ofNat (first * 40 + second) :: rest.flatMap arcOctets
        if first ≤ 2 ∧ second < 40 ∧ 2 ≤ octets.length ∧ octets.length < maxOctets then
          some ⟨octets⟩
        else none
    | _ => none
  else none

end ObjectId

/-- An OBJECT IDENTIFIER. -/
def Decoder.objectId : Decoder ObjectId :=
  Decoder.reading Tag.objectId fun c => if ObjectId.isReadable c then some ⟨c⟩ else none

end Der

end RevocationLab
