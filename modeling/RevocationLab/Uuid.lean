/-
**Identifiers of authorities.**

An identifier of sixteen octets, of which four bits tell the version and two the variant; the others
are drawn.

Main definitions:

* `Uuid`, `Uuid.ofDraw` — an identifier of version 4 from sixteen drawn octets;
* `Uuid.toText` — five groups of hexadecimal digits;
* `Uuid.version`.
-/

import RevocationLab.Octets

set_option autoImplicit false

namespace RevocationLab

/-- An identifier by its octets. -/
structure Uuid where
  octets : Octets
  deriving DecidableEq, Repr

namespace Uuid

/-- The identifier of version 4 with these octets in its other bits. -/
def ofDraw (draw : Octets) : Uuid :=
  ⟨draw.mapIdx fun i b =>
    if i = 6 then (b &&& 0x0f) ||| 0x40 else if i = 8 then (b &&& 0x3f) ||| 0x80 else b⟩

/-- Groups of 8, 4, 4, 4 and 12 digits with dashes between them. -/
def toText (u : Uuid) : String :=
  let part (start count : Nat) := Octets.toHex ((u.octets.drop start).take count)
  String.intercalate "-" [part 0 4, part 4 2, part 6 2, part 8 2, part 10 6]

/-- The version of an identifier. -/
def version (u : Uuid) : Nat := (u.octets.getD 6 0).toNat / 16

end Uuid

end RevocationLab
