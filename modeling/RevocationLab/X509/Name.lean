/-
**Distinguished names.**

A name is a sequence of sets of attributes.  The attributes of a set are kept in the order of their
encodings, and no two of them are equal; a set in another order is read and put into this one.  The
values of attributes are not looked into.

Main definitions:

* `X509.Attribute`, `X509.RelativeName`, `X509.Name`;
* `X509.RelativeName.sorted?` — a set of attributes in its order;
* `X509.Name.encode`, `Der.Decoder.name`.
-/

import RevocationLab.Der.ObjectId

set_option autoImplicit false

namespace RevocationLab

namespace X509

open Der

/-! ### Attributes -/

/-- A value with the identifier of its kind. -/
structure Attribute where
  kind : ObjectId
  value : Element
  deriving DecidableEq, Repr

/-- The element of an attribute. -/
def Attribute.encode (a : Attribute) : Octets :=
  element Tag.sequence (a.kind.encode ++ a.value.encode)

/-- An attribute. -/
def Attribute.decoder : Decoder Attribute :=
  Decoder.sequence do return ⟨← Decoder.objectId, ← Decoder.any⟩

/-! ### Sets of attributes -/

/-- A set of attributes in the order of their encodings. -/
abbrev RelativeName := List Attribute

namespace RelativeName

/-- Puts an attribute into its place. -/
def insert (a : Attribute) : RelativeName → RelativeName
  | [] => [a]
  | b :: r => if a.encode ≤ b.encode then a :: b :: r else b :: insert a r

/-- Whether some attribute stands next to an equal one. -/
def hasTwins : RelativeName → Bool
  | a :: b :: r => a == b || hasTwins (b :: r)
  | _ => false

/-- The attributes in order, unless two of them are equal. -/
def sorted? (attributes : List Attribute) : Option RelativeName :=
  let s := attributes.foldr insert []
  if hasTwins s then none else some s

/-- The element of a set of attributes. -/
def encode (r : RelativeName) : Octets := element Tag.set (r.flatMap Attribute.encode)

/-- A set of attributes. -/
def decoder : Decoder RelativeName := do
  let attributes ← Decoder.inside Tag.set (Decoder.many Attribute.decoder)
  match sorted? attributes with
  | some s => pure s
  | none => failure

end RelativeName

/-! ### Names -/

/-- A sequence of sets of attributes. -/
abbrev Name := List RelativeName

/-- The element of a name. -/
def Name.encode (n : Name) : Octets := element Tag.sequence (n.flatMap RelativeName.encode)

end X509

/-- A name. -/
def Der.Decoder.name : Der.Decoder X509.Name := Der.Decoder.listOf X509.RelativeName.decoder

end RevocationLab
