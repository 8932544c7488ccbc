/-
**The digests of certificate identifiers.**

A certificate identifier names its issuer by the digests of the issuer's name and key, under one of
two algorithms.

Main definitions:

* `Digest.Algorithm` — the two algorithms;
* `Digest.Algorithm.objectId`, `Digest.Algorithm.ofObjectId?` — their identifiers;
* `Digest.Algorithm.digest` — the digest of a message.
-/

import RevocationLab.Der.ObjectId
import RevocationLab.Digest.Sha1
import RevocationLab.Digest.Sha256

set_option autoImplicit false

namespace RevocationLab

namespace Digest

/-- A digest algorithm. -/
inductive Algorithm where
  | sha1
  | sha256
  deriving DecidableEq, Repr

namespace Algorithm

/-- The identifier of an algorithm. -/
def objectId : Algorithm → Der.ObjectId
  | sha1 => ⟨[0x2b, 0x0e, 0x03, 0x02, 0x1a]⟩
  | sha256 => ⟨[0x60, 0x86, 0x48, 0x01, 0x65, 0x03, 0x04, 0x02, 0x01]⟩

/-- The algorithm with an identifier. -/
def ofObjectId? (id : Der.ObjectId) : Option Algorithm :=
  if id = sha1.objectId then some sha1
  else if id = sha256.objectId then some sha256
  else none

/-- The digest of a message. -/
def digest : Algorithm → Octets → Octets
  | sha1, message => Sha1.digest message
  | sha256, message => Sha256.digest message

/-- An identifier names an algorithm exactly when it is that algorithm's. -/
theorem ofObjectId?_eq_some_iff {id : Der.ObjectId} {a : Algorithm} :
    ofObjectId? id = some a ↔ id = a.objectId := by
  constructor
  · intro h
    unfold ofObjectId? at h
    split at h
    · cases h; assumption
    · split at h
      · cases h; assumption
      · cases h
  · rintro rfl
    cases a <;> decide

end Algorithm

end Digest

end RevocationLab
