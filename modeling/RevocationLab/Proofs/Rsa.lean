/-
**Which keys can sign.**

The block that is signed needs room for a digest with its algorithm and for eleven octets more, so that
a key signs every message or none.

Main results:

* `Rsa.KeyPair.sign?_eq_none_iff`, `Rsa.KeyPair.exists_sign?` — **a key signs exactly if it can sign at
  all**.
-/

import Mathlib.Algebra.Order.Ring.Nat
import RevocationLab.Rsa

set_option autoImplicit false

namespace RevocationLab

namespace Rsa

theorem length_digestInfo (message : Octets) : (digestInfo message).length = 51 := by
  rw [digestInfo, List.length_append, Digest.Sha256.length_digest]
  rfl

theorem paddedBlock?_eq_none_iff (width : Nat) (message : Octets) :
    paddedBlock? width message = none ↔ width < 62 := by
  simp [paddedBlock?, length_digestInfo]

namespace KeyPair

/-- **A key refuses a message exactly if it cannot sign at all.** -/
theorem sign?_eq_none_iff (k : KeyPair) (message : Octets) :
    k.sign? message = none ↔ k.canSign = false := by
  have hpadded := paddedBlock?_eq_none_iff k.publicKey.width message
  simp only [sign?, canSign, Option.bind_eq_bind, Option.bind_eq_none_iff, Option.pure_def,
    reduceCtorEq, imp_false, decide_eq_false_iff_not, Nat.not_le]
  rw [← hpadded]
  cases paddedBlock? k.publicKey.width message <;> simp

theorem exists_sign? {k : KeyPair} (h : k.canSign = true) (message : Octets) :
    ∃ signature, k.sign? message = some signature := by
  cases hsign : k.sign? message with
  | none =>
      rw [sign?_eq_none_iff, h] at hsign
      cases hsign
  | some signature => exact ⟨signature, rfl⟩

end KeyPair

/-- A key of two primes that are one less than a power of two. -/
def sampleKey : KeyPair := ⟨2 ^ 521 - 1, 2 ^ 607 - 1⟩

end Rsa

end RevocationLab
