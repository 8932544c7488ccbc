/-
**Big-endian numbers, written and read.**

Writing a number in a fixed number of octets and reading it back loses what is above that number of
octets and nothing else; reading a string of octets and writing it in as many octets gives the string.

Main results:

* `Octets.toNat_ofNatPadded`, `Octets.ofNatPadded_toNat` — **the two directions are inverse to each
  other**, as far as the width goes;
* `Octets.toNat_append` — the value of a string of octets.
-/

import Mathlib.Algebra.Order.Ring.Nat
import Mathlib.Data.List.Induction
import Mathlib.Tactic.Ring
import RevocationLab.Octets

set_option autoImplicit false

namespace RevocationLab

namespace Octets

/-! ### Values -/

theorem foldl_toNat (b : Octets) (n : Nat) :
    b.foldl (fun n x => 256 * n + x.toNat) n = n * 256 ^ b.length + toNat b := by
  induction b generalizing n with
  | nil => simp
  | cons x b ih =>
      have hcons : toNat (x :: b) = x.toNat * 256 ^ b.length + toNat b := by
        rw [toNat, List.foldl_cons, ih]
        simp
      rw [List.foldl_cons, ih, hcons, List.length_cons, pow_succ]
      ring

/-- The octets of a string in front of others count for as many places more. -/
theorem toNat_append (b c : Octets) : toNat (b ++ c) = toNat b * 256 ^ c.length + toNat c := by
  rw [toNat, List.foldl_append, foldl_toNat]
  rfl

theorem toNat_cons (x : UInt8) (b : Octets) :
    toNat (x :: b) = x.toNat * 256 ^ b.length + toNat b := by
  simpa [toNat] using toNat_append [x] b

/-! ### Writing in a fixed number of octets -/

theorem digitsOnto_append (width n : Nat) (acc : Octets) :
    digitsOnto width n acc = ofNatPadded width n ++ acc := by
  induction width generalizing n acc with
  | zero => rfl
  | succ width ih =>
      rw [digitsOnto, ofNatPadded, digitsOnto, ih, ih (n / 256) [UInt8.ofNat (n % 256)]]
      simp

theorem ofNatPadded_succ (width n : Nat) :
    ofNatPadded (width + 1) n = ofNatPadded width (n / 256) ++ [UInt8.ofNat (n % 256)] := by
  rw [ofNatPadded, digitsOnto, digitsOnto_append]

/-- **Reading what was written** gives the number back, up to the places that there was no room for. -/
theorem toNat_ofNatPadded (width n : Nat) : toNat (ofNatPadded width n) = n % 256 ^ width := by
  induction width generalizing n with
  | zero => simp [ofNatPadded, digitsOnto, Nat.mod_one]
  | succ width ih =>
      have hlast : toNat [UInt8.ofNat (n % 256)] = n % 256 := by
        simp [toNat, UInt8.toNat_ofNat']
      rw [ofNatPadded_succ, toNat_append, ih, hlast, List.length_singleton, pow_one, pow_succ,
        Nat.mul_comm (256 ^ width) 256, Nat.mod_mul]
      omega

/-- **Writing what was read** gives the octets back. -/
theorem ofNatPadded_toNat (b : Octets) : ofNatPadded b.length (toNat b) = b := by
  -- on the last octet, which is the remainder that is written first
  induction b using List.reverseRecOn with
  | nil => rfl
  | append_singleton b x ih =>
      have hvalue : toNat (b ++ [x]) = toNat b * 256 + x.toNat := by
        simp [toNat_append, toNat_cons]
      have hx : x.toNat < 256 := x.toNat_lt
      have hdiv : (toNat b * 256 + x.toNat) / 256 = toNat b := by omega
      have hmod : (toNat b * 256 + x.toNat) % 256 = x.toNat := by omega
      rw [List.length_append, List.length_singleton, ofNatPadded_succ, hvalue, hdiv, hmod, ih]
      simp

/-! ### Lists of values -/

/-- What is written of one value is no longer than what is written of a list that holds it. -/
theorem length_le_of_mem_flatMap {α : Type} (write : α → Octets) {x : α} {xs : List α}
    (h : x ∈ xs) : (write x).length ≤ (xs.flatMap write).length :=
  (List.sublist_flatten_of_mem (List.mem_map_of_mem h)).length_le

end Octets

end RevocationLab
