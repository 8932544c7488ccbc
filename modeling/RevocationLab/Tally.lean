/-
**Tallies.**

A tally counts occurrences by key and remembers the keys in the order in which they came up first.

Main definitions:

* `Tally`, `Tally.add`;
* `Tally.count`, `Tally.total`.

Main results:

* `Tally.count_add` — **counting one key leaves every other count alone**;
* `Tally.total_add` — the total grows by one.
-/

import RevocationLab.Keyed

set_option autoImplicit false

namespace RevocationLab

/-- Keys with how often they came up. -/
abbrev Tally (κ : Type) := Keyed κ Nat

namespace Tally

variable {κ : Type}

/-- All occurrences together. -/
def total : Tally κ → Nat
  | [] => 0
  | e :: r => e.2 + total r

variable [DecidableEq κ]

/-- How often a key came up. -/
def count (t : Tally κ) (k : κ) : Nat := (Keyed.get? t k).getD 0

/-- One more occurrence of a key. -/
def add (t : Tally κ) (k : κ) : Tally κ := Keyed.put t k (count t k + 1)

@[simp] theorem count_nil (k : κ) : count [] k = 0 := rfl

/-- **Counting one key leaves every other count alone.** -/
theorem count_add (t : Tally κ) (k l : κ) :
    count (add t k) l = count t l + if k = l then 1 else 0 := by
  by_cases h : k = l
  · subst h
    simp [count, add, Keyed.get?_put]
  · simp [count, add, Keyed.get?_put, h]

theorem total_put (t : Tally κ) (k : κ) (n : Nat) :
    total (Keyed.put t k n) + count t k = total t + n := by
  induction t with
  | nil => simp [Keyed.put, total]
  | cons e r ih =>
      simp only [total, count] at ih ⊢
      by_cases h : e.1 = k
      · simp only [Keyed.put, Keyed.get?, h, if_true, total, Option.getD_some]
        omega
      · simp only [Keyed.put, Keyed.get?, h, if_false, total]
        omega

/-- The total grows by one. -/
@[simp] theorem total_add (t : Tally κ) (k : κ) : total (add t k) = total t + 1 := by
  have h := total_put t k (count t k + 1)
  unfold add
  omega

end Tally

end RevocationLab
