/-
**Points in time and lengths of time.**

The clock counts nanoseconds before or after the start of 1970.  It has a largest value, beyond which
nothing can be added.  A length of time has as many whole seconds as fit sixty-four bits, and a part of
one more.

Main definitions:

* `Instant` — a point in time;
* `Instant.seconds?` — the whole seconds since 1970;
* `Duration`, `Duration.ofSeconds?` — a length of time;
* `Instant.plus?`, `Instant.after?` — a later point, unless the clock cannot say it.
-/

set_option autoImplicit false

namespace RevocationLab

/-- A point in time, in nanoseconds from the start of 1970. -/
structure Instant where
  nanoseconds : Int
  deriving DecidableEq, Repr

namespace Instant

/-- The nanoseconds of a second. -/
def second : Nat := 1000000000

/-- The largest point in time: the last nanosecond whose seconds fit sixty-three bits. -/
def last : Instant := ⟨0x7fffffffffffffff * second + (second - 1)⟩

/-- The point that is `n` whole seconds after the start of 1970. -/
def ofSeconds (n : Nat) : Instant := ⟨n * second⟩

/-- The whole seconds since the start of 1970, for a point that is not before it. -/
def seconds? (t : Instant) : Option Nat :=
  if t.nanoseconds < 0 then none else some (t.nanoseconds.toNat / second)

/-- The point `n` nanoseconds later, unless it is beyond the last one. -/
def later? (t : Instant) (n : Nat) : Option Instant :=
  let later : Instant := ⟨t.nanoseconds + n⟩
  if later.nanoseconds ≤ last.nanoseconds then some later else none

/-- What is said when a sum is beyond the last point: such a sum is no error but breaks off. -/
def overflowText : String := "overflow when adding duration to instant"

/-- The point `n` whole seconds later. -/
def plus? (t : Instant) (n : Nat) : Option Instant := t.later? (n * second)

/-- The seconds of a point that is `n` seconds after the start of 1970. -/
@[simp] theorem seconds?_ofSeconds (n : Nat) : (ofSeconds n).seconds? = some n := by
  have h : ¬ ((n : Int) * (second : Nat) < 0) := by
    have : (0 : Int) ≤ (n : Int) * (second : Nat) := by
      exact Int.mul_nonneg (Int.natCast_nonneg n) (Int.natCast_nonneg second)
    omega
  simp only [ofSeconds, seconds?, h, if_false, Option.some.injEq]
  have e : ((n : Int) * (second : Nat)).toNat = n * second := by
    rw [← Int.natCast_mul, Int.toNat_natCast]
  rw [e]
  exact Nat.mul_div_cancel n (by decide)

end Instant

/-! ### Lengths of time -/

/-- A length of time: its whole seconds, and the nanoseconds of one more. -/
structure Duration where
  seconds : Nat
  fraction : Nat
  seconds_lt : seconds < UInt64.size
  fraction_lt : fraction < Instant.second
  deriving DecidableEq, Repr

namespace Duration

/-- The length of `n` seconds. -/
def ofSeconds (n : Nat) (h : n < UInt64.size) : Duration := ⟨n, 0, h, by decide⟩

/-- The length of `n` seconds, if so many fit. -/
def ofSeconds? (n : Nat) : Option Duration :=
  if h : n < UInt64.size then some (ofSeconds n h) else none

/-- The length of a day. -/
def day : Duration := ofSeconds 86400 (by decide)

/-- All nanoseconds of a length of time. -/
def nanoseconds (d : Duration) : Nat := d.seconds * Instant.second + d.fraction

end Duration

/-- The point that is a length of time later. -/
def Instant.after? (t : Instant) (d : Duration) : Option Instant := t.later? d.nanoseconds

end RevocationLab
