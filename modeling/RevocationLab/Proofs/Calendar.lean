/-
**Dates and seconds are two ways to say one thing.**

Walking over years and months finds the one date of a second, and adding up the years and months before
that date gives the second again.  The walk never runs out of years up to the last second of 9999,
because the days of the first `n` years have a closed form.

Main results:

* `Calendar.daysOfYears_eq` — the days of the first years, with a leap day every fourth year but not
  in three of four centuries;
* `Calendar.splitYear_spec`, `Calendar.splitMonth_spec` — what the walks find;
* `Calendar.Date.isValid_ofSeconds`, `Calendar.Date.seconds_ofSeconds` — **the date of a second is valid
  and has that second**;
* `Calendar.Date.year_ofSeconds_le` — the seconds that two digits are enough for;
* `Calendar.Date.seconds_last` — the end of the calendar as a date.
-/

import Mathlib.Data.List.Basic
import RevocationLab.Calendar

set_option autoImplicit false

namespace RevocationLab

namespace Calendar

/-! ### Years -/

/-- The days of the first `n` years, with the leap days up to 1970 on both sides. -/
theorem daysOfYears_eq (n : Nat) :
    daysOfYears n + (n + 1969) / 100 + 477 = 365 * n + (n + 1969) / 4 + (n + 1969) / 400 := by
  induction n with
  | zero => rfl
  | succ n ih =>
      simp only [daysOfYears, yearDays, isLeap, firstYear, Bool.and_eq_true, Bool.or_eq_true,
        beq_iff_eq, bne_iff_ne]
      split_ifs <;> omega

theorem daysOfYears_mono {m n : Nat} (h : m ≤ n) : daysOfYears m ≤ daysOfYears n := by
  induction h with
  | refl => exact Nat.le_refl _
  | step _ ih => exact Nat.le_trans ih (Nat.le_add_right _ _)

/-- The walk over the years ends in the year that the days lie in. -/
theorem splitYear_spec (fuel k days : Nat) (h : daysOfYears k + days < daysOfYears (k + fuel + 1)) :
    ∃ m, (splitYear fuel (firstYear + k) days).1 = firstYear + m ∧ m ≤ k + fuel
      ∧ (splitYear fuel (firstYear + k) days).2 < yearDays (firstYear + m)
      ∧ daysOfYears m + (splitYear fuel (firstYear + k) days).2 = daysOfYears k + days := by
  -- on the years that are left; the hypothesis says that they are enough for the days
  induction fuel generalizing k days with
  | zero =>
      have hyear : daysOfYears (k + 0 + 1) = daysOfYears k + yearDays (firstYear + k) := rfl
      exact ⟨k, rfl, Nat.le_refl _, by simp only [splitYear]; omega, rfl⟩
  | succ fuel ih =>
      have hyear : daysOfYears (k + 1) = daysOfYears k + yearDays (firstYear + k) := rfl
      simp only [splitYear]
      split
      · next hlt => exact ⟨k, rfl, by omega, hlt, rfl⟩
      · next hge =>
          have hlt : daysOfYears (k + 1) + (days - yearDays (firstYear + k))
              < daysOfYears (k + 1 + fuel + 1) := by
            rw [show k + 1 + fuel + 1 = k + (fuel + 1) + 1 by omega]
            omega
          obtain ⟨m, hm, hle, hin, hsum⟩ := ih (k + 1) (days - yearDays (firstYear + k)) hlt
          rw [← Nat.add_assoc] at hm hin hsum
          exact ⟨m, hm, by omega, hin, by omega⟩

/-! ### Months -/

/-- The walk over the months ends in the month that the days lie in. -/
theorem splitMonth_spec (l : List Nat) (m days : Nat) (h : days < daysOfMonths l) :
    ∃ i < l.length, (splitMonth l m days).1 = m + i
      ∧ (splitMonth l m days).2 < l.getD i 0
      ∧ daysOfMonths (l.take i) + (splitMonth l m days).2 = days := by
  induction l generalizing m days with
  | nil => cases h
  | cons n l ih =>
      simp only [splitMonth]
      split
      · next hlt =>
          have hnone : daysOfMonths ((n :: l).take 0) + days = days := Nat.zero_add days
          exact ⟨0, by simp, rfl, by simpa using hlt, hnone⟩
      · next hge =>
          rw [daysOfMonths] at h
          obtain ⟨i, hi, hm, hin, hsum⟩ := ih (m + 1) (days - n) (by omega)
          refine ⟨i + 1, by simpa using hi, by omega, by simpa using hin, ?_⟩
          rw [List.take_succ_cons, daysOfMonths]
          omega

theorem daysOfMonths_monthDays (y : Nat) : daysOfMonths (monthDays y) = yearDays y := by
  unfold monthDays yearDays
  cases isLeap y <;> rfl

/-! ### The date of a second -/

namespace Date

/-- What the walks find: the year, the month and the day that a second lies in. -/
theorem ofSeconds_spec {n : Nat} (h : n ≤ lastSecond) :
    ∃ m i d, i < 12 ∧ m ≤ 8029
      ∧ ofSeconds n = ⟨firstYear + m, i + 1, d + 1, n % 86400 / 3600, n % 86400 / 60 % 60,
          n % 86400 % 60⟩
      ∧ d < (monthDays (firstYear + m)).getD i 0
      ∧ daysOfYears m + (daysOfMonths ((monthDays (firstYear + m)).take i) + d) = n / 86400 := by
  -- the first 8030 years, up to the end of 9999, have room for the days of `n`
  have hlast := daysOfYears_eq 8030
  have hroom : daysOfYears 0 + n / 86400 < daysOfYears (0 + (lastYear - firstYear) + 1) := by
    unfold lastSecond at h
    change 0 + n / 86400 < daysOfYears 8030
    omega
  obtain ⟨m, hyear, hm, hin, hdays⟩ := splitYear_spec _ 0 (n / 86400) hroom
  generalize hsplit : splitYear (lastYear - firstYear) (firstYear + 0) (n / 86400) = p at *
  obtain ⟨y, days⟩ := p
  simp only at hyear hin hdays
  subst hyear
  rw [← daysOfMonths_monthDays] at hin
  obtain ⟨i, hi, hmonth, hday, hsum⟩ := splitMonth_spec _ 1 days hin
  have hzero : daysOfYears 0 = 0 := rfl
  refine ⟨m, i, (splitMonth (monthDays (firstYear + m)) 1 days).2, hi, hm, ?_, hday, by omega⟩
  have hsplit' : splitYear (lastYear - firstYear) firstYear (n / 86400) = (firstYear + m, days) := hsplit
  simp only [ofSeconds, hsplit', hmonth, Nat.add_comm 1 i]

/-- **The date of a second is valid.** -/
theorem isValid_ofSeconds {n : Nat} (h : n ≤ lastSecond) : (ofSeconds n).isValid = true := by
  obtain ⟨m, i, d, hi, hm, hdate, hd, -⟩ := ofSeconds_spec h
  rw [hdate]
  have hyear : firstYear + m ≤ lastYear := by
    unfold firstYear lastYear
    omega
  have hday : d + 1 ≤ (monthDays (firstYear + m)).getD (i + 1 - 1) 0 := hd
  simp only [isValid, hyear, hday, Bool.and_eq_true, decide_eq_true_eq]
  refine ⟨⟨⟨⟨⟨⟨⟨⟨?_, trivial⟩, ?_⟩, ?_⟩, ?_⟩, trivial⟩, ?_⟩, ?_⟩, ?_⟩ <;> omega

/-- **The date of a second has that second.** -/
theorem seconds_ofSeconds {n : Nat} (h : n ≤ lastSecond) : (ofSeconds n).seconds = n := by
  obtain ⟨m, i, d, -, -, hdate, -, hsum⟩ := ofSeconds_spec h
  have hyear : firstYear + m - firstYear = m := by omega
  rw [hdate]
  simp only [seconds, days, hyear, Nat.add_sub_cancel]
  omega

theorem year_ofSeconds_ge {n : Nat} (h : n ≤ lastSecond) : firstYear ≤ (ofSeconds n).year := by
  obtain ⟨m, i, d, -, -, hdate, -, -⟩ := ofSeconds_spec h
  rw [hdate]
  exact Nat.le_add_right _ _

theorem year_ofSeconds_le_last {n : Nat} (h : n ≤ lastSecond) : (ofSeconds n).year ≤ lastYear := by
  obtain ⟨m, i, d, -, hm, hdate, -, -⟩ := ofSeconds_spec h
  rw [hdate]
  change firstYear + m ≤ lastYear
  unfold firstYear lastYear
  omega

/-- Seconds before 2050 have a year before 2050. -/
theorem year_ofSeconds_le {n : Nat} (h : n ≤ 2524607999) : (ofSeconds n).year ≤ 2049 := by
  have hlast : n ≤ lastSecond := by
    unfold lastSecond
    omega
  obtain ⟨m, i, d, -, -, hdate, -, hsum⟩ := ofSeconds_spec hlast
  rw [hdate]
  change firstYear + m ≤ 2049
  -- eighty years, up to the end of 2049, take more days than there are
  by_contra hgt
  have hmono : daysOfYears 80 ≤ daysOfYears m := daysOfYears_mono (by unfold firstYear at hgt; omega)
  have hdays := daysOfYears_eq 80
  omega

/-! ### The last date -/

/-- The last second of 9999. -/
def last : Date := ⟨9999, 12, 31, 23, 59, 59⟩

/-- The calendar ends with the last second of 9999. -/
theorem seconds_last : last.seconds = lastSecond := by
  have hcount : 9999 - firstYear = 8029 := rfl
  have hyears := daysOfYears_eq 8029
  have hmonths : daysOfMonths ((monthDays 9999).take (12 - 1)) = 334 := by decide
  simp only [seconds, days, last, hcount, hmonths]
  -- the number of years is too large to count them one by one
  generalize daysOfYears 8029 = n at hyears ⊢
  unfold lastSecond
  omega

end Date

end Calendar

end RevocationLab
