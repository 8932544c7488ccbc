/-
**Times, written and read.**

A time is the whole second of a point in time, if it lies in the calendar; a point some seconds later
has a second as many later.  Both forms of a time are made of pairs of digits.  Each pair is read back,
the date that the pairs name is valid, and its second is the time.  The short form leaves out the
century, which is known up to the end of 2049.

Main definitions:

* `Instant.wholeSecond` — the second that a point in time lies in.

Main results:

* `Der.Time.ofInstant?_eq_some_iff`, `Der.Time.ofInstant?_eq_none_iff` — **which points in time can be
  written, and as which time**;
* `Der.Time.ofGeneralized?_generalizedContent` — **the form with four digits is read back**;
* `Der.Time.ofUtc?_utcContent` — **the form with two digits is read back**, up to 2049.
-/

import RevocationLab.Der.Time
import RevocationLab.Proofs.Calendar
import RevocationLab.Proofs.Der.Decoder

set_option autoImplicit false

namespace RevocationLab

/-! ### Points in time -/

namespace Instant

/-- The whole second of a point in time, also before 1970. -/
def wholeSecond (t : Instant) : Int := t.nanoseconds / (second : Nat)

theorem wholeSecond_mono {s t : Instant} (h : s.nanoseconds ≤ t.nanoseconds) :
    s.wholeSecond ≤ t.wholeSecond :=
  Int.ediv_le_ediv (by decide) h

theorem wholeSecond_neg_iff {t : Instant} : t.wholeSecond < 0 ↔ t.nanoseconds < 0 := by
  unfold wholeSecond second
  omega

theorem seconds?_eq_some_iff {t : Instant} {n : Nat} :
    t.seconds? = some n ↔ (n : Int) = t.wholeSecond := by
  unfold seconds? wholeSecond second
  split
  · simp only [reduceCtorEq, false_iff]
    omega
  · rw [Option.some.injEq]
    omega

theorem nanoseconds_of_later? {t later : Instant} {n : Nat} (h : t.later? n = some later) :
    later.nanoseconds = t.nanoseconds + n := by
  obtain ⟨-, heq⟩ := Option.ite_none_right_eq_some.1 h
  cases heq
  rfl

theorem later?_eq_none_iff {t : Instant} {n : Nat} :
    t.later? n = none ↔ last.nanoseconds < t.nanoseconds + n := by
  rw [later?, ite_eq_right_iff]
  simp only [reduceCtorEq, imp_false, Int.not_le]

/-- A point some whole seconds later has a second as many later, at any offset in its second. -/
theorem wholeSecond_of_plus? {t later : Instant} {n : Nat} (h : t.plus? n = some later) :
    later.wholeSecond = t.wholeSecond + n := by
  rw [wholeSecond, nanoseconds_of_later? h, Int.natCast_mul]
  exact Int.add_mul_ediv_right _ _ (by decide)

/-- The clock can say every point up to its last second. -/
theorem exists_plus? {t : Instant} {n : Nat} (h : t.wholeSecond + n ≤ last.wholeSecond) :
    ∃ later, t.plus? n = some later := by
  have hle : t.nanoseconds + ((n * second : Nat) : Int) ≤ last.nanoseconds := by
    simp only [wholeSecond, last, second] at h ⊢
    omega
  exact ⟨_, if_pos hle⟩

end Instant

namespace Der

namespace Time

/-- **A point in time is written as its whole second.** -/
theorem ofInstant?_eq_some_iff {t : Instant} {time : Time} :
    ofInstant? t = some time ↔ (time.seconds : Int) = t.wholeSecond := by
  rw [← Instant.seconds?_eq_some_iff]
  constructor
  · intro h
    obtain ⟨n, hn, htime⟩ := Option.bind_eq_some_iff.1 h
    obtain ⟨hle, heq⟩ := Option.dite_none_right_eq_some.1 htime
    cases heq
    exact hn
  · intro h
    exact Option.bind_eq_some_iff.2 ⟨time.seconds, h, dif_pos time.seconds_le⟩

/-- **The points in time that cannot be written** lie before 1970 or after 9999. -/
theorem ofInstant?_eq_none_iff {t : Instant} :
    ofInstant? t = none ↔ t.nanoseconds < 0 ∨ (Calendar.lastSecond : Int) < t.wholeSecond := by
  rw [Option.eq_none_iff_forall_ne_some, ← Instant.wholeSecond_neg_iff]
  constructor
  · intro h
    by_contra hin
    obtain ⟨n, hn⟩ := Int.eq_ofNat_of_zero_le (a := t.wholeSecond) (by omega)
    exact h ⟨n, by omega⟩ (ofInstant?_eq_some_iff.2 hn.symm)
  · intro hout time htime
    have hsecond := ofInstant?_eq_some_iff.1 htime
    have hle := time.seconds_le
    omega

/-- A later point in time has no earlier second. -/
theorem seconds_mono {t t' : Instant} {time time' : Time} (htime : ofInstant? t = some time)
    (htime' : ofInstant? t' = some time') (h : t.nanoseconds ≤ t'.nanoseconds) :
    time.seconds ≤ time'.seconds := by
  have hmono := Instant.wholeSecond_mono h
  rw [← ofInstant?_eq_some_iff.1 htime, ← ofInstant?_eq_some_iff.1 htime'] at hmono
  exact Int.ofNat_le.1 hmono

/-- The time of a point that is some whole seconds later. -/
theorem seconds_of_plus? {t later : Instant} {n : Nat} {time next : Time}
    (hlater : t.plus? n = some later) (htime : ofInstant? t = some time)
    (hnext : ofInstant? later = some next) : next.seconds = time.seconds + n := by
  have hsum := Instant.wholeSecond_of_plus? hlater
  rw [← ofInstant?_eq_some_iff.1 htime, ← ofInstant?_eq_some_iff.1 hnext] at hsum
  omega

/-! ### Digits -/

theorem digitValue?_digit {n : Nat} (h : n < 10) : digitValue? (digit n) = some n := by
  revert n
  decide

theorem twoDigitValue?_digits {n : Nat} (h : n < 100) :
    twoDigitValue? (digit (n / 10 % 10)) (digit (n % 10)) = some n := by
  have htens := digitValue?_digit (n := n / 10 % 10) (by omega)
  have hones := digitValue?_digit (n := n % 10) (by omega)
  simp only [twoDigitValue?, htens, hones, Option.pure_def, Option.bind_eq_bind, Option.bind_some,
    Option.some.injEq]
  omega

theorem ofSeconds?_seconds (t : Time) : ofSeconds? t.seconds = some t := dif_pos t.seconds_le

/-- The days of a month are at most thirty-one. -/
theorem monthDays_le (y i : Nat) : (Calendar.monthDays y).getD i 0 ≤ 31 := by
  have hall : ∀ n ∈ Calendar.monthDays y, n ≤ 31 := by
    unfold Calendar.monthDays
    cases Calendar.isLeap y <;> decide
  rw [List.getD_eq_getElem?_getD]
  cases h : (Calendar.monthDays y)[i]? with
  | none => exact Nat.zero_le _
  | some n => exact hall n (List.mem_of_getElem? h)

/-- **The digits after the year are read back**, of a date that is valid. -/
theorem ofDigits?_afterYear {d : Calendar.Date} (h : d.isValid = true) :
    ofDigits? d.year (afterYear d) = ofSeconds? d.seconds := by
  have hparts := h
  simp only [Calendar.Date.isValid, Bool.and_eq_true, decide_eq_true_eq] at hparts
  obtain ⟨⟨⟨⟨⟨⟨-, hmonth⟩, -⟩, hday⟩, hhour⟩, hminute⟩, hsecond⟩ := hparts
  have hday' := Nat.le_trans hday (monthDays_le _ _)
  have hmonth' := twoDigitValue?_digits (n := d.month) (by omega)
  have hday'' := twoDigitValue?_digits (n := d.day) (by omega)
  have hhour' := twoDigitValue?_digits (n := d.hour) (by omega)
  have hminute' := twoDigitValue?_digits (n := d.minute) (by omega)
  have hsecond' := twoDigitValue?_digits (n := d.second) (by omega)
  simp only [afterYear, twoDigits, List.cons_append, List.nil_append, ofDigits?, hmonth', hday'',
    hhour', hminute', hsecond', Option.bind_eq_bind, Option.bind_some]
  exact if_pos h

/-! ### The two forms -/

theorem length_generalizedContent (t : Time) : t.generalizedContent.length = 15 := rfl

theorem length_utcContent (t : Time) : t.utcContent.length = 13 := rfl

/-- **The form with four digits is read back.** -/
theorem ofGeneralized?_generalizedContent (t : Time) :
    ofGeneralized? t.generalizedContent = some t := by
  have hvalid := Calendar.Date.isValid_ofSeconds t.seconds_le
  have hyear : (Calendar.Date.ofSeconds t.seconds).year ≤ 9999 :=
    Calendar.Date.year_ofSeconds_le_last t.seconds_le
  have hhigh := twoDigitValue?_digits (n := (Calendar.Date.ofSeconds t.seconds).year / 100) (by omega)
  have hlow := twoDigitValue?_digits (n := (Calendar.Date.ofSeconds t.seconds).year % 100) (by omega)
  simp only [generalizedContent, twoDigits, List.cons_append, List.nil_append, ofGeneralized?, hhigh,
    hlow, Option.bind_eq_bind, Option.bind_some]
  rw [Nat.div_add_mod, ofDigits?_afterYear hvalid, Calendar.Date.seconds_ofSeconds t.seconds_le,
    ofSeconds?_seconds]

/-- **The form with two digits is read back**, up to the end of 2049. -/
theorem ofUtc?_utcContent {t : Time} (h : t.seconds ≤ lastShortSecond) :
    ofUtc? t.utcContent = some t := by
  have hvalid := Calendar.Date.isValid_ofSeconds t.seconds_le
  have hfirst : 1970 ≤ (Calendar.Date.ofSeconds t.seconds).year :=
    Calendar.Date.year_ofSeconds_ge t.seconds_le
  have hlast : (Calendar.Date.ofSeconds t.seconds).year ≤ 2049 := Calendar.Date.year_ofSeconds_le h
  have hlow := twoDigitValue?_digits (n := (Calendar.Date.ofSeconds t.seconds).year % 100) (by omega)
  -- two digits from 50 on are of the last century, and the years are 1970 to 2049
  have hcentury : (if 50 ≤ (Calendar.Date.ofSeconds t.seconds).year % 100
      then 1900 + (Calendar.Date.ofSeconds t.seconds).year % 100
      else 2000 + (Calendar.Date.ofSeconds t.seconds).year % 100)
        = (Calendar.Date.ofSeconds t.seconds).year := by
    split_ifs <;> omega
  simp only [utcContent, twoDigits, List.cons_append, List.nil_append, ofUtc?, hlow,
    Option.bind_eq_bind, Option.bind_some, hcentury]
  rw [ofDigits?_afterYear hvalid, Calendar.Date.seconds_ofSeconds t.seconds_le, ofSeconds?_seconds]

end Time

/-! ### Decoders -/

theorem Decoder.ReadsBack.generalizedTime (t : Time) :
    ReadsBack generalizedTime t.generalized t true :=
  ReadsBack.reading (by decide) (by rw [Time.length_generalizedContent]; decide)
    (Time.ofGeneralized?_generalizedContent t)

theorem Decoder.ReadsBack.utcTime {t : Time} (h : t.seconds ≤ Time.lastShortSecond) :
    ReadsBack utcTime t.utc t true :=
  ReadsBack.reading (by decide) (by rw [Time.length_utcContent]; decide) (Time.ofUtc?_utcContent h)

end Der

end RevocationLab
