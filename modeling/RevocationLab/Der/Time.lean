/-
**Times.**

A time is a whole second of the calendar.  It is written in one of two forms: with a year of four
digits, or, up to 2049, with a year of two digits.  Both end in `Z` and have seconds.

Main definitions:

* `Der.Time` — a second of the calendar;
* `Der.Time.ofSeconds?`, `Der.Time.ofInstant?` — the times that can be written;
* `Der.Time.generalized`, `Der.Decoder.generalizedTime` — the form with four digits;
* `Der.Time.utc`, `Der.Decoder.utcTime` — the form with two digits.
-/

import RevocationLab.Calendar
import RevocationLab.Instant
import RevocationLab.Der.Primitive

set_option autoImplicit false

namespace RevocationLab

namespace Der

/-- A second of the calendar, counted from the start of 1970. -/
structure Time where
  seconds : Nat
  seconds_le : seconds ≤ Calendar.lastSecond
  deriving DecidableEq

namespace Time

/-! ### Which times there are -/

/-- The time `n` seconds after the start of 1970, up to the end of 9999. -/
def ofSeconds? (n : Nat) : Option Time :=
  if h : n ≤ Calendar.lastSecond then some ⟨n, h⟩ else none

/-- The whole second of a point in time, from 1970 to 9999. -/
def ofInstant? (t : Instant) : Option Time :=
  t.seconds? >>= ofSeconds?

/-- The last second that the form with two digits can say. -/
def lastShortSecond : Nat := 2524607999

/-! ### Digits -/

/-- The digit of a value below ten. -/
def digit (n : Nat) : UInt8 := UInt8.ofNat (48 + n)

/-- A value below a hundred as two digits. -/
def twoDigits (n : Nat) : Octets := [digit (n / 10 % 10), digit (n % 10)]

/-- The value of a digit. -/
def digitValue? (b : UInt8) : Option Nat :=
  if 48 ≤ b ∧ b ≤ 57 then some (b.toNat - 48) else none

/-- The value of two digits. -/
def twoDigitValue? (a b : UInt8) : Option Nat := do
  return 10 * (← digitValue? a) + (← digitValue? b)

/-- The digits of a date after those of its year, and the final letter. -/
def afterYear (d : Calendar.Date) : Octets :=
  twoDigits d.month ++ twoDigits d.day ++ twoDigits d.hour ++ twoDigits d.minute
    ++ twoDigits d.second ++ [0x5a]

/-- The time of a date in year `year` whose other digits are given. -/
def ofDigits? (year : Nat) : Octets → Option Time
  | [m, m', d, d', h, h', n, n', s, s', 0x5a] => do
      let date : Calendar.Date :=
        ⟨year, ← twoDigitValue? m m', ← twoDigitValue? d d', ← twoDigitValue? h h',
          ← twoDigitValue? n n', ← twoDigitValue? s s'⟩
      if date.isValid then ofSeconds? date.seconds else none
  | _ => none

/-! ### The form with four digits -/

/-- The content of a GeneralizedTime. -/
def generalizedContent (t : Time) : Octets :=
  let d := Calendar.Date.ofSeconds t.seconds
  twoDigits (d.year / 100) ++ twoDigits (d.year % 100) ++ afterYear d

/-- The time in the content of a GeneralizedTime. -/
def ofGeneralized? : Octets → Option Time
  | a :: b :: c :: d :: r => do
      let year := 100 * (← twoDigitValue? a b) + (← twoDigitValue? c d)
      ofDigits? year r
  | _ => none

/-- The element of a GeneralizedTime. -/
def generalized (t : Time) : Octets := element Tag.generalizedTime t.generalizedContent

/-! ### The form with two digits -/

/-- The content of a UTCTime. -/
def utcContent (t : Time) : Octets :=
  let d := Calendar.Date.ofSeconds t.seconds
  twoDigits (d.year % 100) ++ afterYear d

/-- The time in the content of a UTCTime: years from 50 on belong to the twentieth century. -/
def ofUtc? : Octets → Option Time
  | a :: b :: r => do
      let short ← twoDigitValue? a b
      ofDigits? (if 50 ≤ short then 1900 + short else 2000 + short) r
  | _ => none

/-- The element of a UTCTime. -/
def utc (t : Time) : Octets := element Tag.utcTime t.utcContent

end Time

/-- A GeneralizedTime. -/
def Decoder.generalizedTime : Decoder Time :=
  Decoder.reading Tag.generalizedTime Time.ofGeneralized?

/-- A UTCTime. -/
def Decoder.utcTime : Decoder Time :=
  Decoder.reading Tag.utcTime Time.ofUtc?

end Der

end RevocationLab
