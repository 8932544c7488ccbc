/-
**The window of a response.**

The clock is read once.  The answers of a response hold from the second of the clock to the second of
the point one second later, and both points are cut to whole seconds after they were added up.  So the
window is one second long wherever in its second the clock stands, also across the end of a day, a year
or a century.  There is no response when one of the two seconds lies outside the calendar, and for no
other reason: a clock that stands in the calendar is so far from its last point in time that the end of
the window can be said.

Main definitions:

* `Der.Time.IsWritten` — what stands for a time in an encoding;
* `Ocsp.ResponseParts.IsWindow` — **the times in the data of a response**;
* `Ocsp.ResponseParts.KeepsTime` — what the clock decides about a response.

Main results:

* `Der.Time.isWritten` — every time is written as a date of the calendar, and read back;
* `Ocsp.ResponseParts.data_eq_error_iff` — when there is no data;
* `Ocsp.ResponseParts.keepsTime_data` — **the window of every response is one second long**.
-/

import RevocationLab.Proofs.Ocsp.Signing

set_option autoImplicit false

namespace RevocationLab

open Der

/-! ### Written times -/

namespace Der.Time

/-- **What stands for a time in an encoding.** -/
structure IsWritten (t : Time) : Prop where
  /-- The octets are the digits of a valid date, and this date has the second of the time. -/
  date : ∃ d : Calendar.Date, d.isValid = true ∧ d.seconds = t.seconds
    ∧ t.generalized = element Tag.generalizedTime
        (twoDigits (d.year / 100) ++ twoDigits (d.year % 100) ++ afterYear d)
  /-- They are read as the time. -/
  read : Der.decode? Decoder.generalizedTime t.generalized = some t

/-- **Every time is written as a date of the calendar, and read back.** -/
theorem isWritten (t : Time) : t.IsWritten where
  date := ⟨Calendar.Date.ofSeconds t.seconds, Calendar.Date.isValid_ofSeconds t.seconds_le,
    Calendar.Date.seconds_ofSeconds t.seconds_le, rfl⟩
  read := (Decoder.ReadsBack.generalizedTime t).decode? (by
    rw [generalized, length_element, length_generalizedContent]
    decide)

end Der.Time

namespace Ocsp

/-! ### The times of a response -/

/-- All times in the data of a response. -/
def ResponseData.times (data : ResponseData) : List Der.Time :=
  data.producedAt :: data.responses.flatMap fun r => r.thisUpdate :: r.nextUpdate.toList

namespace ResponseParts

/-- **The times in the data of a response.** -/
structure IsWindow (parts : ResponseParts) (data : ResponseData) : Prop where
  /-- The response was produced in the second of the clock. -/
  produced : (data.producedAt.seconds : Int) = parts.now.wholeSecond
  /-- There is one answer for each status, in their order. -/
  statuses : data.responses.map (fun r => (r.certId, r.status)) = parts.statuses
  /-- Every answer holds from that second on, -/
  thisUpdate : ∀ r ∈ data.responses, r.thisUpdate = data.producedAt
  /-- and until the next one. -/
  nextUpdate : ∀ r ∈ data.responses,
    ∃ next, r.nextUpdate = some next ∧ next.seconds = r.thisUpdate.seconds + 1
  /-- All these times can be written, and are read back. -/
  written : ∀ t ∈ data.times, t.IsWritten

/-- What the clock decides about a response. -/
structure KeepsTime (parts : ResponseParts) : Prop where
  /-- The end of the window can be said if its start can be written. -/
  later : ∀ time, Der.Time.ofInstant? parts.now = some time →
    ∃ later, parts.now.plus? responseLifetime = some later
  /-- There is data, or there is a time that cannot be written; nothing else goes wrong. -/
  total : parts.data = .error .unencodable ∨ ∃ data, parts.data = .ok data
  /-- A time cannot be written exactly if the clock stands before 1970, or if the second after the one
  of the clock comes after the last date of the calendar. -/
  refused_iff : parts.data = .error .unencodable ↔
    parts.now.nanoseconds < 0 ∨ (Calendar.Date.last.seconds : Int) < parts.now.wholeSecond + 1
  /-- **The window is one second long**, wherever in its second the clock stands. -/
  window : ∀ data, parts.data = .ok data → parts.IsWindow data

variable {parts : ResponseParts}

theorem exists_later {time : Der.Time} (h : Der.Time.ofInstant? parts.now = some time) :
    ∃ later, parts.now.plus? responseLifetime = some later := by
  have hsecond := Der.Time.ofInstant?_eq_some_iff.1 h
  have hle := time.seconds_le
  have hroom : ((Calendar.lastSecond : Nat) : Int) + responseLifetime ≤ Instant.last.wholeSecond := by
    decide
  exact Instant.exists_plus? (by omega)

/-- There is no data for a clock outside the calendar, nor in its last second. -/
theorem data_eq_error (h : parts.now.nanoseconds < 0
    ∨ (Calendar.lastSecond : Int) < parts.now.wholeSecond + responseLifetime) :
    parts.data = .error .unencodable := by
  unfold ResponseParts.data
  cases hthis : Der.Time.ofInstant? parts.now with
  | none => rfl
  | some time =>
      -- the start of the window can be written, so that it is its end that cannot
      obtain ⟨later, hlater⟩ := exists_later hthis
      have hneg : ¬ parts.now.nanoseconds < 0 := by
        intro hneg
        rw [Der.Time.ofInstant?_eq_none_iff.2 (.inl hneg)] at hthis
        cases hthis
      have hsum := Instant.wholeSecond_of_plus? hlater
      have hnext : Der.Time.ofInstant? later = none :=
        Der.Time.ofInstant?_eq_none_iff.2 (.inr (by omega))
      simp only [hlater, hnext]

/-- There is data for a clock in the calendar that has a second left in it. -/
theorem exists_data (h : ¬ (parts.now.nanoseconds < 0
    ∨ (Calendar.lastSecond : Int) < parts.now.wholeSecond + responseLifetime)) :
    ∃ data, parts.data = .ok data := by
  rw [not_or, ← Instant.wholeSecond_neg_iff] at h
  obtain ⟨hpos, hroom⟩ := h
  obtain ⟨n, hn⟩ := Int.eq_ofNat_of_zero_le (Int.not_lt.1 hpos)
  unfold responseLifetime at hroom
  exact ⟨_, data_eq (Instant.seconds?_eq_some_iff.2 hn.symm) (by omega)⟩

/-- **When there is no data**: only for want of a time that can be written. -/
theorem data_eq_error_iff : parts.data = .error .unencodable ↔
    parts.now.nanoseconds < 0
      ∨ (Calendar.lastSecond : Int) < parts.now.wholeSecond + responseLifetime := by
  constructor
  · intro h
    by_contra hin
    obtain ⟨data, hdata⟩ := exists_data hin
    rw [h] at hdata
    cases hdata
  · exact data_eq_error

/-- The answers have the two ends of the window, in the order of the statuses. -/
theorem isWindow_of_data {data : ResponseData} (h : parts.data = .ok data) :
    parts.IsWindow data := by
  obtain ⟨thisUpdate, nextUpdate, hthis, hnext, rfl⟩ := exists_window_of_data h
  refine
    { produced := Der.Time.ofInstant?_eq_some_iff.1 hthis
      statuses := ?_
      thisUpdate := ?_
      nextUpdate := ?_
      written := fun t _ => t.isWritten }
  · change (parts.statuses.map (SingleResponse.of thisUpdate nextUpdate)).map _ = parts.statuses
    rw [List.map_map]
    exact List.map_id' _
  · intro r hr
    obtain ⟨e, -, rfl⟩ := List.mem_map.1 hr
    rfl
  · intro r hr
    obtain ⟨e, -, rfl⟩ := List.mem_map.1 hr
    exact ⟨nextUpdate, rfl, hnext⟩

/-- **The window of every response is one second long**, and there is a response for every clock that
has this second in the calendar. -/
theorem keepsTime_data (parts : ResponseParts) : parts.KeepsTime where
  later _ h := exists_later h
  total := by
    by_cases h : parts.now.nanoseconds < 0
        ∨ (Calendar.lastSecond : Int) < parts.now.wholeSecond + responseLifetime
    · exact .inl (data_eq_error h)
    · exact .inr (exists_data h)
  refused_iff := by
    rw [Calendar.Date.seconds_last]
    exact data_eq_error_iff
  window _ h := isWindow_of_data h

end ResponseParts

end Ocsp

end RevocationLab
