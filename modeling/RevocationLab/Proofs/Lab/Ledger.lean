/-
**What the ledgers hold.**

The ledger of an authority holds the serial numbers that it issued, each with its last revocation if
there was one.  This is kept by everything that an event can do, as long as no serial number is drawn
twice for one authority: a number that is issued is a new one, so that nothing was revoked under it.

Main definitions:

* `Lab.lastStanding` — the standing after some revocations;
* `Lab.Ledgers` — **what the ledgers hold, by what was done**.

Main results:

* `Lab.Ledgers.add`, `Lab.Ledgers.issued`, `Lab.Ledgers.revoked` — what each change keeps;
* `Lab.Effect.ledgers` — every event keeps it;
* `Lab.History.ledgers_run` — **the ledgers of every history**.
-/

import RevocationLab.Proofs.Lab.History

set_option autoImplicit false

namespace RevocationLab

open Authority X509

namespace Lab

/-! ### What was done -/

theorem issuedAt_append (place : Nat) (deeds new : List Deed) :
    issuedAt place (deeds ++ new) = issuedAt place deeds ++ issuedAt place new :=
  List.filterMap_append

theorem revocations_append (place : Nat) (serial : SerialNumber) (deeds new : List Deed) :
    revocations place serial (deeds ++ new)
      = revocations place serial deeds ++ revocations place serial new :=
  List.filterMap_append

theorem issuedAt_issued (place other : Nat) (serial : SerialNumber) :
    issuedAt place [.issued other serial] = if other = place then [serial] else [] := by
  unfold issuedAt
  split_ifs with h <;> simp [h]

theorem issuedAt_revoked (place other : Nat) (serial : SerialNumber) (moment : Instant)
    (reason : Option Ocsp.Reason) : issuedAt place [.revoked other serial moment reason] = [] := rfl

theorem revocations_issued (place other : Nat) (serial s : SerialNumber) :
    revocations place serial [.issued other s] = [] := rfl

theorem revocations_revoked (place other : Nat) (serial s : SerialNumber) (moment : Instant)
    (reason : Option Ocsp.Reason) :
    revocations place serial [.revoked other s moment reason]
      = if other = place ∧ s = serial then [(moment, reason)] else [] := by
  unfold revocations
  split_ifs with h <;> simp [h]

/-- What was issued at a place is a deed of that place. -/
theorem exists_of_mem_issuedAt {place : Nat} {serial : SerialNumber} {deeds : List Deed}
    (h : serial ∈ issuedAt place deeds) : ∃ d ∈ deeds, d.place = place := by
  rw [issuedAt, List.mem_filterMap] at h
  obtain ⟨d, hd, h⟩ := h
  refine ⟨d, hd, ?_⟩
  cases d with
  | issued other s =>
      simp only [Option.ite_none_right_eq_some] at h
      exact h.1
  | revoked other s moment reason => cases h

/-! ### What the ledgers hold -/

/-- The standing after some revocations, of which the last one counts. -/
def lastStanding (revocations : List (Instant × Option Ocsp.Reason)) : Standing :=
  match revocations.getLast? with
  | none => .valid
  | some (moment, reason) => .revoked moment reason

/-- **What the ledgers hold, by what was done.** -/
structure Ledgers (r : Registry) (deeds : List Deed) : Prop where
  /-- Every deed is that of an authority. -/
  placed : ∀ d ∈ deeds, d.place < r.size
  /-- What was revoked had been issued. -/
  known : ∀ place serial, revocations place serial deeds ≠ [] → serial ∈ issuedAt place deeds
  /-- A ledger holds what was issued, with the last revocation. -/
  ledger : ∀ place a, r.get? place = some a → ∀ serial, Keyed.get? a.issued serial =
    if serial ∈ issuedAt place deeds then some (lastStanding (revocations place serial deeds))
    else none
  /-- Serial numbers that were issued are read back. -/
  readable : ∀ place, ∀ serial ∈ issuedAt place deeds, serial.isReadable = true
  /-- Revocations have a time in the calendar. -/
  moments : ∀ place serial, ∀ p ∈ revocations place serial deeds,
    ∃ time, Der.Time.ofInstant? p.1 = some time

namespace Ledgers

variable {r : Registry} {deeds : List Deed}

theorem empty : Ledgers {} [] where
  placed := by simp
  known := fun _ _ h => absurd rfl h
  ledger := by
    intro place a h
    cases h
  readable := by
    intro place serial h
    cases h
  moments := by
    intro place serial p h
    cases h

theorem not_mem_issuedAt (h : Ledgers r deeds) {place : Nat} (hplace : r.size ≤ place)
    (serial : SerialNumber) : serial ∉ issuedAt place deeds := by
  intro hmem
  obtain ⟨d, hd, rfl⟩ := exists_of_mem_issuedAt hmem
  exact absurd (h.placed d hd) (Nat.not_lt.2 hplace)

/-- An authority that is added has issued nothing. -/
theorem add (h : Ledgers r deeds) {a : Authority} (hnew : a.issued = []) :
    Ledgers (r.add a) deeds where
  placed := by
    intro d hd
    rw [Registry.size_add]
    exact Nat.lt_succ_of_lt (h.placed d hd)
  known := h.known
  ledger := by
    intro place b hb serial
    rw [Registry.get?_add] at hb
    split at hb
    · next heq =>
        cases hb
        subst heq
        rw [hnew, if_neg (h.not_mem_issuedAt (Nat.le_refl _) serial)]
        rfl
    · exact h.ledger place b hb serial
  readable := h.readable
  moments := h.moments

theorem get?_record {a : Authority} (serial s : SerialNumber) (standing : Standing) :
    Keyed.get? (a.record serial standing).issued s
      = if serial = s then some standing else Keyed.get? a.issued s :=
  Keyed.get?_put a.issued serial s standing

theorem placed_record (h : Ledgers r deeds) (d : Deed) (hd : d.place < r.size) {place : Nat}
    (serial : SerialNumber) (standing : Standing) :
    ∀ d' ∈ deeds ++ [d], d'.place < (r.record place serial standing).size := by
  intro d' hd'
  rw [Registry.size_record]
  rcases List.mem_append.1 hd' with hd' | hd'
  · exact h.placed d' hd'
  · obtain rfl := List.mem_singleton.1 hd'
    exact hd

/-- What a ledger holds was issued. -/
theorem mem_issuedAt (h : Ledgers r deeds) {place : Nat} {serial : SerialNumber} {a : Authority}
    (ha : r.get? place = some a) (hissued : (Keyed.get? a.issued serial).isSome = true) :
    serial ∈ issuedAt place deeds := by
  by_contra hmem
  rw [h.ledger place a ha serial, if_neg hmem] at hissued
  cases hissued

/-- **A serial number that is issued is a new one**, and valid. -/
theorem issued (h : Ledgers r deeds) {place : Nat} {serial : SerialNumber} (hplace : place < r.size)
    (hserial : serial.isReadable = true)
    (hnodup : (issuedAt place (deeds ++ [.issued place serial])).Nodup) :
    Ledgers (r.record place serial .valid) (deeds ++ [.issued place serial]) where
  placed := h.placed_record (.issued place serial) hplace serial .valid
  known := by
    intro other s hs
    rw [revocations_append, revocations_issued, List.append_nil] at hs
    rw [issuedAt_append]
    exact List.mem_append_left _ (h.known other s hs)
  ledger := by
    intro other b hb s
    rw [issuedAt_append, issuedAt_issued, if_pos rfl] at hnodup
    have hnew : serial ∉ issuedAt place deeds := by
      intro hmem
      exact (List.nodup_append.1 hnodup).2.2 serial hmem serial List.mem_cons_self rfl
    rw [Registry.get?_record, Option.map_eq_some_iff] at hb
    obtain ⟨a, ha, rfl⟩ := hb
    have hledger := h.ledger other a ha s
    rw [issuedAt_append, issuedAt_issued, revocations_append, revocations_issued, List.append_nil]
    by_cases hother : place = other
    · subst hother
      rw [if_pos rfl, if_pos rfl, get?_record]
      by_cases hs : serial = s
      · -- nothing was revoked under a number that was not issued before
        subst hs
        have hnone : revocations place serial deeds = [] := by
          by_contra hne
          exact hnew (h.known place serial hne)
        rw [if_pos rfl, hnone, if_pos (by simp)]
        rfl
      · have hiff : s ∈ issuedAt place deeds ++ [serial] ↔ s ∈ issuedAt place deeds := by
          simp [Ne.symm hs]
        rw [if_neg hs, hledger]
        simp only [hiff]
    · rw [if_neg hother, if_neg hother, List.append_nil]
      exact hledger
  readable := by
    intro other s hs
    rw [issuedAt_append, issuedAt_issued] at hs
    rcases List.mem_append.1 hs with hs | hs
    · exact h.readable other s hs
    · split at hs
      · obtain rfl := List.mem_singleton.1 hs
        exact hserial
      · cases hs
  moments := by
    intro other s p hp
    rw [revocations_append, revocations_issued, List.append_nil] at hp
    exact h.moments other s p hp

/-- **The last revocation of a serial number counts.** -/
theorem revoked (h : Ledgers r deeds) {place : Nat} {serial : SerialNumber} {a : Authority}
    (ha : r.get? place = some a) (hissued : (Keyed.get? a.issued serial).isSome = true)
    {now : Instant} (hnow : ∃ time, Der.Time.ofInstant? now = some time)
    (reason : Option Ocsp.Reason) :
    Ledgers (r.record place serial (.revoked now reason))
      (deeds ++ [.revoked place serial now reason]) where
  placed := h.placed_record (.revoked place serial now reason) (Registry.lt_size_of_get? ha) serial _
  known := by
    intro other s hs
    rw [issuedAt_append, issuedAt_revoked, List.append_nil]
    rw [revocations_append, revocations_revoked] at hs
    split at hs
    · next heq =>
        obtain ⟨rfl, rfl⟩ := heq
        exact h.mem_issuedAt ha hissued
    · rw [List.append_nil] at hs
      exact h.known other s hs
  ledger := by
    intro other b hb s
    rw [Registry.get?_record, Option.map_eq_some_iff] at hb
    obtain ⟨b, hb, rfl⟩ := hb
    have hledger := h.ledger other b hb s
    rw [issuedAt_append, issuedAt_revoked, List.append_nil, revocations_append, revocations_revoked]
    by_cases hother : place = other
    · subst hother
      rw [if_pos rfl, get?_record]
      by_cases hs : serial = s
      · subst hs
        rw [if_pos rfl, if_pos (h.mem_issuedAt ha hissued), if_pos ⟨rfl, rfl⟩]
        simp [lastStanding]
      · simp only [hs, and_false, if_false, List.append_nil]
        exact hledger
    · simp only [hother, false_and, if_false, List.append_nil]
      exact hledger
  readable := by
    intro other s hs
    rw [issuedAt_append, issuedAt_revoked, List.append_nil] at hs
    exact h.readable other s hs
  moments := by
    intro other s p hp
    rw [revocations_append, revocations_revoked] at hp
    rcases List.mem_append.1 hp with hp | hp
    · exact h.moments other s p hp
    · split at hp
      · obtain rfl := List.mem_singleton.1 hp
        exact hnow
      · cases hp

end Ledgers

/-- **Every event keeps what the ledgers hold**, if it draws no serial number again. -/
theorem Effect.ledgers {r r' : Registry} {e : Event} {deeds new : List Deed}
    (h : Effect r e r' new) (hr : Ledgers r deeds)
    (hclock : ∃ time, Der.Time.ofInstant? e.now = some time)
    (hnodup : ∀ place, (issuedAt place (deeds ++ new)).Nodup) : Ledgers r' (deeds ++ new) := by
  cases h with
  | nothing =>
      rw [List.append_nil]
      exact hr
  | added a _ hnew =>
      rw [List.append_nil]
      exact hr.add hnew
  | issued place serial hplace hserial _ => exact hr.issued hplace hserial (hnodup place)
  | certified place serial a hplace hserial _ _ hnew =>
      exact (hr.issued hplace hserial (hnodup place)).add hnew
  | revoked place serial reason a ha hissued _ => exact hr.revoked ha hissued hclock reason

namespace History

theorem deeds_append_singleton (es : List Event) (e : Event) :
    (run (es ++ [e])).deeds = (run es).deeds ++ ((run es).lab.perform e).2 := by
  rw [run_append_singleton]
  rfl

/-- **The ledgers of every history**, in which the clock stays in the calendar and no serial number is
drawn twice for one authority. -/
theorem ledgers_run {es : List Event}
    (hclock : ∀ e ∈ es, ∃ time, Der.Time.ofInstant? e.now = some time)
    (hnodup : ∀ place, (issuedAt place (run es).deeds).Nodup) :
    Ledgers (run es).lab.authorities (run es).deeds := by
  -- on the last event: a prefix of a history without repetitions has none either
  induction es using List.reverseRecOn with
  | nil => exact Ledgers.empty
  | append_singleton es e ih =>
      have hprefix : ∀ place, (issuedAt place (run es).deeds).Nodup := by
        intro place
        have hall := hnodup place
        rw [deeds_append_singleton, issuedAt_append] at hall
        exact (List.nodup_append.1 hall).1
      have hbefore := ih (fun e he => hclock e (List.mem_append_left _ he)) hprefix
      rw [run_append_singleton]
      rw [run_append_singleton] at hnodup
      exact (effect_perform (isSound_run es) e).ledgers hbefore
        (hclock e (List.mem_append_right _ List.mem_cons_self)) hnodup

end History

end Lab

end RevocationLab
