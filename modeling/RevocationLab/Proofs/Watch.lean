/-
**Waiting for a value.**

Whether a wait is over does not depend on the receiver: not on what it has seen, nor on how often it
waited.  A receiver that starts to wait looks at the value in any case.  One that goes on with its wait
looks only if there is a new value; but the old one it has seen did not suit, and does not suit now.

Main definitions:

* `Watch.IsSound` — **what holds of every watched value**, for what suits its receivers.

Main results:

* `Watch.IsSound.enter`, `Watch.IsSound.waitFor`, and those next to them — every change keeps it;
* `Watch.IsSound.map_fst_resume?` — **going on with a wait is as good as starting one**.
-/

import RevocationLab.Watch

set_option autoImplicit false

namespace RevocationLab

namespace Watch

variable {α : Type} {w : Watch α} {suits : α → Bool}

/-! ### Receivers -/

/-- A receiver that is left was there before. -/
theorem get?_of_leave {n m : Nat} {r : Receiver}
    (h : Keyed.get? (w.leave n).receivers m = some r) : Keyed.get? w.receivers m = some r := by
  rw [leave, Keyed.get?_erase] at h
  split at h
  · cases h
  · exact h

/-- A receiver is the one that was marked, or was there before. -/
theorem get?_of_mark {n m : Nat} {marked r : Receiver}
    (h : Keyed.get? (w.mark n marked).receivers m = some r) :
    m = n ∧ r = marked ∨ Keyed.get? w.receivers m = some r := by
  rw [mark, Keyed.get?_put] at h
  split at h
  · next heq => exact Or.inl ⟨heq.symm, (Option.some.inj h).symm⟩
  · exact Or.inr h

/-! ### What holds of a watched value -/

/-- **What holds of every watched value**, for what suits its receivers. -/
structure IsSound (suits : α → Bool) (w : Watch α) : Prop where
  /-- Receivers are told apart. -/
  nodup : (Keyed.keys w.receivers).Nodup
  /-- The next receiver is a new one. -/
  fresh : ∀ n, (Keyed.get? w.receivers n).isSome = true → n < w.nextReceiver
  /-- Nobody has seen a later version. -/
  seen : ∀ n r, Keyed.get? w.receivers n = some r → r.seen ≤ w.version
  /-- Whoever has seen the value and still waits is not suited by it. -/
  refused : ∀ n r, Keyed.get? w.receivers n = some r → r.waiting = true → r.seen = w.version →
    suits w.value = false

namespace IsSound

/-- A value that nobody has watched yet. -/
theorem new (suits : α → Bool) (value : α) : IsSound suits { value := value } where
  nodup := List.nodup_nil
  fresh := by simp
  seen := by simp
  refused := by simp

/-- Nobody has seen a value that is new. -/
theorem send (h : IsSound suits w) (value : α) : IsSound suits (w.send value) where
  nodup := h.nodup
  fresh := h.fresh
  seen := fun n r hr => Nat.le_succ_of_le (h.seen n r hr)
  refused := by
    intro n r hr _ hseen
    have hle := h.seen n r hr
    change r.seen = w.version + 1 at hseen
    omega

theorem close (h : IsSound suits w) : IsSound suits w.close :=
  ⟨h.nodup, h.fresh, h.seen, h.refused⟩

theorem leave (h : IsSound suits w) (n : Nat) : IsSound suits (w.leave n) where
  nodup := Keyed.nodup_erase h.nodup n
  fresh := by
    intro m hm
    obtain ⟨r, hr⟩ := Option.isSome_iff_exists.1 hm
    exact h.fresh m (Option.isSome_iff_exists.2 ⟨r, get?_of_leave hr⟩)
  seen := fun m r hr => h.seen m r (get?_of_leave hr)
  refused := fun m r hr => h.refused m r (get?_of_leave hr)

/-- A receiver is marked with what it may have seen. -/
theorem mark (h : IsSound suits w) {n : Nat} (hn : n < w.nextReceiver) {r : Receiver}
    (hseen : r.seen ≤ w.version)
    (hrefused : r.waiting = true → r.seen = w.version → suits w.value = false) :
    IsSound suits (w.mark n r) where
  nodup := Keyed.nodup_put h.nodup n r
  fresh := by
    intro m hm
    obtain ⟨r', hr'⟩ := Option.isSome_iff_exists.1 hm
    rcases get?_of_mark hr' with ⟨rfl, -⟩ | hr'
    · exact hn
    · exact h.fresh m (Option.isSome_iff_exists.2 ⟨r', hr'⟩)
  seen := by
    intro m r' hr'
    rcases get?_of_mark hr' with ⟨-, rfl⟩ | hr'
    · exact hseen
    · exact h.seen m r' hr'
  refused := by
    intro m r' hr'
    rcases get?_of_mark hr' with ⟨-, rfl⟩ | hr'
    · exact hrefused
    · exact h.refused m r' hr'

/-- A receiver that enters does not wait. -/
theorem enter (h : IsSound suits w) {r : Receiver} (hseen : r.seen ≤ w.version)
    (hwaiting : r.waiting = false) : IsSound suits (w.enter r).2 := by
  have hroom : IsSound suits { w with nextReceiver := w.nextReceiver + 1 } :=
    ⟨h.nodup, fun n hn => Nat.lt_succ_of_lt (h.fresh n hn), h.seen, h.refused⟩
  exact hroom.mark (Nat.lt_succ_self w.nextReceiver) hseen (by simp [hwaiting])

/-- Whoever goes on waiting after a look is not suited by the value. -/
theorem waitFor (h : IsSound suits w) {n : Nat} {wait : Wait} {w' : Watch α}
    (hw : w.waitFor? suits n = some (wait, w')) : IsSound suits w' := by
  obtain ⟨r, hr, heq⟩ := Option.map_eq_some_iff.1 hw
  cases heq
  refine h.mark (h.fresh n (by rw [hr]; rfl)) (Nat.le_refl _) ?_
  intro hpending _
  have hlook := of_decide_eq_true hpending
  unfold look at hlook
  split at hlook
  · cases hlook
  · next hsuits => exact Bool.eq_false_iff.2 hsuits

theorem resume (h : IsSound suits w) {n : Nat} {wait : Wait} {w' : Watch α}
    (hw : w.resume? suits n = some (wait, w')) : IsSound suits w' := by
  obtain ⟨r, hr, hw⟩ := Option.bind_eq_some_iff.1 hw
  split at hw
  · split at hw
    · cases hw
      exact h.mark (h.fresh n (by rw [hr]; rfl)) (h.seen n r hr) (by simp)
    · cases hw
      exact h
  · exact h.waitFor hw

end IsSound

/-! ### How a wait stands -/

/-- A receiver that starts to wait looks at the value, whatever it has seen. -/
theorem map_fst_waitFor? (w : Watch α) (suits : α → Bool) (n : Nat) :
    (w.waitFor? suits n).map Prod.fst
      = if (Keyed.get? w.receivers n).isSome then some (w.look suits) else none := by
  unfold waitFor?
  cases Keyed.get? w.receivers n <;> rfl

/-- **Going on with a wait is as good as starting one.** -/
theorem IsSound.map_fst_resume? (h : IsSound suits w) (n : Nat) :
    (w.resume? suits n).map Prod.fst = (w.waitFor? suits n).map Prod.fst := by
  rw [map_fst_waitFor?]
  unfold resume?
  cases hr : Keyed.get? w.receivers n with
  | none => rfl
  | some r =>
      simp only [Option.bind_some, Option.isSome_some, if_true]
      split
      · next hwaits =>
          -- the value has been looked at before, and did not suit
          rw [Bool.and_eq_true, beq_iff_eq] at hwaits
          have hsuits := h.refused n r hr hwaits.1 hwaits.2
          unfold look
          rw [hsuits]
          cases w.closed <;> rfl
      · rw [map_fst_waitFor?, hr]
        rfl

/-! ### What a wait leaves behind -/

/-- What a wait can change: a receiver that is there has seen more, or has stopped to wait. -/
inductive Waited (w : Watch α) (n : Nat) : Watch α → Prop
  | same : Waited w n w
  | marked (r : Receiver) (hn : (Keyed.get? w.receivers n).isSome = true) : Waited w n (w.mark n r)

theorem waited_of_waitFor? {n : Nat} {wait : Wait} {w' : Watch α}
    (h : w.waitFor? suits n = some (wait, w')) : Waited w n w' := by
  obtain ⟨r, hr, heq⟩ := Option.map_eq_some_iff.1 h
  cases heq
  exact .marked _ (by rw [hr]; rfl)

theorem waited_of_resume? {n : Nat} {wait : Wait} {w' : Watch α}
    (h : w.resume? suits n = some (wait, w')) : Waited w n w' := by
  obtain ⟨r, hr, h⟩ := Option.bind_eq_some_iff.1 h
  split at h
  · split at h
    · cases h
      exact .marked _ (by rw [hr]; rfl)
    · cases h
      exact .same
  · exact waited_of_waitFor? h

end Watch

end RevocationLab
