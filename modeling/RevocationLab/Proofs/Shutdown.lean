/-
**Shutting down, in any order.**

Signals are made, copied, waited for and dropped while the coordinator triggers the shutdown or goes
away, in any order.  What comes of a call is settled by what was called before: the first trigger is the
one that counts, and a wait is over from the trigger or the end of the coordinator on, whichever comes
first, for every signal alike.  When a signal was made, from which other one, and how often it was
waited for make no difference.

Main definitions:

* `Shutdown.Call`, `Shutdown.Answer`, `Shutdown.step?`, `Shutdown.run?` — **calls and their answers**;
* `Shutdown.created`, `Shutdown.Live`, `Shutdown.Released` — what a history of calls says;
* `Shutdown.expected?` — **the answer to a call, by the calls before it**.

Main results:

* `Shutdown.Inv.step` — every call keeps the coordinator and its history together;
* `Shutdown.answer_of_run` — **every call is answered as its history says**.
-/

import Mathlib.Data.List.Induction
import RevocationLab.Proofs.Watch
import RevocationLab.Shutdown

set_option autoImplicit false

namespace RevocationLab

namespace Shutdown

/-! ### Calls -/

/-- What can be called: on the coordinator, or on a signal. -/
inductive Call where
  | subscribe
  | trigger
  | isTriggered
  | receiverCount
  /-- The coordinator goes away. -/
  | drop
  | clone (signal : Nat)
  | unsubscribe (signal : Nat)
  /-- A wait for a signal starts. -/
  | recv (signal : Nat)
  /-- A wait for a signal goes on. -/
  | poll (signal : Nat)
  deriving DecidableEq, Repr

/-- What is answered. -/
inductive Answer where
  | signal (n : Nat)
  | flag (b : Bool)
  | count (n : Nat)
  | ready
  | pending
  | done
  deriving DecidableEq, Repr

/-- The answer to a wait that is over, or not. -/
def Answer.ofWait (ended : Bool) : Answer := if ended then .ready else .pending

/-- The answer to a call and the coordinator after it, if the call can be made: a coordinator that is
gone cannot be called, nor can a signal that was never made or is dropped. -/
def step? (s : Shutdown) : Call → Option (Answer × Shutdown)
  | .subscribe => if s.dropped then none else some (.signal s.subscribe.1, s.subscribe.2)
  | .trigger => if s.dropped then none else some (.flag s.trigger.1, s.trigger.2)
  | .isTriggered => if s.dropped then none else some (.flag s.triggered, s)
  | .receiverCount => if s.dropped then none else some (.count s.receivers, s)
  | .drop => if s.dropped then none else some (.done, s.drop)
  | .clone signal => (s.clone? signal).map fun (copy, s) => (.signal copy, s)
  | .unsubscribe signal =>
      (Keyed.get? s.channel.receivers signal).map fun _ => (.done, s.unsubscribe signal)
  | .recv signal => (s.recv? signal).map fun (ended, s) => (.ofWait ended, s)
  | .poll signal => (s.poll? signal).map fun (ended, s) => (.ofWait ended, s)

/-- A new coordinator after some calls, if each of them can be made. -/
def run? (calls : List Call) : Option Shutdown :=
  calls.foldlM (fun s call => (s.step? call).map Prod.snd) {}

theorem run?_append (calls : List Call) (call : Call) :
    run? (calls ++ [call]) = (run? calls).bind fun s => (s.step? call).map Prod.snd := by
  simp [run?, List.foldlM_append]

/-! ### Histories -/

/-- Whether a call makes a signal. -/
def Call.creates : Call → Bool
  | subscribe | clone _ => true
  | _ => false

/-- Whether a call drops a signal. -/
def Call.drops : Call → Bool
  | unsubscribe _ => true
  | _ => false

/-- How many signals were made; they are numbered in this order. -/
def created (calls : List Call) : Nat := calls.countP Call.creates

/-- A signal was made, and not dropped. -/
def Live (calls : List Call) (signal : Nat) : Prop :=
  signal < created calls ∧ .unsubscribe signal ∉ calls

instance (calls : List Call) (signal : Nat) : Decidable (Live calls signal) :=
  inferInstanceAs (Decidable (_ ∧ _))

/-- The signals that were made and not dropped. -/
def liveSignals (calls : List Call) : List Nat :=
  (List.range (created calls)).filter fun signal => Live calls signal

/-- The shutdown was triggered, or the coordinator is gone. -/
def Released (calls : List Call) : Prop := .trigger ∈ calls ∨ .drop ∈ calls

instance (calls : List Call) : Decidable (Released calls) :=
  inferInstanceAs (Decidable (_ ∨ _))

/-- **The answer to a call, by the calls before it**; there is none if the call cannot be made. -/
def expected? (calls : List Call) : Call → Option Answer
  | .subscribe => if .drop ∈ calls then none else some (.signal (created calls))
  | .trigger => if .drop ∈ calls then none else some (.flag (.trigger ∉ calls))
  | .isTriggered => if .drop ∈ calls then none else some (.flag (.trigger ∈ calls))
  | .receiverCount => if .drop ∈ calls then none else some (.count (liveSignals calls).length)
  | .drop => if .drop ∈ calls then none else some .done
  | .clone signal => if Live calls signal then some (.signal (created calls)) else none
  | .unsubscribe signal => if Live calls signal then some .done else none
  | .recv signal | .poll signal =>
      if Live calls signal then some (if Released calls then .ready else .pending) else none

/-! ### The invariant -/

/-- A coordinator agrees with a history of calls. -/
structure Inv (calls : List Call) (s : Shutdown) : Prop where
  triggered : s.triggered = true ↔ .trigger ∈ calls
  dropped : s.dropped = true ↔ .drop ∈ calls
  /-- The channel says whether the shutdown was triggered. -/
  value : s.channel.value = s.triggered
  sound : s.channel.IsSound id
  /-- The next signal has the next number. -/
  next : s.channel.nextReceiver = created calls
  live : ∀ n, (Keyed.get? s.channel.receivers n).isSome = true ↔ Live calls n
  /-- What was dropped had been made. -/
  known : ∀ n, .unsubscribe n ∈ calls → n < created calls

namespace Inv

variable {calls : List Call} {s : Shutdown}

theorem new : Inv [] {} where
  triggered := by simp
  dropped := by simp [Shutdown.dropped]
  value := rfl
  sound := .new id false
  next := rfl
  live := by simp [Live, created]
  known := by simp

/-- A wait that looks at the channel is over exactly if the signals are released. -/
theorem isOver_look (h : Inv calls s) : isOver (s.channel.look id) = decide (Released calls) := by
  have hready : isOver (s.channel.look id) = s.isReady := by
    unfold Watch.look isReady Shutdown.dropped
    rw [h.value]
    cases s.triggered <;> cases s.channel.closed <;> rfl
  have hreleased : s.isReady = true ↔ Released calls := by
    rw [isReady, Bool.or_eq_true, h.triggered, h.dropped, Released]
  rw [hready, Bool.eq_iff_iff, hreleased, decide_eq_true_iff]

/-- **The receivers are the live signals.** -/
theorem receivers_eq (h : Inv calls s) : s.receivers = (liveSignals calls).length := by
  have hperm : (Keyed.keys s.channel.receivers).Perm (liveSignals calls) := by
    refine (List.perm_ext_iff_of_nodup h.sound.nodup (List.nodup_range.filter _)).2 fun n => ?_
    rw [Keyed.mem_keys_iff, h.live, List.mem_filter, List.mem_range, decide_eq_true_iff]
    exact ⟨fun hn => ⟨hn.1, hn⟩, And.right⟩
  rw [← hperm.length_eq, Keyed.keys, List.length_map, receivers]

/-! ### Answers -/

/-- What can be called while there is a coordinator. -/
theorem map_fst_coordinator {answer : Answer} {s' : Shutdown} (h : Inv calls s) :
    (if s.dropped then none else some (answer, s')).map Prod.fst
      = if Call.drop ∈ calls then none else some answer := by
  simp only [← h.dropped]
  split <;> rfl

/-- What can be called on a signal. -/
theorem map_signal {α : Type} (h : Inv calls s) (n : Nat) (a : α) :
    (Keyed.get? s.channel.receivers n).map (fun _ => a) = if Live calls n then some a else none := by
  simp only [← h.live]
  cases Keyed.get? s.channel.receivers n <;> rfl

/-- A wait that starts is over exactly if the signals are released. -/
theorem map_fst_recv? (h : Inv calls s) (n : Nat) :
    (s.recv? n).map Prod.fst = if Live calls n then some (decide (Released calls)) else none := by
  have hwait : (s.recv? n).map Prod.fst = ((s.channel.waitFor? id n).map Prod.fst).map isOver := by
    rw [recv?, Option.map_map, Option.map_map]
    rfl
  rw [hwait, Watch.map_fst_waitFor?]
  simp only [h.live]
  split
  · rw [Option.map_some, h.isOver_look]
  · rfl

/-- Going on with a wait is as good as starting one. -/
theorem map_fst_poll? (h : Inv calls s) (n : Nat) :
    (s.poll? n).map Prod.fst = (s.recv? n).map Prod.fst := by
  have hwait := congrArg (Option.map isOver) (h.sound.map_fst_resume? n)
  rw [poll?, recv?, Option.map_map, Option.map_map]
  rwa [Option.map_map, Option.map_map] at hwait

/-- The answer to a wait, from whether it is over. -/
theorem map_ofWait (calls : List Call) (n : Nat) :
    (if Live calls n then some (decide (Released calls)) else none).map Answer.ofWait
      = if Live calls n then some (if Released calls then .ready else .pending) else none := by
  split
  · simp only [Option.map_some, Answer.ofWait, decide_eq_true_eq]
  · rfl

/-- **A call is answered as its history says.** -/
theorem map_fst_step? (h : Inv calls s) (call : Call) :
    (s.step? call).map Prod.fst = expected? calls call := by
  cases call with
  | subscribe =>
      rw [step?, h.map_fst_coordinator, expected?, ← h.next]
      rfl
  | trigger =>
      have hfirst : s.trigger.1 = decide (Call.trigger ∉ calls) := by
        rw [Bool.eq_iff_iff, decide_eq_true_iff, ← h.triggered]
        unfold trigger
        cases s.triggered <;> simp
      rw [step?, h.map_fst_coordinator, expected?, hfirst]
  | isTriggered =>
      have htriggered : s.triggered = decide (Call.trigger ∈ calls) := by
        rw [Bool.eq_iff_iff, decide_eq_true_iff]
        exact h.triggered
      rw [step?, h.map_fst_coordinator, expected?, htriggered]
  | receiverCount =>
      rw [step?, h.map_fst_coordinator, expected?, h.receivers_eq]
  | drop => rw [step?, h.map_fst_coordinator, expected?]
  | clone n =>
      have hmade : (s.step? (.clone n)).map Prod.fst
          = (Keyed.get? s.channel.receivers n).map fun _ => Answer.signal s.channel.nextReceiver := by
        simp only [step?, clone?, Watch.clone?, Option.map_map]
        rfl
      rw [hmade, h.map_signal, h.next, expected?]
  | unsubscribe n =>
      have hdone : (s.step? (.unsubscribe n)).map Prod.fst
          = (Keyed.get? s.channel.receivers n).map fun _ => Answer.done := by
        simp only [step?, Option.map_map]
        rfl
      rw [hdone, h.map_signal, expected?]
  | recv n =>
      have hanswer : (s.step? (.recv n)).map Prod.fst
          = ((s.recv? n).map Prod.fst).map Answer.ofWait := by
        rw [step?, Option.map_map, Option.map_map]
        rfl
      rw [hanswer, h.map_fst_recv?, map_ofWait, expected?]
  | poll n =>
      have hanswer : (s.step? (.poll n)).map Prod.fst
          = ((s.poll? n).map Prod.fst).map Answer.ofWait := by
        rw [step?, Option.map_map, Option.map_map]
        rfl
      rw [hanswer, h.map_fst_poll?, h.map_fst_recv?, map_ofWait, expected?]

/-! ### Steps -/

theorem created_append (calls : List Call) (call : Call) :
    created (calls ++ [call]) = created calls + if call.creates then 1 else 0 := by
  simp [created, List.countP_append, List.countP_singleton]

/-- A call that neither makes nor drops a signal leaves the live ones as they are. -/
theorem live_append_of_quiet (calls : List Call) {call : Call} (hcreates : call.creates = false)
    (hdrops : call.drops = false) (n : Nat) : Live (calls ++ [call]) n ↔ Live calls n := by
  have hne : Call.unsubscribe n ≠ call := by
    rintro rfl
    cases hdrops
  simp [Live, created_append, hcreates, hne]

/-- A call that leaves the coordinator and the set of signals as they are keeps the invariant. -/
theorem keep (h : Inv calls s) {call : Call} (hcreates : call.creates = false)
    (hdrops : call.drops = false) (htrigger : Call.trigger ≠ call) (hdrop : Call.drop ≠ call)
    {channel : Watch Bool} (hwaited : ∃ n, s.channel.Waited n channel)
    (hsound : channel.IsSound id) : Inv (calls ++ [call]) { s with channel } := by
  obtain ⟨n, hwaited⟩ := hwaited
  have hlive := live_append_of_quiet calls hcreates hdrops
  have hcreated : created (calls ++ [call]) = created calls := by simp [created_append, hcreates]
  have hknown : ∀ n, Call.unsubscribe n ∈ calls ++ [call] → n < created (calls ++ [call]) := by
    intro n hn
    rw [hcreated]
    rcases List.mem_append.1 hn with hn | hn
    · exact h.known n hn
    · rw [← List.mem_singleton.1 hn] at hdrops
      cases hdrops
  have htriggered : Call.trigger ∈ calls ++ [call] ↔ Call.trigger ∈ calls := by simp [htrigger]
  have hdropped : Call.drop ∈ calls ++ [call] ↔ Call.drop ∈ calls := by simp [hdrop]
  cases hwaited with
  | same =>
      exact ⟨h.triggered.trans htriggered.symm, h.dropped.trans hdropped.symm, h.value, hsound,
        h.next.trans hcreated.symm, fun m => (h.live m).trans (hlive m).symm, hknown⟩
  | marked r hn =>
      refine ⟨h.triggered.trans htriggered.symm, h.dropped.trans hdropped.symm, h.value, hsound,
        h.next.trans hcreated.symm, fun m => ?_, hknown⟩
      rw [hlive, ← h.live, Watch.mark, Keyed.get?_put]
      split
      · next heq => simp [← heq, hn]
      · rfl

/-- A signal that is made is a new one. -/
theorem make (h : Inv calls s) {call : Call} (hcreates : call.creates = true) {r : Watch.Receiver}
    (hseen : r.seen ≤ s.channel.version) (hwaiting : r.waiting = false) :
    Inv (calls ++ [call]) { s with channel := (s.channel.enter r).2 } := by
  have hcall : call.drops = false ∧ Call.trigger ≠ call ∧ Call.drop ≠ call
      ∧ ∀ n, Call.unsubscribe n ≠ call := by
    cases call <;> simp_all [Call.creates, Call.drops]
  obtain ⟨hdrops, htrigger, hdrop, hne⟩ := hcall
  have hnew : (Keyed.get? s.channel.receivers s.channel.nextReceiver).isSome = false := by
    rw [Bool.eq_false_iff]
    intro hsome
    exact Nat.lt_irrefl _ (h.sound.fresh _ hsome)
  constructor
  case triggered => simpa [htrigger] using h.triggered
  case dropped => simpa [hdrop, Shutdown.dropped, Watch.enter] using h.dropped
  case value => exact h.value
  case sound => exact h.sound.enter hseen hwaiting
  case next => simp [created_append, hcreates, Watch.enter, h.next]
  case live =>
    intro n
    have hlive : Live (calls ++ [call]) n ↔ Live calls n ∨ n = created calls := by
      -- nobody can have dropped the signal before it was made
      have hnot : ∀ m, created calls ≤ m → Call.unsubscribe m ∉ calls := by
        intro m hm hmem
        exact absurd (h.known m hmem) (Nat.not_lt.2 hm)
      simp only [Live, created_append, hcreates, if_true, List.mem_append, List.mem_singleton, hne,
        or_false, Nat.lt_succ_iff_lt_or_eq]
      constructor
      · rintro ⟨hlt | rfl, hmem⟩
        · exact Or.inl ⟨hlt, hmem⟩
        · exact Or.inr rfl
      · rintro (⟨hlt, hmem⟩ | rfl)
        · exact ⟨Or.inl hlt, hmem⟩
        · exact ⟨Or.inr rfl, hnot _ (Nat.le_refl _)⟩
    rw [hlive, ← h.live, ← h.next, Watch.enter, Keyed.get?_put]
    split
    · next heq => simp [heq]
    · next hother => simp [Ne.symm hother]
  case known =>
    intro n hn
    have hmem : Call.unsubscribe n ∈ calls := by simpa [hne] using hn
    have hlt := h.known n hmem
    rw [created_append]
    omega

/-- A signal that is dropped was live. -/
theorem unsubscribe (h : Inv calls s) {n : Nat}
    (hn : (Keyed.get? s.channel.receivers n).isSome = true) :
    Inv (calls ++ [.unsubscribe n]) (s.unsubscribe n) where
  triggered := by simpa [Shutdown.unsubscribe] using h.triggered
  dropped := by simpa [Shutdown.unsubscribe, Shutdown.dropped, Watch.leave] using h.dropped
  value := h.value
  sound := h.sound.leave n
  next := by
    rw [created_append]
    exact h.next
  live := by
    intro m
    have hlive : Live (calls ++ [.unsubscribe n]) m ↔ Live calls m ∧ m ≠ n := by
      simp only [Live, created_append, Call.creates, Bool.false_eq_true, if_false, Nat.add_zero,
        List.mem_append, List.mem_singleton, Call.unsubscribe.injEq, not_or, and_assoc, ne_eq]
    rw [hlive, ← h.live, Shutdown.unsubscribe, Watch.leave, Keyed.get?_erase]
    split
    · next heq => simp [heq]
    · next hother => simp [Ne.symm hother]
  known := by
    intro m hm
    rw [created_append]
    rcases List.mem_append.1 hm with hm | hm
    · exact Nat.lt_add_right _ (h.known m hm)
    · cases List.mem_singleton.1 hm
      exact Nat.lt_add_right _ ((h.live n).1 hn).1

/-- The first trigger sends, and later ones do nothing. -/
theorem trigger (h : Inv calls s) : Inv (calls ++ [.trigger]) s.trigger.2 := by
  have hlive : ∀ n, Live (calls ++ [.trigger]) n ↔ Live calls n :=
    live_append_of_quiet calls rfl rfl
  have hknown : ∀ n, Call.unsubscribe n ∈ calls ++ [.trigger] → n < created (calls ++ [.trigger]) := by
    intro n hn
    rw [created_append]
    exact h.known n (by simpa using hn)
  have hdropped : s.dropped = true ↔ Call.drop ∈ calls ++ [.trigger] := by simpa using h.dropped
  have hnext : s.channel.nextReceiver = created (calls ++ [.trigger]) := by
    rw [created_append]
    exact h.next
  unfold Shutdown.trigger
  split
  · next htriggered =>
      exact ⟨by simpa using htriggered, hdropped, h.value, h.sound, hnext,
        fun n => (h.live n).trans (hlive n).symm, hknown⟩
  · exact ⟨by simp, hdropped, rfl, h.sound.send true, hnext,
      fun n => (h.live n).trans (hlive n).symm, hknown⟩

/-- A coordinator that goes away leaves its signals behind. -/
theorem drop (h : Inv calls s) : Inv (calls ++ [.drop]) s.drop where
  triggered := by simpa [Shutdown.drop] using h.triggered
  dropped := by simp [Shutdown.drop, Shutdown.dropped, Watch.close]
  value := h.value
  sound := h.sound.close
  next := by
    rw [created_append]
    exact h.next
  live := fun n => (h.live n).trans (live_append_of_quiet calls rfl rfl n).symm
  known := by
    intro n hn
    rw [created_append]
    exact h.known n (by simpa using hn)

/-- **Every call keeps the coordinator and its history together.** -/
theorem step (h : Inv calls s) {call : Call} {answer : Answer} {s' : Shutdown}
    (hs : s.step? call = some (answer, s')) : Inv (calls ++ [call]) s' := by
  cases call with
  | subscribe =>
      obtain ⟨-, heq⟩ := Option.ite_none_left_eq_some.1 hs
      cases heq
      exact h.make rfl (Nat.le_refl _) rfl
  | trigger =>
      obtain ⟨-, heq⟩ := Option.ite_none_left_eq_some.1 hs
      cases heq
      exact h.trigger
  | isTriggered =>
      obtain ⟨-, heq⟩ := Option.ite_none_left_eq_some.1 hs
      cases heq
      exact h.keep rfl rfl (by simp) (by simp) ⟨0, .same⟩ h.sound
  | receiverCount =>
      obtain ⟨-, heq⟩ := Option.ite_none_left_eq_some.1 hs
      cases heq
      exact h.keep rfl rfl (by simp) (by simp) ⟨0, .same⟩ h.sound
  | drop =>
      obtain ⟨-, heq⟩ := Option.ite_none_left_eq_some.1 hs
      cases heq
      exact h.drop
  | clone n =>
      simp only [step?, clone?, Watch.clone?, Option.map_map, Option.map_eq_some_iff] at hs
      obtain ⟨r, hr, heq⟩ := hs
      cases heq
      exact h.make rfl (h.sound.seen n r hr) rfl
  | unsubscribe n =>
      obtain ⟨r, hr, heq⟩ := Option.map_eq_some_iff.1 hs
      cases heq
      exact h.unsubscribe (by rw [hr]; rfl)
  | recv n =>
      simp only [step?, recv?, Option.map_map, Option.map_eq_some_iff] at hs
      obtain ⟨⟨wait, channel⟩, hwait, heq⟩ := hs
      cases heq
      exact h.keep rfl rfl (by simp) (by simp) ⟨n, Watch.waited_of_waitFor? hwait⟩
        (h.sound.waitFor hwait)
  | poll n =>
      simp only [step?, poll?, Option.map_map, Option.map_eq_some_iff] at hs
      obtain ⟨⟨wait, channel⟩, hwait, heq⟩ := hs
      cases heq
      exact h.keep rfl rfl (by simp) (by simp) ⟨n, Watch.waited_of_resume? hwait⟩
        (h.sound.resume hwait)

/-- Every run agrees with its history. -/
theorem run {calls : List Call} {s : Shutdown} (hs : run? calls = some s) : Inv calls s := by
  -- on the last call, since the history grows at its end
  induction calls using List.reverseRecOn generalizing s with
  | nil =>
      cases hs
      exact new
  | append_singleton calls call ih =>
      rw [run?_append] at hs
      obtain ⟨t, ht, hstep⟩ := Option.bind_eq_some_iff.1 hs
      obtain ⟨⟨answer, s'⟩, hcall, rfl⟩ := Option.map_eq_some_iff.1 hstep
      exact (ih ht).step hcall

end Inv

/-- **Every call is answered as its history says.**  After any run, a call that can be made gets the
answer that the calls before it settle: the trigger is the first one or not, the shutdown is triggered or
not, the signals are those that were made and not dropped, and a wait for a live signal is over exactly if
the shutdown was triggered or the coordinator is gone.  The coordinator can be called until it is gone,
and a signal from when it is made until it is dropped. -/
theorem answer_of_run {calls : List Call} {s : Shutdown} (hrun : run? calls = some s) (call : Call) :
    (s.step? call).map Prod.fst = expected? calls call :=
  (Inv.run hrun).map_fst_step? call

/-- A signal that was cloned from one that still waits, then asked after the coordinator went away
without a trigger. -/
theorem answer_of_run_dropped :
    let calls := [.subscribe, .recv 0, .poll 0, .clone 0, .unsubscribe 0, .drop]
    ∃ s, run? calls = some s ∧ (s.step? (.recv 1)).map Prod.fst = some .ready
      ∧ (s.step? (.recv 0)).map Prod.fst = none := by
  intro calls
  obtain ⟨s, hs⟩ : ∃ s, run? calls = some s := Option.isSome_iff_exists.1 (by decide)
  refine ⟨s, hs, ?_, ?_⟩
  · rw [answer_of_run hs]
    decide
  · rw [answer_of_run hs]
    decide

end Shutdown

end RevocationLab
