/-
**Permits and guards.**

A loop starts with all permits free and nobody connected.  Whatever order its steps come in, each
permit is free, or held by a connection that has not given it back, or held by the loop while it
waits; and as many connections are counted as have a guard.  Both counts are said with the history of
the run alone: which connections were accepted, and which of them have dropped their guard or their
permit since.

Main definitions:

* `Connection.AcceptLoop.start` — a loop that starts;
* `Connection.AcceptLoop.accepted`, `Connection.AcceptLoop.isWaiting`,
  `Connection.AcceptLoop.without` — what a history says;
* `Connection.AcceptLoop.Possible` — the steps that can come next;
* `Connection.AcceptLoop.Kept` — **what every run keeps**.

Main results:

* `Connection.AcceptLoop.Inv.step` — every step keeps the loop and its history together;
* `Connection.AcceptLoop.kept_of_run` — **permits and guards over every run**.
-/

import Mathlib.Data.List.Induction
import Mathlib.Data.List.Nodup
import RevocationLab.Connection.AcceptLoop

set_option autoImplicit false

namespace RevocationLab

namespace Connection

namespace AcceptLoop

/-- A loop that starts with a listener that nobody uses; the number of its first connection is the
next one of a counter that others may have drawn from. -/
def start (listener : Listener) (first : Nat) : AcceptLoop :=
  { listener, tracker := { next := first } }

theorem run?_append (l : AcceptLoop) (steps more : List Step) :
    l.run? (steps ++ more) = (l.run? steps).bind fun m => m.run? more := by
  simp [run?, List.foldlM_append]

theorem run?_singleton (l : AcceptLoop) (s : Step) : l.run? [s] = l.step? s := by
  simp [run?]

/-! ### What a step does -/

section Steps

variable {l m : AcceptLoop} {id : Id}

theorem step?_wait : l.step? .wait = some m ↔
    l.running = true ∧ l.waiting = false ∧ 0 < l.listener.available
      ∧ m = { l with
          listener := { l.listener with available := l.listener.available - 1 }
          waiting := true } := by
  by_cases hfree : l.listener.available = 0
  · simp [step?, Listener.acquire?, hfree]
  · have hpos : 0 < l.listener.available := Nat.pos_of_ne_zero hfree
    cases hrunning : l.running <;> cases hwaiting : l.waiting <;>
      simp [step?, Listener.acquire?, hfree, hpos, hrunning, hwaiting, eq_comm]

theorem step?_cancel : l.step? .cancel = some m ↔
    l.waiting = true ∧ m = { l with listener := l.listener.release, waiting := false } := by
  cases hwaiting : l.waiting <;> simp [step?, hwaiting, eq_comm]

theorem step?_accept : l.step? .accept = some m ↔
    l.running = true ∧ l.waiting = true
      ∧ m = { l with
          tracker := l.tracker.track.2
          waiting := false
          serving := l.serving ++ [l.tracker.track.1] } := by
  cases hrunning : l.running <;> cases hwaiting : l.waiting <;>
    simp [step?, hrunning, hwaiting, eq_comm]

theorem step?_dropGuard : l.step? (.dropGuard id) = some m ↔
    id ∈ l.serving
      ∧ m = { l with
          tracker := l.tracker.drop
          serving := l.serving.erase id
          leaving := l.leaving ++ [id] } := by
  by_cases hid : id ∈ l.serving <;> simp [step?, hid, eq_comm]

theorem step?_dropPermit : l.step? (.dropPermit id) = some m ↔
    id ∈ l.leaving
      ∧ m = { l with listener := l.listener.release, leaving := l.leaving.erase id } := by
  by_cases hid : id ∈ l.leaving <;> simp [step?, hid, eq_comm]

theorem step?_stop : l.step? .stop = some m ↔
    l.running = true
      ∧ m = { l with
          running := false
          waiting := false
          listener := if l.waiting then l.listener.release else l.listener } := by
  cases hrunning : l.running <;> cases hwaiting : l.waiting <;>
    simp [step?, hrunning, hwaiting, eq_comm]

end Steps

/-! ### Histories -/

/-- The connections that are accepted in a run, under the numbers that they get. -/
def accepted (l : AcceptLoop) : List Step → List Id
  | [] => []
  | s :: rest =>
      (if s = .accept then [l.tracker.track.1] else [])
        ++ match l.step? s with
          | some m => accepted m rest
          | none => []

/-- Whether the loop waits for a client with a permit. -/
def isWaiting (steps : List Step) : Bool :=
  steps.foldl (fun waiting s =>
    match s with
    | .wait => true
    | .cancel | .accept | .stop => false
    | .dropGuard _ | .dropPermit _ => waiting) false

/-- The accepted connections without a step of their own, such as the end of their guard. -/
def without (ended : Id → Step) (l : AcceptLoop) (steps : List Step) : List Id :=
  (l.accepted steps).filter fun id => ended id ∉ steps

theorem accepted_append {l m : AcceptLoop} {steps : List Step} (h : l.run? steps = some m)
    (s : Step) :
    l.accepted (steps ++ [s])
      = l.accepted steps ++ if s = .accept then [m.tracker.track.1] else [] := by
  induction steps generalizing l with
  | nil =>
      obtain rfl : l = m := by simpa [run?] using h
      cases hstep : l.step? s <;> simp [accepted, hstep]
  | cons t rest ih =>
      rw [← List.singleton_append, run?_append, run?_singleton] at h
      obtain ⟨k, hk, hrest⟩ := Option.bind_eq_some_iff.1 h
      simp [accepted, hk, ih hrest]

theorem isWaiting_append (steps : List Step) (s : Step) :
    isWaiting (steps ++ [s]) = match s with
      | .wait => true
      | .cancel | .accept | .stop => false
      | .dropGuard _ | .dropPermit _ => isWaiting steps := by
  rw [isWaiting, List.foldl_append]
  rfl

section Without

variable {l m : AcceptLoop} {steps : List Step}

theorem accepted_append_of_ne (h : l.run? steps = some m) {s : Step} (hs : s ≠ .accept) :
    l.accepted (steps ++ [s]) = l.accepted steps := by
  rw [accepted_append h, if_neg hs, List.append_nil]

variable (ended : Id → Step)

/-- Another step leaves everybody. -/
theorem without_append_of_ne (h : l.run? steps = some m) {s : Step} (hs : s ≠ .accept)
    (hended : ∀ id, ended id ≠ s) : without ended l (steps ++ [s]) = without ended l steps := by
  simp [without, accepted_append_of_ne h hs, hended]

/-- The step of one connection takes that connection away. -/
theorem without_append_ended (h : l.run? steps = some m) (hnodup : (l.accepted steps).Nodup)
    (hinj : ∀ a b, ended a = ended b → a = b) (id : Id) (hs : ended id ≠ .accept) :
    without ended l (steps ++ [ended id]) = (without ended l steps).erase id := by
  have hother (a : Id) : ended a = ended id ↔ a = id := ⟨hinj a id, congrArg ended⟩
  have hwithout : (without ended l steps).Nodup := hnodup.sublist List.filter_sublist
  rw [hwithout.erase_eq_filter, without, without, accepted_append_of_ne h hs, List.filter_filter]
  refine List.filter_congr fun a _ => ?_
  by_cases ha : a = id <;> simp [hother, ha]

/-- A connection that is accepted joins those without a step. -/
theorem without_append_accept (h : l.run? steps = some m) (hended : ∀ id, ended id ≠ .accept)
    (hnew : ended m.tracker.track.1 ∉ steps) :
    without ended l (steps ++ [.accept]) = without ended l steps ++ [m.tracker.track.1] := by
  simp [without, accepted_append h, hended, hnew]

end Without

/-! ### What the history says about the loop -/

/-- **A loop with its history.** -/
structure Inv (listener : Listener) (first : Nat) (steps : List Step) (l : AcceptLoop) : Prop where
  /-- The loop has come from these steps. -/
  ran : (start listener first).run? steps = some l
  /-- The limit stays. -/
  most : l.listener.maxConnections = listener.maxConnections
  /-- The loop runs until it is stopped. -/
  running : l.running = true ↔ .stop ∉ steps
  /-- It waits if its own last step was to start waiting. -/
  waiting : l.waiting = isWaiting steps
  /-- Nobody waits in a loop that was stopped. -/
  opened : l.waiting = true → l.running = true
  /-- A permit that is not free is held by a connection or by the loop. -/
  permits : l.listener.available
    + (without .dropPermit (start listener first) steps).length + l.waiting.toNat
      = listener.available
  /-- A connection is counted while it is served. -/
  active : l.tracker.active = l.serving.length
  /-- The next number comes after those that are taken. -/
  next : l.tracker.next = first + ((start listener first).accepted steps).length
  /-- The numbers are taken one after the other. -/
  numbers : ((start listener first).accepted steps).map Id.number
    = List.range' first ((start listener first).accepted steps).length
  /-- A connection is served until its guard is dropped. -/
  serving : l.serving = without .dropGuard (start listener first) steps
  /-- It leaves between the drops of its guard and of its permit. -/
  leaving : ∀ id, id ∈ l.leaving ↔ .dropGuard id ∈ steps ∧ .dropPermit id ∉ steps
  /-- Nobody leaves twice. -/
  once : l.leaving.Nodup
  /-- Only connections that were accepted have a guard. -/
  guards : ∀ id, .dropGuard id ∈ steps → id ∈ (start listener first).accepted steps
  /-- A permit comes after the guard. -/
  order : ∀ id, .dropPermit id ∈ steps → .dropGuard id ∈ steps

theorem Inv.start (listener : Listener) (first : Nat) :
    Inv listener first [] (start listener first) := by
  constructor <;> simp [AcceptLoop.start, run?, isWaiting, without, accepted]

namespace Inv

variable {listener : Listener} {first : Nat} {steps : List Step} {l m : AcceptLoop} {id : Id}

/-- No two connections have the same number. -/
theorem nodup_accepted (h : Inv listener first steps l) :
    ((AcceptLoop.start listener first).accepted steps).Nodup := by
  refine List.Nodup.of_map Id.number ?_
  rw [h.numbers]
  exact List.nodup_range'

/-- The next number was not given to anybody. -/
theorem next_not_mem (h : Inv listener first steps l) :
    l.tracker.track.1 ∉ (AcceptLoop.start listener first).accepted steps := by
  intro hmem
  have hnumber := List.mem_map_of_mem (f := Id.number) hmem
  rw [h.numbers, List.mem_range'_1] at hnumber
  have hnext : l.tracker.track.1.number = l.tracker.next := rfl
  have := h.next
  omega

theorem mem_serving (h : Inv listener first steps l) (id : Id) :
    id ∈ l.serving ↔ id ∈ (AcceptLoop.start listener first).accepted steps
      ∧ .dropGuard id ∉ steps := by
  simp [h.serving, without]

theorem run?_append (h : Inv listener first steps l) {s : Step} (hs : l.step? s = some m) :
    (AcceptLoop.start listener first).run? (steps ++ [s]) = some m := by
  rw [AcceptLoop.run?_append, h.ran, Option.bind_some, run?_singleton, hs]

/-- A step of the loop itself that accepts nobody leaves the connections as they are. -/
theorem own (h : Inv listener first steps l) {s : Step} (hs : l.step? s = some m)
    (hown : s = .wait ∨ s = .cancel ∨ s = .stop)
    (htracker : m.tracker = l.tracker) (hserving : m.serving = l.serving)
    (hleaving : m.leaving = l.leaving)
    (hmost : m.listener.maxConnections = l.listener.maxConnections)
    (hrunning : m.running = true ↔ l.running = true ∧ s ≠ .stop)
    (hwaiting : m.waiting = isWaiting (steps ++ [s]))
    (hopened : m.waiting = true → m.running = true)
    (hpermits : m.listener.available + m.waiting.toNat
      = l.listener.available + l.waiting.toNat) :
    Inv listener first (steps ++ [s]) m := by
  have haccept : s ≠ .accept := by rintro rfl; simp at hown
  have hguard (id : Id) : Step.dropGuard id ≠ s := by rintro rfl; simp at hown
  have hpermit (id : Id) : Step.dropPermit id ≠ s := by rintro rfl; simp at hown
  have haccepted := accepted_append_of_ne h.ran haccept
  have hguards := without_append_of_ne .dropGuard h.ran haccept hguard
  have hheld := without_append_of_ne .dropPermit h.ran haccept hpermit
  constructor
  case ran => exact h.run?_append hs
  case most => rw [hmost, h.most]
  case running => rw [hrunning, h.running, List.mem_append, List.mem_singleton, not_or, eq_comm]
  case waiting => exact hwaiting
  case opened => exact hopened
  case permits => rw [hheld, ← h.permits]; omega
  case active => rw [htracker, hserving, h.active]
  case next => rw [htracker, haccepted, h.next]
  case numbers => rw [haccepted, h.numbers]
  case serving => rw [hserving, hguards, h.serving]
  case leaving => simpa [hleaving, hguard, hpermit] using h.leaving
  case once => rw [hleaving]; exact h.once
  case guards => simpa [haccepted, hguard] using h.guards
  case order => simpa [hguard, hpermit] using h.order

/-- A client that is accepted takes over the permit, and the next number. -/
theorem accept (h : Inv listener first steps l) (hs : l.step? .accept = some m) :
    Inv listener first (steps ++ [.accept]) m := by
  have hran := h.run?_append hs
  have hnew := h.next_not_mem
  have hguard : .dropGuard l.tracker.track.1 ∉ steps := fun hmem => hnew (h.guards _ hmem)
  have hpermit : .dropPermit l.tracker.track.1 ∉ steps := fun hmem => hguard (h.order _ hmem)
  have haccepted := accepted_append h.ran .accept
  have hguards := without_append_accept .dropGuard h.ran (by simp) hguard
  have hheld := without_append_accept .dropPermit h.ran (by simp) hpermit
  obtain ⟨hrunning, hwaiting, rfl⟩ := step?_accept.1 hs
  have hpermits := h.permits
  have hnext := h.next
  rw [if_pos rfl] at haccepted
  constructor
  case ran => exact hran
  case most => exact h.most
  case running => simpa using h.running
  case waiting => simp [isWaiting_append]
  case opened => simp
  case permits =>
    rw [hheld, List.length_append, List.length_singleton]
    rw [hwaiting] at hpermits
    simp only [Bool.toNat_true, Bool.toNat_false] at hpermits ⊢
    omega
  case active => simp [Tracker.track, h.active]
  case next =>
    rw [haccepted, List.length_append, List.length_singleton, ← Nat.add_assoc, ← hnext]
    rfl
  case numbers =>
    rw [haccepted, List.map_append, h.numbers, List.length_append, List.length_singleton,
      List.range'_concat, Nat.one_mul, ← hnext]
    rfl
  case serving => rw [hguards, ← h.serving]
  case leaving => simpa using h.leaving
  case once => exact h.once
  case guards =>
    intro id hid
    rw [haccepted]
    exact List.mem_append_left _ (h.guards id (by simpa using hid))
  case order => simpa using h.order

/-- A connection whose guard is dropped is served no longer, and leaves with its permit. -/
theorem dropGuard (h : Inv listener first steps l) (hs : l.step? (.dropGuard id) = some m) :
    Inv listener first (steps ++ [.dropGuard id]) m := by
  have hran := h.run?_append hs
  have haccepted := accepted_append_of_ne h.ran (s := .dropGuard id) (by simp)
  have hguards := without_append_ended .dropGuard h.ran h.nodup_accepted (by simp) id (by simp)
  have hheld := without_append_of_ne .dropPermit h.ran (s := .dropGuard id) (by simp) (by simp)
  obtain ⟨hid, rfl⟩ := step?_dropGuard.1 hs
  obtain ⟨hmem, hfirst⟩ := (h.mem_serving id).1 hid
  have hpermit : .dropPermit id ∉ steps := fun hp => hfirst (h.order id hp)
  constructor
  case ran => exact hran
  case most => exact h.most
  case running => simpa using h.running
  case waiting => simpa [isWaiting_append] using h.waiting
  case opened => exact h.opened
  case permits => rw [hheld]; exact h.permits
  case active => simp [Tracker.drop, List.length_erase_of_mem hid, h.active]
  case next => rw [haccepted]; exact h.next
  case numbers => rw [haccepted]; exact h.numbers
  case serving => rw [hguards, ← h.serving]
  case leaving =>
    intro a
    by_cases ha : a = id
    · subst ha
      simp [hpermit]
    · simp [h.leaving, ha]
  case once =>
    refine h.once.append (List.nodup_singleton id) ?_
    simp [h.leaving, hfirst]
  case guards =>
    intro a ha
    rw [haccepted]
    by_cases hne : a = id
    · exact hne ▸ hmem
    · exact h.guards a (by simpa [hne] using ha)
  case order =>
    intro a ha
    exact List.mem_append_left _ (h.order a (by simpa using ha))

/-- A connection whose permit is given back has left. -/
theorem dropPermit (h : Inv listener first steps l) (hs : l.step? (.dropPermit id) = some m) :
    Inv listener first (steps ++ [.dropPermit id]) m := by
  have hran := h.run?_append hs
  have haccepted := accepted_append_of_ne h.ran (s := .dropPermit id) (by simp)
  have hguards := without_append_of_ne .dropGuard h.ran (s := .dropPermit id) (by simp) (by simp)
  have hheld := without_append_ended .dropPermit h.ran h.nodup_accepted (by simp) id (by simp)
  obtain ⟨hid, rfl⟩ := step?_dropPermit.1 hs
  obtain ⟨hguard, hfirst⟩ := (h.leaving id).1 hid
  have hpermits := h.permits
  constructor
  case ran => exact hran
  case most => exact h.most
  case running => simpa using h.running
  case waiting => simpa [isWaiting_append] using h.waiting
  case opened => exact h.opened
  case permits =>
    have hmem : id ∈ without .dropPermit (AcceptLoop.start listener first) steps := by
      simp [without, h.guards id hguard, hfirst]
    have hpos := List.length_pos_of_mem hmem
    rw [hheld, List.length_erase_of_mem hmem]
    simp only [Listener.release]
    omega
  case active => exact h.active
  case next => rw [haccepted]; exact h.next
  case numbers => rw [haccepted]; exact h.numbers
  case serving => rw [hguards]; exact h.serving
  case leaving =>
    intro a
    simp only [h.once.mem_erase_iff, h.leaving, List.mem_append, List.mem_singleton,
      reduceCtorEq, or_false, Step.dropPermit.injEq, not_or]
    tauto
  case once => exact h.once.erase id
  case guards =>
    intro a ha
    rw [haccepted]
    exact h.guards a (by simpa using ha)
  case order =>
    intro a ha
    refine List.mem_append_left _ ?_
    by_cases hne : a = id
    · exact hne ▸ hguard
    · exact h.order a (by simpa [hne] using ha)

/-- **Every step keeps the loop and its history together.** -/
theorem step (h : Inv listener first steps l) {s : Step} (hs : l.step? s = some m) :
    Inv listener first (steps ++ [s]) m := by
  cases s with
  | wait =>
      obtain ⟨hrunning, hidle, hfree, rfl⟩ := step?_wait.1 hs
      refine h.own hs (by simp) rfl rfl rfl rfl (by simp) (by simp [isWaiting_append])
        (fun _ => hrunning) ?_
      simp only [hidle, Bool.toNat_false, Bool.toNat_true]
      omega
  | cancel =>
      obtain ⟨hwaiting, rfl⟩ := step?_cancel.1 hs
      refine h.own hs (by simp) rfl rfl rfl rfl (by simp) (by simp [isWaiting_append]) (by simp) ?_
      simp [hwaiting, Listener.release]
  | stop =>
      obtain ⟨hrunning, rfl⟩ := step?_stop.1 hs
      refine h.own hs (by simp) rfl rfl rfl ?_ (by simp) (by simp [isWaiting_append]) (by simp) ?_
      · split <;> rfl
      · cases hwaiting : l.waiting <;> simp [Listener.release]
  | accept => exact h.accept hs
  | dropGuard id => exact h.dropGuard hs
  | dropPermit id => exact h.dropPermit hs

/-- A loop that starts agrees with its history after any run. -/
theorem run (hrun : (AcceptLoop.start listener first).run? steps = some l) :
    Inv listener first steps l := by
  induction steps using List.reverseRecOn generalizing l with
  | nil =>
      obtain rfl : AcceptLoop.start listener first = l := by simpa [run?] using hrun
      exact Inv.start listener first
  | append_singleton steps s ih =>
      rw [AcceptLoop.run?_append, Option.bind_eq_some_iff] at hrun
      obtain ⟨k, hk, hstep⟩ := hrun
      rw [run?_singleton] at hstep
      exact (ih hk).step hstep

end Inv

/-! ### Every run -/

/-- The steps that can come next, as the history says. -/
def Possible (most : Nat) (l₀ : AcceptLoop) (steps : List Step) : Step → Prop
  | .wait => .stop ∉ steps ∧ isWaiting steps = false ∧ (without .dropPermit l₀ steps).length < most
  | .cancel | .accept => isWaiting steps = true
  | .dropGuard id => id ∈ l₀.accepted steps ∧ .dropGuard id ∉ steps
  | .dropPermit id => .dropGuard id ∈ steps ∧ .dropPermit id ∉ steps
  | .stop => .stop ∉ steps

/-- Whether a step is part of the end of a connection. -/
def Step.isEnd : Step → Bool
  | .dropGuard _ | .dropPermit _ => true
  | .wait | .cancel | .accept | .stop => false

/-- Whether a step gives back the permit of a connection. -/
def Step.givesBack : Step → Bool
  | .dropPermit _ => true
  | .wait | .cancel | .accept | .dropGuard _ | .stop => false

/-- **What every run keeps**, from a loop that starts with so many permits. -/
structure Kept (most : Nat) (l₀ : AcceptLoop) (steps : List Step) (l : AcceptLoop) : Prop where
  /-- Each permit is free, or held by a connection, or held by the loop while it waits. -/
  permits : l.listener.available + (without .dropPermit l₀ steps).length + (isWaiting steps).toNat
    = most
  /-- As many connections are counted as have a guard. -/
  active : l.tracker.active = (without .dropGuard l₀ steps).length
  /-- They are never more than the limit. -/
  bounded : l.tracker.active ≤ most
  /-- No guard is dropped while nobody is counted. -/
  counted : ∀ before id after, steps = before ++ .dropGuard id :: after →
    ∃ m, l₀.run? before = some m ∧ 0 < m.tracker.active
  /-- Whoever starts to wait takes a permit. -/
  waits : ∀ before after, steps = before ++ .wait :: after →
    ∃ m k, l₀.run? before = some m ∧ l₀.run? (before ++ [.wait]) = some k
      ∧ k.listener.available + 1 = m.listener.available
  /-- A client is accepted by a loop that waits with a permit, and takes over that permit. -/
  accepts : ∀ before after, steps = before ++ .accept :: after → isWaiting before = true ∧
    ∃ m k, l₀.run? before = some m ∧ l₀.run? (before ++ [.accept]) = some k
      ∧ k.listener.available = m.listener.available
  /-- Waiting that ends without a client leaves the permits as they were before it began, apart from
  those that connections gave back in between. -/
  cancels : ∀ before between last after, steps = before ++ .wait :: (between ++ last :: after) →
    (∀ s ∈ between, s.isEnd = true) → last = .cancel ∨ last = .stop →
    ∃ m k, l₀.run? before = some m ∧ l₀.run? (before ++ .wait :: (between ++ [last])) = some k
      ∧ k.listener.available = m.listener.available + between.countP Step.givesBack
  /-- No two connections have the same number, -/
  distinct : (l₀.accepted steps).Nodup
  /-- nor the same sixty-four bits of it until all of these are used up. -/
  words : (l₀.accepted steps).length ≤ UInt64.size →
    ((l₀.accepted steps).map fun id => id.number % UInt64.size).Nodup
  /-- The history says what can come next. -/
  possible : ∀ s, (l.step? s).isSome = true ↔ Possible most l₀ steps s
  /-- When the loop and all connections have ended, nobody is counted and every permit is free. -/
  ended : .stop ∈ steps → (∀ id ∈ l₀.accepted steps, .dropPermit id ∈ steps) →
    l.tracker.active = 0 ∧ l.listener.available = most

/-- The run of some steps goes through that of each of its beginnings. -/
theorem run?_split {l₀ l : AcceptLoop} {before after : List Step} {s : Step}
    (h : l₀.run? (before ++ s :: after) = some l) :
    ∃ m k, l₀.run? before = some m ∧ m.step? s = some k ∧ l₀.run? (before ++ [s]) = some k
      ∧ k.run? after = some l := by
  rw [run?_append] at h
  obtain ⟨m, hm, hafter⟩ := Option.bind_eq_some_iff.1 h
  rw [← List.singleton_append, run?_append, run?_singleton] at hafter
  obtain ⟨k, hk, hrest⟩ := Option.bind_eq_some_iff.1 hafter
  refine ⟨m, k, hm, hk, ?_, hrest⟩
  rw [run?_append, hm, Option.bind_some, run?_singleton, hk]

/-- Connections that end give back their permits and leave the rest of the loop alone. -/
theorem run?_ends {l m : AcceptLoop} {steps : List Step} (h : l.run? steps = some m)
    (hends : ∀ s ∈ steps, s.isEnd = true) :
    m.waiting = l.waiting ∧ m.running = l.running
      ∧ m.listener.available = l.listener.available + steps.countP Step.givesBack := by
  induction steps generalizing l with
  | nil =>
      obtain rfl : l = m := by simpa [run?] using h
      simp
  | cons s rest ih =>
      rw [← List.singleton_append, run?_append, run?_singleton] at h
      obtain ⟨k, hk, hrest⟩ := Option.bind_eq_some_iff.1 h
      obtain ⟨hwaiting, hrunning, havailable⟩ :=
        ih hrest fun t ht => hends t (List.mem_cons_of_mem s ht)
      have hs := hends s List.mem_cons_self
      cases s with
      | wait | cancel | accept | stop => cases hs
      | dropGuard id =>
          obtain ⟨-, rfl⟩ := step?_dropGuard.1 hk
          exact ⟨hwaiting, hrunning, by simpa [Step.givesBack] using havailable⟩
      | dropPermit id =>
          obtain ⟨-, rfl⟩ := step?_dropPermit.1 hk
          refine ⟨hwaiting, hrunning, ?_⟩
          rw [havailable, List.countP_cons]
          simp only [Listener.release, Step.givesBack, if_true]
          omega

namespace Inv

variable {listener : Listener} {first : Nat} {steps : List Step} {l : AcceptLoop}

theorem possible (h : Inv listener first steps l) (s : Step) :
    (l.step? s).isSome = true
      ↔ Possible listener.available (AcceptLoop.start listener first) steps s := by
  rw [Option.isSome_iff_exists]
  cases s with
  | wait =>
      have hpermits := h.permits
      simp only [step?_wait, Possible, exists_and_left, exists_eq, and_true, ← h.running,
        ← h.waiting]
      refine and_congr_right fun _ => and_congr_right fun hidle => ?_
      rw [hidle, Bool.toNat_false] at hpermits
      omega
  | cancel => simp [step?_cancel, Possible, ← h.waiting]
  | accept =>
      simp only [step?_accept, Possible, exists_and_left, exists_eq, and_true, ← h.waiting]
      exact ⟨And.right, fun hwaiting => ⟨h.opened hwaiting, hwaiting⟩⟩
  | dropGuard id => simp [step?_dropGuard, Possible, h.mem_serving]
  | dropPermit id => simp [step?_dropPermit, Possible, h.leaving]
  | stop => simp [step?_stop, Possible, ← h.running]

/-- Whoever has a guard has a permit. -/
theorem active_le (h : Inv listener first steps l) : l.tracker.active ≤ listener.available := by
  have hle : (without .dropGuard (AcceptLoop.start listener first) steps).length
      ≤ (without .dropPermit (AcceptLoop.start listener first) steps).length := by
    refine (List.monotone_filter_right _ fun id hid => ?_).length_le
    simp only [decide_eq_true_eq] at hid ⊢
    exact fun hp => hid (h.order id hp)
  have hactive := h.active
  have hpermits := h.permits
  rw [h.serving] at hactive
  omega

/-- The numbers differ also in sixty-four bits, as long as there are enough of these. -/
theorem nodup_words (h : Inv listener first steps l)
    (hroom : ((AcceptLoop.start listener first).accepted steps).length ≤ UInt64.size) :
    (((AcceptLoop.start listener first).accepted steps).map
      fun id => id.number % UInt64.size).Nodup := by
  have hwords : ((AcceptLoop.start listener first).accepted steps).map
        (fun id => id.number % UInt64.size)
      = (List.range' first ((AcceptLoop.start listener first).accepted steps).length).map
        fun n => n % UInt64.size := by
    rw [← h.numbers, List.map_map]
    rfl
  rw [hwords]
  refine List.Nodup.map_on (fun a ha b hb hab => ?_) List.nodup_range'
  rw [List.mem_range'_1] at ha hb
  simp only [UInt64.size] at hab hroom
  omega

/-- A loop that was stopped and whose connections have all given back their permits. -/
theorem ended (h : Inv listener first steps l) (hstop : .stop ∈ steps)
    (hall : ∀ id ∈ (AcceptLoop.start listener first).accepted steps, .dropPermit id ∈ steps) :
    l.tracker.active = 0 ∧ l.listener.available = listener.available := by
  have hheld : without .dropPermit (AcceptLoop.start listener first) steps = [] := by
    simpa [without, List.filter_eq_nil_iff] using hall
  have hserving : without .dropGuard (AcceptLoop.start listener first) steps = [] := by
    simpa [without, List.filter_eq_nil_iff] using fun id hid => h.order id (hall id hid)
  have hidle : l.waiting = false := by
    have hstopped : ¬ l.running = true := fun hrunning => h.running.1 hrunning hstop
    exact Bool.eq_false_iff.2 fun hwaiting => hstopped (h.opened hwaiting)
  have hpermits := h.permits
  rw [hheld, hidle, List.length_nil, Bool.toNat_false] at hpermits
  exact ⟨by rw [h.active, h.serving, hserving, List.length_nil], by omega⟩

end Inv

section Run

variable {listener : Listener} {first : Nat} {steps before after between : List Step}
  {l : AcceptLoop}

theorem counted_of_run (hrun : (start listener first).run? steps = some l) {id : Id}
    (hsteps : steps = before ++ .dropGuard id :: after) :
    ∃ m, (start listener first).run? before = some m ∧ 0 < m.tracker.active := by
  subst hsteps
  obtain ⟨m, k, hm, hstep, -, -⟩ := run?_split hrun
  refine ⟨m, hm, ?_⟩
  rw [(Inv.run hm).active]
  exact List.length_pos_of_mem (step?_dropGuard.1 hstep).1

theorem waits_of_run (hrun : (start listener first).run? steps = some l)
    (hsteps : steps = before ++ .wait :: after) :
    ∃ m k, (start listener first).run? before = some m
      ∧ (start listener first).run? (before ++ [.wait]) = some k
      ∧ k.listener.available + 1 = m.listener.available := by
  subst hsteps
  obtain ⟨m, k, hm, hstep, hk, -⟩ := run?_split hrun
  refine ⟨m, k, hm, hk, ?_⟩
  obtain ⟨-, -, hfree, rfl⟩ := step?_wait.1 hstep
  exact Nat.sub_add_cancel hfree

theorem accepts_of_run (hrun : (start listener first).run? steps = some l)
    (hsteps : steps = before ++ .accept :: after) :
    isWaiting before = true ∧ ∃ m k, (start listener first).run? before = some m
      ∧ (start listener first).run? (before ++ [.accept]) = some k
      ∧ k.listener.available = m.listener.available := by
  subst hsteps
  obtain ⟨m, k, hm, hstep, hk, -⟩ := run?_split hrun
  obtain ⟨-, hwaiting, rfl⟩ := step?_accept.1 hstep
  exact ⟨by rw [← (Inv.run hm).waiting, hwaiting], m, _, hm, hk, rfl⟩

theorem cancels_of_run (hrun : (start listener first).run? steps = some l) {last : Step}
    (hsteps : steps = before ++ .wait :: (between ++ last :: after))
    (hends : ∀ s ∈ between, s.isEnd = true) (hlast : last = .cancel ∨ last = .stop) :
    ∃ m k, (start listener first).run? before = some m
      ∧ (start listener first).run? (before ++ .wait :: (between ++ [last])) = some k
      ∧ k.listener.available = m.listener.available + between.countP Step.givesBack := by
  subst hsteps
  obtain ⟨m, waited, hm, hwait, hwaited, hrest⟩ := run?_split hrun
  obtain ⟨met, k, hmet, hstep, hk, -⟩ := run?_split hrest
  obtain ⟨hwaiting, -, havailable⟩ := run?_ends hmet hends
  refine ⟨m, k, hm, ?_, ?_⟩
  · rw [← List.singleton_append, ← List.append_assoc, run?_append, hwaited, Option.bind_some, hk]
  · obtain ⟨-, -, hfree, rfl⟩ := step?_wait.1 hwait
    have hback : k.listener.available = met.listener.available + 1 := by
      rcases hlast with rfl | rfl
      · obtain ⟨-, rfl⟩ := step?_cancel.1 hstep
        rfl
      · obtain ⟨-, rfl⟩ := step?_stop.1 hstep
        simp [hwaiting, Listener.release]
    rw [hback, havailable]
    simp only
    omega

end Run

theorem available_of_bind {settings : Settings.Listener} {freePort : Nat} {listener : Listener}
    (h : Listener.bind settings freePort = .ok listener) :
    listener.available = settings.maxConnections := by
  unfold Listener.bind at h
  split at h
  · cases h
  · split at h
    · cases h
    · cases h
      rfl

/-- **Permits and guards over every run** of a loop that starts with a listener of some settings. -/
theorem kept_of_run {settings : Settings.Listener} {freePort : Nat} {listener : Listener}
    (hbind : Listener.bind settings freePort = .ok listener) {first : Nat} {steps : List Step}
    {l : AcceptLoop} (hrun : (start listener first).run? steps = some l) :
    Kept settings.maxConnections (start listener first) steps l := by
  have h := Inv.run hrun
  rw [← available_of_bind hbind]
  constructor
  case permits => rw [← h.waiting, h.permits]
  case active => rw [h.active, h.serving]
  case bounded => exact h.active_le
  case counted => exact fun _ _ _ => counted_of_run hrun
  case waits => exact fun _ _ => waits_of_run hrun
  case accepts => exact fun _ _ => accepts_of_run hrun
  case cancels => exact fun _ _ _ _ => cancels_of_run hrun
  case distinct => exact h.nodup_accepted
  case words => exact h.nodup_words
  case possible => exact h.possible
  case ended => exact h.ended

/-- Two connections under a limit of two, with a wait that is cancelled and one that is stopped. -/
theorem kept_sampleRun :
    let steps : List Step := [.wait, .accept, .wait, .cancel, .wait, .accept, .dropGuard ⟨1⟩,
      .dropPermit ⟨1⟩, .wait, .stop, .dropGuard ⟨2⟩, .dropPermit ⟨2⟩]
    let listener : Listener := ⟨.four [127, 0, 0, 1] 4000, 2, 2⟩
    Listener.bind ⟨"127.0.0.1:0", 2⟩ 4000 = .ok listener ∧
      ∃ l, (start listener 1).run? steps = some l ∧ Kept 2 (start listener 1) steps l := by
  intro steps listener
  have hbind : Listener.bind ⟨"127.0.0.1:0", 2⟩ 4000 = .ok listener := by decide +kernel
  have hrun : ((start listener 1).run? steps).isSome = true := by decide +kernel
  obtain ⟨l, hl⟩ := Option.isSome_iff_exists.1 hrun
  exact ⟨hbind, l, hl, kept_of_run hbind hl⟩

end AcceptLoop

end Connection

end RevocationLab
