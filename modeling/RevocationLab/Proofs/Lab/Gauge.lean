/-
**The gauge of routes, with many callers.**

Registering a responder and releasing a registration change the table of routes, read its size, and
publish what they have read, in three steps that the steps of others may come between.  So the sizes
need not be published in the order in which they were read: the gauge shows the one that the last call
to publish had read, whatever was changed since.  Once every call is over, it is off by no more than the
number of changes between that reading and its publication; and it shows nothing at all until a call has
changed the table.

Main definitions:

* `Lab.Front`, `Lab.Front.Step`, `Lab.Front.step?`, `Lab.Front.run?` — **a table with the calls on it,
  step by step**;
* `Lab.Front.Idle` — every call is over;
* `Lab.Front.Shown` — what the gauge shows then.

Main results:

* `Lab.Front.exists_register_alone`, `Lab.Front.exists_release_alone` — a call whose steps nothing comes
  between does what the laboratory does in one;
* `Lab.Front.Inv.move` — every step keeps readings and publications together;
* `Lab.Front.shown_of_run` — **the gauge shows what the last call to publish had read**;
* `Lab.Front.gauge_stale` — **the gauge need not show how many routes there are**.
-/

import Mathlib.Data.List.Induction
import RevocationLab.Lab

set_option autoImplicit false

namespace RevocationLab

open Routing

namespace Routing.Table

variable {α : Type}

/-! ### How a change moves the size -/

/-- Two sizes are no further apart than a number of changes can move them. -/
structure Near (n size size' : Nat) : Prop where
  le_add : size' ≤ size + n
  ge_sub : size ≤ size' + n

theorem Near.refl (size : Nat) : Near 0 size size := ⟨Nat.le_refl _, Nat.le_refl _⟩

theorem Near.trans {m n a b c : Nat} (hab : Near m a b) (hbc : Near n b c) : Near (m + n) a c := by
  obtain ⟨_, _⟩ := hab
  obtain ⟨_, _⟩ := hbc
  constructor <;> omega

theorem near_insert (t : Table α) (key : String) (a : α) :
    Near 1 t.size (t.insert key a).2.size := by
  have hlength := Keyed.length_put t.routes key (⟨t.nextId, a⟩ : Entry α)
  change Near 1 t.routes.length (Keyed.put t.routes key _).length
  constructor <;> split at hlength <;> omega

theorem near_remove {t : Table α} (h : t.keys.Nodup) (key : String) (id : Nat) :
    Near 1 t.size (t.remove key id).size := by
  unfold remove
  split
  · have hlength := Keyed.length_erase h key
    change Near 1 t.routes.length (Keyed.erase t.routes key).length
    constructor <;> split at hlength <;> omega
  · exact ⟨Nat.le_succ _, Nat.le_succ _⟩

end Routing.Table

namespace Lab

/-! ### Steps -/

namespace Front

/-- How far a call has come: it has changed the table, it has read the size, it has published that. -/
inductive Stage where
  | changed
  | read (size : Nat)
  | over
  deriving DecidableEq

/-- A call with the registration that it made, until that is released. -/
structure Call where
  registration : Option Registration
  stage : Stage
  deriving DecidableEq

/-- What can happen.  Calls are named by their places in the order in which they changed the table. -/
inductive Step where
  /-- A call registers a responder, and changes the table if the path is a key. -/
  | register (r : Responder)
  /-- A call releases the registration that another one made, and changes the table. -/
  | release (n : Nat)
  /-- A call reads the size of the table. -/
  | read (n : Nat)
  /-- A call publishes the size that it has read. -/
  | publish (n : Nat)
  deriving DecidableEq

/-- Whether a step changes the table. -/
def Step.changes : Step → Bool
  | register r => isKey r.url.path
  | release _ => true
  | _ => false

/-- Whether a step sets the gauge. -/
def Step.publishes : Step → Bool
  | publish _ => true
  | _ => false

/-- How often some steps change the table. -/
def changes (steps : List Step) : Nat := steps.countP Step.changes

end Front

/-- A table of routes, what is counted, and the calls that have changed the table. -/
structure Front where
  table : Table Responder := {}
  metrics : Metrics := {}
  calls : List Front.Call := []

namespace Front

/-- What the gauge shows. -/
def gauge (s : Front) : Option Nat := s.metrics.registered

/-- Every call is over. -/
def Idle (s : Front) : Prop := ∀ call ∈ s.calls, call.stage = .over

instance (s : Front) : Decidable s.Idle := inferInstanceAs (Decidable (∀ _ ∈ _, _))

/-- What comes of a step, if it can be made: a call takes its steps once each and in their order, and a
registration is released once, after the call that made it is over. -/
def step? (s : Front) : Step → Option Front
  | .register r =>
      if isKey r.url.path then
        let (id, table) := s.table.insert r.url.path r
        some { s with table, calls := s.calls ++ [⟨some ⟨r.url.path, id⟩, .changed⟩] }
      else some s
  | .release n =>
      match s.calls[n]? with
      | some ⟨some registration, .over⟩ =>
          some { s with
            table := registration.release s.table
            calls := s.calls.set n ⟨none, .over⟩ ++ [⟨none, .changed⟩] }
      | _ => none
  | .read n =>
      match s.calls[n]? with
      | some ⟨registration, .changed⟩ =>
          some { s with calls := s.calls.set n ⟨registration, .read s.table.size⟩ }
      | _ => none
  | .publish n =>
      match s.calls[n]? with
      | some ⟨registration, .read size⟩ =>
          some { s with
            metrics := s.metrics.setRegistered size
            calls := s.calls.set n ⟨registration, .over⟩ }
      | _ => none

/-- What comes of some steps, if each of them can be made. -/
def runFrom? (s : Front) (steps : List Step) : Option Front := steps.foldlM step? s

/-- What comes of an empty table and nothing counted. -/
def run? (steps : List Step) : Option Front := runFrom? {} steps

theorem runFrom?_append (s : Front) (steps later : List Step) :
    s.runFrom? (steps ++ later) = (s.runFrom? steps).bind fun t => t.runFrom? later := by
  simp [runFrom?, List.foldlM_append]

theorem runFrom?_cons (s : Front) (step : Step) (steps : List Step) :
    s.runFrom? (step :: steps) = (s.step? step).bind fun t => t.runFrom? steps := by
  simp [runFrom?, List.foldlM_cons]

/-- **What a step does.** -/
inductive Move (s : Front) : Step → Front → Prop
  | rejected (r : Responder) (hkey : isKey r.url.path = false) : Move s (.register r) s
  | registered (r : Responder) (hkey : isKey r.url.path = true) :
      Move s (.register r)
        { s with
          table := (s.table.insert r.url.path r).2
          calls := s.calls ++ [⟨some ⟨r.url.path, (s.table.insert r.url.path r).1⟩, .changed⟩] }
  | released (n : Nat) (registration : Registration)
      (hcall : s.calls[n]? = some ⟨some registration, .over⟩) :
      Move s (.release n)
        { s with
          table := registration.release s.table
          calls := s.calls.set n ⟨none, .over⟩ ++ [⟨none, .changed⟩] }
  | read (n : Nat) (registration : Option Registration)
      (hcall : s.calls[n]? = some ⟨registration, .changed⟩) :
      Move s (.read n) { s with calls := s.calls.set n ⟨registration, .read s.table.size⟩ }
  | published (n size : Nat) (registration : Option Registration)
      (hcall : s.calls[n]? = some ⟨registration, .read size⟩) :
      Move s (.publish n)
        { s with
          metrics := s.metrics.setRegistered size
          calls := s.calls.set n ⟨registration, .over⟩ }

theorem step?_eq_some_iff {s s' : Front} {step : Step} :
    s.step? step = some s' ↔ Move s step s' := by
  constructor
  · intro h
    cases step with
    | register r =>
        simp only [step?] at h
        split at h
        · next hkey =>
            cases h
            exact .registered r hkey
        · next hkey =>
            cases h
            exact .rejected r (Bool.eq_false_iff.2 hkey)
    | release n =>
        simp only [step?] at h
        split at h
        · next registration hcall =>
            cases h
            exact .released n registration hcall
        · cases h
    | read n =>
        simp only [step?] at h
        split at h
        · next registration hcall =>
            cases h
            exact .read n registration hcall
        · cases h
    | publish n =>
        simp only [step?] at h
        split at h
        · next registration size hcall =>
            cases h
            exact .published n size registration hcall
        · cases h
  · rintro (⟨r, hkey⟩ | ⟨r, hkey⟩ | ⟨n, registration, hcall⟩ | ⟨n, registration, hcall⟩
      | ⟨n, size, registration, hcall⟩)
    · simp [step?, hkey]
    · simp [step?, hkey]
    · simp [step?, hcall]
    · simp [step?, hcall]
    · simp [step?, hcall]

/-! ### One call at a time -/

/-- A front has the routes of a laboratory and counts what it counts. -/
structure Fits (s : Front) (l : Lab) : Prop where
  table : s.table = l.routes
  metrics : s.metrics = l.desk.metrics

/-- A call changes the table, reads and publishes, and nothing comes in between. -/
theorem runFrom?_alone {s t : Front} {step : Step} (hmove : Move s step t)
    {registration : Option Registration} {calls : List Call}
    (hcalls : t.calls = calls ++ [⟨registration, .changed⟩]) :
    s.runFrom? [step, .read calls.length, .publish calls.length]
      = some { t with
          metrics := t.metrics.setRegistered t.table.size
          calls := calls ++ [⟨registration, .over⟩] } := by
  rw [runFrom?_cons, step?_eq_some_iff.2 hmove]
  simp [runFrom?, step?, hcalls]

/-- **Registering with nothing in between is what the laboratory does in one step.** -/
theorem exists_register_alone {s : Front} {l : Lab} (h : Fits s l) {r : Responder}
    (hkey : isKey r.url.path = true) :
    ∃ s', s.runFrom? [.register r, .read s.calls.length, .publish s.calls.length] = some s'
      ∧ Fits s' (l.register r).1 := by
  refine ⟨_, runFrom?_alone (.registered r hkey) rfl, ?_, ?_⟩
  · simp only [register, hkey, if_true, insertRoute, h.table]
    cases l.routes.get? r.url.path <;> rfl
  · simp only [register, hkey, if_true, insertRoute, h.table, h.metrics]
    cases l.routes.get? r.url.path <;> rfl

/-- **Releasing with nothing in between is what the laboratory does in one step.** -/
theorem exists_release_alone {s : Front} {l : Lab} (h : Fits s l) (hroutes : l.routesGone = false)
    {n : Nat} {registration : Registration}
    (hcall : s.calls[n]? = some ⟨some registration, .over⟩) :
    ∃ s', s.runFrom? [.release n, .read s.calls.length, .publish s.calls.length] = some s'
      ∧ Fits s' (l.release registration) := by
  have hrun := runFrom?_alone (.released n registration hcall) rfl
  rw [List.length_set] at hrun
  refine ⟨_, hrun, ?_, ?_⟩
  · simp only [release, hroutes, h.table]
    rfl
  · simp only [release, hroutes, h.table, h.metrics]
    rfl

/-! ### How far sizes are apart -/

theorem changes_append (steps later : List Step) :
    changes (steps ++ later) = changes steps + changes later :=
  List.countP_append

theorem changes_eq_zero_iff {steps : List Step} :
    changes steps = 0 ↔ ∀ step ∈ steps, step.changes = false := by
  simp [changes, List.countP_eq_zero]

theorem nodup_of_move {s s' : Front} {step : Step} (h : s.table.keys.Nodup) (hmove : Move s step s') :
    s'.table.keys.Nodup := by
  cases hmove with
  | rejected r hkey => exact h
  | registered r hkey => exact Table.nodup_keys_put h _ _
  | released n registration hcall => exact Table.nodup_keys_remove h _ _
  | read n registration hcall => exact h
  | published n size registration hcall => exact h

/-- Only a change moves the size, and by one at most. -/
theorem near_of_move {s s' : Front} {step : Step} (h : s.table.keys.Nodup) (hmove : Move s step s') :
    Table.Near (changes [step]) s.table.size s'.table.size := by
  cases hmove with
  | rejected r hkey =>
      have hquiet : changes [.register r] = 0 := by simp [changes, Step.changes, hkey]
      exact hquiet ▸ Table.Near.refl _
  | registered r hkey =>
      have hone : changes [.register r] = 1 := by simp [changes, Step.changes, hkey]
      exact hone ▸ Table.near_insert _ _ _
  | released n registration hcall => exact Table.near_remove h _ _
  | read n registration hcall => exact Table.Near.refl _
  | published n size registration hcall => exact Table.Near.refl _

/-- **Over a run, the size moves no further than the changes take it.** -/
theorem near_of_runFrom {s s' : Front} {steps : List Step} (h : s.table.keys.Nodup)
    (hrun : s.runFrom? steps = some s') :
    Table.Near (changes steps) s.table.size s'.table.size := by
  induction steps generalizing s with
  | nil =>
      cases hrun
      exact Table.Near.refl _
  | cons step steps ih =>
      rw [runFrom?_cons] at hrun
      obtain ⟨t, hstep, hrest⟩ := Option.bind_eq_some_iff.1 hrun
      have hmove := step?_eq_some_iff.1 hstep
      have hnear := (near_of_move h hmove).trans (ih (nodup_of_move h hmove) hrest)
      rwa [← changes_append] at hnear

/-! ### Where the gauge comes from -/

/-- A call read this size at some point of a run. -/
def WasRead (steps : List Step) (n size : Nat) : Prop :=
  ∃ before later t, steps = before ++ .read n :: later ∧ run? before = some t ∧ t.table.size = size

theorem WasRead.append {steps : List Step} {n size : Nat} (h : WasRead steps n size) (step : Step) :
    WasRead (steps ++ [step]) n size := by
  obtain ⟨before, later, t, rfl, ht, hsize⟩ := h
  exact ⟨before, later ++ [step], t, by simp, ht, hsize⟩

/-- The gauge was set to a size that a call had read, and these are the steps since; or it was never
set, and these are all. -/
def Since (steps : List Step) (gauge : Option Nat) (since : List Step) : Prop :=
  match gauge with
  | none => steps = since
  | some size => ∃ before between n t, steps = before ++ .read n :: (between ++ .publish n :: since)
      ∧ run? before = some t ∧ t.table.size = size

theorem Since.append {steps since : List Step} {gauge : Option Nat} (h : Since steps gauge since)
    (step : Step) : Since (steps ++ [step]) gauge (since ++ [step]) := by
  cases gauge with
  | none => exact congrArg (· ++ [step]) h
  | some size =>
      obtain ⟨before, between, n, t, rfl, ht, hsize⟩ := h
      exact ⟨before, between, n, t, by simp, ht, hsize⟩

/-- What a call has read is what it publishes. -/
theorem WasRead.since {steps : List Step} {n size : Nat} (h : WasRead steps n size) :
    Since (steps ++ [.publish n]) (some size) [] := by
  obtain ⟨before, later, t, rfl, ht, hsize⟩ := h
  exact ⟨before, later, n, t, by simp, ht, hsize⟩

/-! ### The invariant -/

/-- A front agrees with the steps that led to it. -/
structure Inv (steps : List Step) (s : Front) : Prop where
  nodup : s.table.keys.Nodup
  /-- What a call is about to publish was read by it. -/
  read : ∀ n registration size, s.calls[n]? = some ⟨registration, .read size⟩ →
    WasRead steps n size
  /-- Whoever has changed the table since the gauge was set is still going to set it. -/
  since : ∃ since, Since steps s.gauge since ∧ (∀ step ∈ since, step.publishes = false)
    ∧ (s.Idle → changes since = 0)

namespace Inv

variable {steps : List Step} {s s' : Front}

theorem new : Inv [] {} where
  nodup := List.nodup_nil
  read := by simp
  since := ⟨[], rfl, by simp, fun _ => rfl⟩

/-- A step that leaves the gauge alone is one of those since it was set. -/
theorem since_append (h : Inv steps s) {step : Step} (hstep : step.publishes = false)
    (hidle : s'.Idle → s.Idle ∧ step.changes = false) (hgauge : s'.gauge = s.gauge) :
    ∃ since, Since (steps ++ [step]) s'.gauge since ∧ (∀ step ∈ since, step.publishes = false)
      ∧ (s'.Idle → changes since = 0) := by
  obtain ⟨since, hsince, hquiet, hover⟩ := h.since
  refine ⟨since ++ [step], hgauge ▸ hsince.append step, ?_, fun h' => ?_⟩
  · intro other hother
    rcases List.mem_append.1 hother with hother | hother
    · exact hquiet other hother
    · rw [List.mem_singleton.1 hother, hstep]
  · obtain ⟨hbefore, hchanges⟩ := hidle h'
    rw [changes_append, hover hbefore]
    simp [changes, hchanges]

/-- A call that starts is none of those that have read a size. -/
theorem read_of_append {calls : List Call} {made registration : Option Registration} {m size : Nat}
    (h : (calls ++ [⟨made, .changed⟩])[m]? = some ⟨registration, .read size⟩) :
    calls[m]? = some ⟨registration, .read size⟩ := by
  rw [List.getElem?_append] at h
  split at h
  · exact h
  · have hmem := List.mem_of_getElem? h
    simp at hmem

/-- A call that has read a size is the one that was written, or was there before. -/
theorem read_of_set {calls : List Call} {call : Call} {registration : Option Registration}
    {n m size : Nat} (h : (calls.set n call)[m]? = some ⟨registration, .read size⟩) :
    n = m ∧ call.stage = .read size ∨ calls[m]? = some ⟨registration, .read size⟩ := by
  rw [List.getElem?_set] at h
  split at h
  · next heq =>
      split at h
      · cases h
        exact Or.inl ⟨heq, rfl⟩
      · cases h
  · exact Or.inr h

/-- **Every step keeps readings and publications together.** -/
theorem move (h : Inv steps s) {step : Step} (hrun : run? steps = some s) (hmove : Move s step s') :
    Inv (steps ++ [step]) s' := by
  have hnodup := nodup_of_move h.nodup hmove
  cases hmove with
  | rejected r hkey =>
      exact ⟨hnodup, fun n registration size hcall => (h.read n registration size hcall).append _,
        h.since_append rfl (fun hidle => ⟨hidle, hkey⟩) rfl⟩
  | registered r hkey =>
      refine ⟨hnodup, ?_, h.since_append rfl ?_ rfl⟩
      · intro m registration size hcall
        exact (h.read m registration size (read_of_append hcall)).append _
      · intro hidle
        cases hidle _ (List.mem_append_right _ List.mem_cons_self)
  | released n registration hcall =>
      refine ⟨hnodup, ?_, h.since_append rfl ?_ rfl⟩
      · intro m registration size hcall
        rcases read_of_set (read_of_append hcall) with ⟨-, hstage⟩ | hcall
        · cases hstage
        · exact (h.read m registration size hcall).append _
      · intro hidle
        cases hidle _ (List.mem_append_right _ List.mem_cons_self)
  | read n registration hcall =>
      refine ⟨hnodup, ?_, h.since_append rfl ?_ rfl⟩
      · intro m other size hother
        rcases read_of_set hother with ⟨rfl, hstage⟩ | hother
        · cases hstage
          exact ⟨steps, [], s, rfl, hrun, rfl⟩
        · exact (h.read m other size hother).append _
      · intro hidle
        have hlt : n < s.calls.length := (List.getElem?_eq_some_iff.1 hcall).1
        cases hidle _ (List.mem_set hlt _)
  | published n size registration hcall =>
      refine ⟨hnodup, ?_, [], (h.read n registration size hcall).since, by simp, fun _ => rfl⟩
      intro m other size hother
      rcases read_of_set hother with ⟨-, hstage⟩ | hother
      · cases hstage
      · exact (h.read m other size hother).append _

/-- Every run agrees with its steps. -/
theorem run {steps : List Step} {s : Front} (hs : run? steps = some s) : Inv steps s := by
  -- on the last step, since readings and publications are found in what came before it
  induction steps using List.reverseRecOn generalizing s with
  | nil =>
      cases hs
      exact new
  | append_singleton steps step ih =>
      rw [run?, runFrom?_append] at hs
      obtain ⟨t, ht, hstep⟩ := Option.bind_eq_some_iff.1 hs
      rw [runFrom?_cons] at hstep
      obtain ⟨t', ht', heq⟩ := Option.bind_eq_some_iff.1 hstep
      cases heq
      exact (ih ht).move ht (step?_eq_some_iff.1 ht')

end Inv

/-! ### What the gauge shows -/

/-- **What the gauge shows once every call is over.** -/
inductive Shown (steps : List Step) (s : Front) : Prop
  /-- Nothing, if no call has changed the table. -/
  | nothing (hgauge : s.gauge = none) (hsize : s.table.size = 0)
      (hsteps : ∀ step ∈ steps, step.changes = false)
  /-- The size that the last call to publish had read: it is off by what was changed in between. -/
  | lastRead (before between after : List Step) (n : Nat) (t : Front)
      (hsteps : steps = before ++ .read n :: (between ++ .publish n :: after))
      (hread : run? before = some t)
      (hgauge : s.gauge = some t.table.size)
      (hlast : ∀ step ∈ after, step.changes = false ∧ step.publishes = false)
      (hnear : Table.Near (changes between) t.table.size s.table.size)

/-- A gauge that shows something is right if no change ever comes between a reading and its
publication, as when one call is made after another. -/
theorem Shown.gauge_eq {steps : List Step} {s : Front} (h : Shown steps s) (hset : s.gauge ≠ none)
    (hcalm : ∀ before between after n,
      steps = before ++ .read n :: (between ++ .publish n :: after) → changes between = 0) :
    s.gauge = some s.table.size := by
  cases h with
  | nothing hgauge hsize hsteps => exact absurd hgauge hset
  | lastRead before between after n t hsteps hread hgauge hlast hnear =>
      rw [hcalm before between after n hsteps] at hnear
      have hsame : t.table.size = s.table.size := Nat.le_antisymm hnear.ge_sub hnear.le_add
      rw [hgauge, hsame]

/-- **The gauge shows what the last call to publish had read.**  Once every call is over, however their
steps came, it is off by no more than the number of changes between that reading and its publication; it
shows nothing exactly as long as no call has changed the table. -/
theorem shown_of_run {steps : List Step} {s : Front} (hrun : run? steps = some s) (hidle : s.Idle) :
    Shown steps s := by
  obtain ⟨since, hsince, hquiet, hover⟩ := (Inv.run hrun).since
  have hchanges := hover hidle
  cases hgauge : s.gauge with
  | none =>
      rw [hgauge] at hsince
      obtain rfl : steps = since := hsince
      have hnear := near_of_runFrom (s := {}) List.nodup_nil hrun
      rw [hchanges] at hnear
      exact .nothing hgauge (Nat.le_zero.1 hnear.le_add) (changes_eq_zero_iff.1 hchanges)
  | some size =>
      rw [hgauge] at hsince
      obtain ⟨before, between, n, t, rfl, ht, rfl⟩ := hsince
      have hlater : t.runFrom? (.read n :: (between ++ .publish n :: since)) = some s := by
        rw [run?, runFrom?_append] at hrun
        rw [run?] at ht
        rwa [ht] at hrun
      have hcount : changes (.read n :: (between ++ .publish n :: since)) = changes between := by
        have hsum := changes_append between (.publish n :: since)
        simp only [changes, List.countP_cons, Step.changes] at hsum hchanges ⊢
        simp [hsum, hchanges]
      have hnear := near_of_runFrom (Inv.run ht).nodup hlater
      rw [hcount] at hnear
      exact .lastRead before between since n t rfl ht hgauge
        (fun step hstep => ⟨changes_eq_zero_iff.1 hchanges step hstep, hquiet step hstep⟩) hnear

/-! ### Two callers -/

/-- A responder with a text at a path of one segment. -/
def sampleResponder (segment : String) : Responder where
  url := ⟨"http", some { host := "127.0.0.1" }, .segments [segment, ""], none, none⟩
  role := .scripted (.text 200 [] "") 0

/-- Two responders are registered.  The first call reads the size before the second one changes the
table, and publishes it after that is over. -/
def staleSteps : List Step :=
  [.register (sampleResponder "a"), .read 0, .register (sampleResponder "b"), .read 1, .publish 1,
    .publish 0]

theorem exists_run_staleSteps :
    ∃ s, run? staleSteps = some s ∧ s.Idle ∧ s.gauge = some 1 ∧ s.table.size = 2 := by
  have hrun : (run? staleSteps).any
      (fun s => s.Idle ∧ s.gauge = some 1 ∧ s.table.size = 2) = true := by decide +kernel
  obtain ⟨s, hs, hshown⟩ := (Option.any_eq_true _ _).1 hrun
  exact ⟨s, hs, of_decide_eq_true hshown⟩

/-- The gauge shows what the first call had read. -/
theorem shown_staleSteps : ∃ s, run? staleSteps = some s ∧ Shown staleSteps s := by
  obtain ⟨s, hs, hidle, -, -⟩ := exists_run_staleSteps
  exact ⟨s, hs, shown_of_run hs hidle⟩

/-- **The gauge need not show how many routes there are**, though every call is over. -/
theorem gauge_stale :
    ¬ ∀ steps s, run? steps = some s → s.Idle → s.gauge = some s.table.size := by
  intro h
  obtain ⟨s, hs, hidle, hgauge, hsize⟩ := exists_run_staleSteps
  have hright := h staleSteps s hs hidle
  rw [hgauge, hsize] at hright
  cases hright

end Front

end Lab

end RevocationLab
