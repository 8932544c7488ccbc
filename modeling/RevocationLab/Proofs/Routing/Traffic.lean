/-
**Who holds a route.**

Insertions, releases and look-ups come at a table in any order.  An insertion takes two steps, drawing
its number and putting its entry, so that numbers may be drawn in one order and entries land in
another; everything else is one step.  Whatever the order, a key is held by the insertion that put its
entry there last, until the registration of that insertion is released: the number in an entry is all
that a release looks at, and no two insertions draw the same one.

Main definitions:

* `Routing.Insertion`, `Routing.Traffic` — insertions under way and a table;
* `Routing.Event`, `Routing.Traffic.step?`, `Routing.Traffic.run?` — what happens to them;
* `Routing.inserted`, `Routing.LastAt`, `Routing.Superseded`, `Routing.Holds` — what a history of
  events says about a key, without numbers.

Main results:

* `Routing.Traffic.Inv.step` — every step keeps numbers, entries and history together;
* `Routing.Traffic.holds_of_run` — **a key is held as its history says**, and a release empties a key
  only of its own entry.
-/

import Mathlib.Algebra.Order.Ring.Nat
import Mathlib.Data.List.Induction
import RevocationLab.Routing.Registration

set_option autoImplicit false

namespace RevocationLab

namespace Routing

/-! ### Steps -/

/-- How far an insertion has come: its number is drawn, its entry was put, its registration was
released. -/
inductive Stage where
  | drawn
  | placed
  | released
  deriving DecidableEq, Repr

/-- An insertion with what it carries from one step to the next. -/
structure Insertion (α : Type) where
  key : String
  occupant : α
  id : Nat
  stage : Stage
  deriving DecidableEq, Repr

/-- The entry of an insertion. -/
def Insertion.entry {α : Type} (i : Insertion α) : Entry α := ⟨i.id, i.occupant⟩

/-- The registration of an insertion. -/
def Insertion.registration {α : Type} (i : Insertion α) : Registration := ⟨i.key, i.id⟩

/-- A table with the insertions into it, in the order in which they drew their numbers. -/
structure Traffic (α : Type) where
  table : Table α := {}
  insertions : List (Insertion α) := []
  deriving DecidableEq, Repr

/-- What can happen.  Insertions are named by their places in the order in which they drew. -/
inductive Event (α : Type) where
  /-- An insertion starts and draws its number. -/
  | draw (key : String) (occupant : α)
  /-- An insertion puts its entry under its key. -/
  | put (n : Nat) (key : String)
  /-- The registration of an insertion is released. -/
  | release (n : Nat)
  /-- A path is looked up. -/
  | look (path : String)
  deriving DecidableEq, Repr

namespace Traffic

variable {α : Type}

/-- The table and its insertions after an event, if the event can happen: an insertion puts its entry
once, and has a registration from then on until that is released. -/
def step? (s : Traffic α) : Event α → Option (Traffic α)
  | .draw key occupant =>
      let (id, table) := s.table.draw
      some ⟨table, s.insertions ++ [⟨key, occupant, id, .drawn⟩]⟩
  | .put n key =>
      match s.insertions[n]? with
      | some i =>
          if i.stage = .drawn ∧ i.key = key then
            some ⟨s.table.put key i.entry, s.insertions.set n { i with stage := .placed }⟩
          else none
      | none => none
  | .release n =>
      match s.insertions[n]? with
      | some i =>
          if i.stage = .placed then
            some ⟨i.registration.release s.table, s.insertions.set n { i with stage := .released }⟩
          else none
      | none => none
  | .look _ => some s

/-- What comes of an empty table after some events, if each of them can happen. -/
def run? (events : List (Event α)) : Option (Traffic α) :=
  events.foldlM step? {}

theorem run?_append (events : List (Event α)) (e : Event α) :
    run? (events ++ [e]) = (run? events).bind fun s => s.step? e := by
  simp [run?, List.foldlM_append]

end Traffic

/-! ### Histories -/

variable {α : Type}

/-- The insertions of a history, in the order in which they drew. -/
def inserted (events : List (Event α)) : List (String × α) :=
  events.filterMap fun
    | .draw key occupant => some (key, occupant)
    | _ => none

/-- No entry was put under the key after that of the insertion. -/
def LastAt (events : List (Event α)) (key : String) (n : Nat) : Prop :=
  ∃ before after, events = before ++ .put n key :: after ∧ ∀ m, .put m key ∉ after

/-- Another entry was put under the key of the insertion after its own. -/
def Superseded (events : List (Event α)) (n : Nat) : Prop :=
  ∃ before after key m, events = before ++ .put n key :: after ∧ .put m key ∈ after

/-- The occupant is that of the insertion which put its entry under the key last, and whose
registration has not been released. -/
def Holds (events : List (Event α)) (key : String) (occupant : α) : Prop :=
  ∃ n, LastAt events key n ∧ .release n ∉ events ∧ (inserted events)[n]? = some (key, occupant)

@[simp] theorem inserted_append_draw (events : List (Event α)) (key : String) (a : α) :
    inserted (events ++ [.draw key a]) = inserted events ++ [(key, a)] := by
  simp [inserted]

theorem inserted_append_of_ne {events : List (Event α)} {e : Event α}
    (h : ∀ key a, e ≠ .draw key a) : inserted (events ++ [e]) = inserted events := by
  cases e with
  | draw key a => exact absurd rfl (h key a)
  | put n key => simp [inserted]
  | release n => simp [inserted]
  | look path => simp [inserted]

theorem LastAt.mem {events : List (Event α)} {key : String} {n : Nat} (h : LastAt events key n) :
    .put n key ∈ events := by
  obtain ⟨before, after, rfl, -⟩ := h
  simp

/-- An event that puts nothing under a key leaves the last insertion there. -/
theorem lastAt_append_of_ne {events : List (Event α)} {e : Event α} {key : String} {n : Nat}
    (he : ∀ m, e ≠ .put m key) : LastAt (events ++ [e]) key n ↔ LastAt events key n := by
  constructor
  · rintro ⟨before, after, h, hafter⟩
    -- the event is the last one of `after`, unless it is the one that puts the entry
    rcases List.eq_nil_or_concat after with rfl | ⟨after, last, rfl⟩
    · obtain ⟨-, h⟩ := List.append_inj' h rfl
      exact absurd (List.cons.inj h).1 (he n)
    · rw [List.concat_eq_append, ← List.cons_append, ← List.append_assoc] at h
      obtain ⟨rfl, -⟩ := List.append_inj' h rfl
      exact ⟨before, after, rfl, fun m hm => hafter m (by simp [hm])⟩
  · rintro ⟨before, after, rfl, hafter⟩
    refine ⟨before, after ++ [e], by simp, fun m hm => ?_⟩
    rcases List.mem_append.1 hm with hm | hm
    · exact hafter m hm
    · exact he m (List.mem_singleton.1 hm).symm

/-- The insertion that puts an entry under a key is the last one there. -/
theorem lastAt_append_put {events : List (Event α)} {key : String} {m n : Nat} :
    LastAt (events ++ [.put m key]) key n ↔ n = m := by
  constructor
  · rintro ⟨before, after, h, hafter⟩
    rcases List.eq_nil_or_concat after with rfl | ⟨after, last, rfl⟩
    · obtain ⟨-, h⟩ := List.append_inj' h rfl
      cases h
      rfl
    · rw [List.concat_eq_append, ← List.cons_append, ← List.append_assoc] at h
      obtain ⟨-, h⟩ := List.append_inj' h rfl
      cases h
      exact absurd (by simp) (hafter m)
  · rintro rfl
    exact ⟨events, [], rfl, by simp⟩

/-- No insertion puts its entry twice. -/
def PutsOnce (events : List (Event α)) : Prop :=
  ∀ n key k before after, events = before ++ .put n key :: after → .put n k ∉ after

theorem PutsOnce.append {events : List (Event α)} {e : Event α} (h : PutsOnce events)
    (he : ∀ n k key, e = .put n k → .put n key ∉ events) : PutsOnce (events ++ [e]) := by
  intro n key k before after heq
  rcases List.eq_nil_or_concat after with rfl | ⟨after, last, rfl⟩
  · simp
  · rw [List.concat_eq_append, ← List.cons_append, ← List.append_assoc] at heq
    obtain ⟨rfl, hlast⟩ := List.append_inj' heq rfl
    intro hm
    rw [List.concat_eq_append] at hm
    rcases List.mem_append.1 hm with hm | hm
    · exact h n key k before after rfl hm
    · refine he n k key ?_ (by simp)
      rw [(List.cons.inj hlast).1, List.mem_singleton.1 hm]

/-- The last insertion at a key is not superseded. -/
theorem LastAt.not_superseded {events : List (Event α)} {key : String} {n : Nat}
    (h : LastAt events key n) (honce : PutsOnce events) : ¬ Superseded events n := by
  obtain ⟨before₂, after₂, heq₂, hlast⟩ := h
  rintro ⟨before, after, k, m, heq, hm⟩
  have hsplit := heq.symm.trans heq₂
  -- both splits are at the one place where the insertion puts its entry
  rcases List.append_eq_append_iff.1 hsplit with ⟨c, hc, hrest⟩ | ⟨c, hc, hrest⟩
  · cases c with
    | nil =>
        cases hrest
        exact hlast m hm
    | cons x c =>
        obtain ⟨rfl, rfl⟩ := List.cons.inj hrest
        exact honce n k key before _ heq (by simp)
  · cases c with
    | nil =>
        cases hrest
        exact hlast m hm
    | cons x c =>
        obtain ⟨rfl, rfl⟩ := List.cons.inj hrest
        exact honce n key k before₂ _ heq₂ (by simp)

/-! ### The invariant -/

namespace Traffic

/-- A table agrees with a history: numbers count the insertions from zero, stages tell what has
happened, and a key is held by the last insertion there unless that was released. -/
structure Inv (events : List (Event α)) (s : Traffic α) : Prop where
  /-- The insertions are those of the history. -/
  known : s.insertions.map (fun i => (i.key, i.occupant)) = inserted events
  /-- The next number is the number of insertions. -/
  next : s.table.nextId = s.insertions.length
  /-- The number of an insertion is its place. -/
  numbered : ∀ (n : Nat) (i : Insertion α), s.insertions[n]? = some i → i.id = n
  placed : ∀ n key, .put n key ∈ events ↔
    ∃ i, s.insertions[n]? = some i ∧ i.key = key ∧ i.stage ≠ .drawn
  released : ∀ n, .release n ∈ events ↔ ∃ i, s.insertions[n]? = some i ∧ i.stage = .released
  once : PutsOnce events
  nodup : s.table.keys.Nodup
  /-- An entry under a key is that of the last insertion there, not yet released. -/
  held : ∀ key e, s.table.get? key = some e ↔
    ∃ n, (s.insertions[n]?).map Insertion.entry = some e ∧ LastAt events key n ∧ .release n ∉ events

theorem Inv.empty : Inv [] ({} : Traffic α) where
  known := rfl
  next := rfl
  numbered := by simp
  placed := by simp
  released := by simp
  once := by
    intro n key k before after h
    simp at h
  nodup := List.nodup_nil
  held := by
    intro key e
    have h : ({} : Table α).get? key = none := rfl
    simp [h]

theorem getElem?_append_singleton {β : Type} {l : List β} {x y : β} {n : Nat} :
    (l ++ [x])[n]? = some y ↔ l[n]? = some y ∨ (n = l.length ∧ y = x) := by
  rcases Nat.lt_trichotomy n l.length with h | h | h
  · simp [List.getElem?_append_left h, Nat.ne_of_lt h]
  · subst h
    simp [eq_comm]
  · rw [List.getElem?_eq_none (by simp; omega), List.getElem?_eq_none (Nat.le_of_lt h)]
    simp [Nat.ne_of_gt h]

/-- The insertions after one of them has come to another stage. -/
theorem getElem?_set_stage {l : List (Insertion α)} {n : Nat} {i : Insertion α}
    (hi : l[n]? = some i) (stage : Stage) (m : Nat) :
    (l.set n { i with stage })[m]? = if n = m then some { i with stage } else l[m]? := by
  obtain ⟨hn, -⟩ := List.getElem?_eq_some_iff.1 hi
  by_cases h : n = m
  · subst h
    simp [hn]
  · simp [h]

/-- A stage is not part of an entry. -/
theorem map_entry_set_stage {l : List (Insertion α)} {n : Nat} {i : Insertion α}
    (hi : l[n]? = some i) (stage : Stage) (m : Nat) :
    ((l.set n { i with stage })[m]?).map Insertion.entry = (l[m]?).map Insertion.entry := by
  rw [getElem?_set_stage hi]
  by_cases h : n = m
  · subst h
    simp [hi, Insertion.entry]
  · simp [h]

/-- A stage is not part of what was inserted. -/
theorem map_set_stage {l : List (Insertion α)} {n : Nat} {i : Insertion α}
    (hi : l[n]? = some i) (stage : Stage) :
    (l.set n { i with stage }).map (fun i => (i.key, i.occupant))
      = l.map fun i => (i.key, i.occupant) := by
  refine List.ext_getElem? fun m => ?_
  rw [List.getElem?_map, List.getElem?_map, getElem?_set_stage hi]
  by_cases h : n = m
  · subst h
    simp [hi]
  · simp [h]

theorem id_set_stage {s : Traffic α} {events : List (Event α)} (h : Inv events s) {n : Nat}
    {i : Insertion α} (hi : s.insertions[n]? = some i) (stage : Stage) :
    ∀ (m : Nat) (j : Insertion α), (s.insertions.set n { i with stage })[m]? = some j → j.id = m := by
  intro m j hj
  rw [getElem?_set_stage hi] at hj
  by_cases hm : n = m
  · subst hm
    simp only [if_true, Option.some.injEq] at hj
    subst hj
    exact h.numbered n i hi
  · simp only [hm, if_false] at hj
    exact h.numbered m j hj

theorem Inv.not_released {events : List (Event α)} {s : Traffic α} (h : Inv events s) {n : Nat}
    {i : Insertion α} (hi : s.insertions[n]? = some i) (hs : i.stage ≠ .released) :
    .release n ∉ events := by
  intro hr
  obtain ⟨j, hj, hstage⟩ := (h.released n).1 hr
  rw [hi] at hj
  cases hj
  exact hs hstage

/-- Drawing a number leaves every key as it was. -/
theorem Inv.draw {events : List (Event α)} {s : Traffic α} (h : Inv events s)
    (hroom : s.insertions.length + 1 < idCount) (key : String) (a : α) :
    Inv (events ++ [.draw key a])
      ⟨s.table.draw.2, s.insertions ++ [⟨key, a, s.table.draw.1, .drawn⟩]⟩ where
  known := by simp [h.known]
  next := by simp [Table.draw, h.next, Nat.mod_eq_of_lt hroom]
  numbered := by
    intro n i hi
    rcases getElem?_append_singleton.1 hi with hi | ⟨rfl, rfl⟩
    · exact h.numbered n i hi
    · exact h.next
  placed := by
    intro n k
    simp only [List.mem_append, List.mem_singleton, reduceCtorEq, or_false, h.placed,
      getElem?_append_singleton]
    constructor
    · rintro ⟨i, hi, hk, hs⟩
      exact ⟨i, Or.inl hi, hk, hs⟩
    · rintro ⟨i, hi | ⟨-, rfl⟩, hk, hs⟩
      · exact ⟨i, hi, hk, hs⟩
      · exact absurd rfl hs
  released := by
    intro n
    simp only [List.mem_append, List.mem_singleton, reduceCtorEq, or_false, h.released,
      getElem?_append_singleton]
    constructor
    · rintro ⟨i, hi, hs⟩
      exact ⟨i, Or.inl hi, hs⟩
    · rintro ⟨i, hi | ⟨-, rfl⟩, hs⟩
      · exact ⟨i, hi, hs⟩
      · exact absurd hs (by simp)
  once := h.once.append (by simp)
  nodup := h.nodup
  held := by
    intro k e
    have hget : s.table.draw.2.get? k = s.table.get? k := rfl
    rw [hget, h.held]
    -- whoever is the last at a key has put an entry, and so drew its number before
    have hold : ∀ n, LastAt events k n →
        (s.insertions ++ [⟨key, a, s.table.draw.1, .drawn⟩])[n]? = s.insertions[n]? := by
      intro n hn
      obtain ⟨i, hi, -⟩ := (h.placed n k).1 hn.mem
      exact List.getElem?_append_left (List.getElem?_eq_some_iff.1 hi).1
    constructor
    · rintro ⟨n, he, hn, hr⟩
      exact ⟨n, by rw [hold n hn, he], (lastAt_append_of_ne (by simp)).2 hn, by simpa using hr⟩
    · rintro ⟨n, he, hn, hr⟩
      rw [lastAt_append_of_ne (by simp)] at hn
      exact ⟨n, by rw [← hold n hn, he], hn, by simpa using hr⟩

/-- Putting an entry gives its key to the insertion that puts it. -/
theorem Inv.put {events : List (Event α)} {s : Traffic α} (h : Inv events s) {n : Nat}
    {i : Insertion α} (hi : s.insertions[n]? = some i) (hs : i.stage = .drawn) :
    Inv (events ++ [.put n i.key])
      ⟨s.table.put i.key i.entry, s.insertions.set n { i with stage := .placed }⟩ where
  known := by
    rw [map_set_stage hi, h.known, inserted_append_of_ne (by simp)]
  next := by simp [h.next]
  numbered := id_set_stage h hi .placed
  placed := by
    intro m k
    simp only [List.mem_append, List.mem_singleton, Event.put.injEq, h.placed,
      getElem?_set_stage hi]
    by_cases hm : n = m
    · subst hm
      simp [hi, hs, eq_comm]
    · simp [hm, Ne.symm hm]
  released := by
    intro m
    simp only [List.mem_append, List.mem_singleton, reduceCtorEq, or_false, h.released,
      getElem?_set_stage hi]
    by_cases hm : n = m
    · subst hm
      simp [hi, hs]
    · simp [hm]
  once := by
    -- an insertion that has put its entry is no longer at the stage of a drawn number
    refine h.once.append ?_
    rintro m k key ⟨⟩ hm
    obtain ⟨j, hj, -, hstage⟩ := (h.placed n key).1 hm
    rw [hi] at hj
    cases hj
    exact hstage hs
  nodup := Table.nodup_keys_put h.nodup i.key i.entry
  held := by
    intro k e
    rw [Table.get?_put]
    have hfree : .release n ∉ events := h.not_released hi (by simp [hs])
    by_cases hk : i.key = k
    · -- whatever was there before, the last insertion at the key is now this one
      subst hk
      simp [lastAt_append_put, map_entry_set_stage hi, hi, hfree]
    · have hne : ∀ m, Event.put (α := α) n i.key ≠ .put m k := by
        rintro m ⟨⟩
        exact hk rfl
      simp [hk, h.held, lastAt_append_of_ne hne, map_entry_set_stage hi]

/-- A release that finds another entry under its key changes nothing; one that finds its own empties
the key. -/
theorem Inv.release {events : List (Event α)} {s : Traffic α} (h : Inv events s) {n : Nat}
    {i : Insertion α} (hi : s.insertions[n]? = some i) (hs : i.stage = .placed) :
    Inv (events ++ [.release n])
      ⟨i.registration.release s.table, s.insertions.set n { i with stage := .released }⟩ where
  known := by
    rw [map_set_stage hi, h.known, inserted_append_of_ne (by simp)]
  next := by simp [Registration.release, h.next]
  numbered := id_set_stage h hi .released
  placed := by
    intro m k
    simp only [List.mem_append, List.mem_singleton, reduceCtorEq, or_false, h.placed,
      getElem?_set_stage hi]
    by_cases hm : n = m
    · subst hm
      simp [hi, hs]
    · simp [hm]
  released := by
    intro m
    simp only [List.mem_append, List.mem_singleton, Event.release.injEq, h.released,
      getElem?_set_stage hi]
    by_cases hm : n = m
    · subst hm
      simp [hi]
    · simp [hm, Ne.symm hm]
  once := h.once.append (by simp)
  nodup := Table.nodup_keys_remove h.nodup i.key i.id
  held := by
    intro k e
    have hlast : ∀ m, LastAt (events ++ [.release n]) k m ↔ LastAt events k m :=
      fun m => lastAt_append_of_ne (by simp)
    have hid : i.id = n := h.numbered n i hi
    simp only [Registration.release, Insertion.registration, Table.get?_remove,
      map_entry_set_stage hi, hlast, List.mem_append, List.mem_singleton, Event.release.injEq,
      not_or]
    by_cases hown : i.key = k ∧ s.table.isCurrent i.key i.id = true
    · -- the entry under the key has the number of this insertion, so it is the last one there
      obtain ⟨rfl, hcur⟩ := hown
      obtain ⟨e₀, he₀, hid₀⟩ := Table.isCurrent_iff.1 hcur
      simp only [hcur, and_self, if_true, reduceCtorEq, false_iff, not_exists, not_and]
      intro m hm hl hr hne
      have he : s.table.get? i.key = some e := (h.held i.key e).2 ⟨m, hm, hl, hr⟩
      obtain ⟨j, hj, rfl⟩ := Option.map_eq_some_iff.1 hm
      rw [he₀] at he
      cases he
      have : j.id = m := h.numbered m j hj
      simp only [Insertion.entry] at hid₀
      omega
    · rw [if_neg hown, h.held]
      constructor
      · rintro ⟨m, hm, hl, hr⟩
        refine ⟨m, hm, hl, hr, ?_⟩
        -- were this insertion the last one at the key, its own entry would be there
        rintro rfl
        obtain ⟨j, hj, hkey, -⟩ := (h.placed m k).1 hl.mem
        rw [hi] at hj
        cases hj
        rw [hi] at hm
        cases hm
        refine hown ⟨hkey, Table.isCurrent_iff.2 ⟨i.entry, ?_, rfl⟩⟩
        rw [hkey]
        exact (h.held k i.entry).2 ⟨m, by rw [hi]; rfl, hl, hr⟩
      · rintro ⟨m, hm, hl, hr, -⟩
        exact ⟨m, hm, hl, hr⟩

/-- A look-up changes nothing. -/
theorem Inv.look {events : List (Event α)} {s : Traffic α} (h : Inv events s) (path : String) :
    Inv (events ++ [.look path]) s where
  known := by rw [h.known, inserted_append_of_ne (by simp)]
  next := h.next
  numbered := h.numbered
  placed := by simp [h.placed]
  released := by simp [h.released]
  once := h.once.append (by simp)
  nodup := h.nodup
  held := by
    intro k e
    have hlast : ∀ m, LastAt (events ++ [.look path]) k m ↔ LastAt events k m :=
      fun m => lastAt_append_of_ne (by simp)
    simp [h.held, hlast]

/-- **Every step keeps numbers, entries and history together**, as long as the counter of insertions
has not gone round. -/
theorem Inv.step {events : List (Event α)} {s s' : Traffic α} {e : Event α} (h : Inv events s)
    (hs : s.step? e = some s') (hroom : (inserted (events ++ [e])).length < idCount) :
    Inv (events ++ [e]) s' := by
  cases e with
  | draw key a =>
      have hlen : s.insertions.length = (inserted events).length := by
        rw [← h.known, List.length_map]
      simp only [inserted_append_draw, List.length_append, List.length_singleton, ← hlen] at hroom
      simp only [step?, Option.some.injEq] at hs
      subst hs
      exact h.draw hroom key a
  | put n key =>
      simp only [step?] at hs
      split at hs
      · next i hi =>
          split at hs
          · next hstage =>
              obtain ⟨hdrawn, rfl⟩ := hstage
              cases hs
              exact h.put hi hdrawn
          · cases hs
      · cases hs
  | release n =>
      simp only [step?] at hs
      split at hs
      · next i hi =>
          split at hs
          · next hplaced =>
              cases hs
              exact h.release hi hplaced
          · cases hs
      · cases hs
  | look path =>
      cases hs
      exact h.look path

theorem length_inserted_le_append (events : List (Event α)) (e : Event α) :
    (inserted events).length ≤ (inserted (events ++ [e])).length := by
  simp [inserted]

/-- Every run that draws fewer numbers than there are agrees with its history. -/
theorem Inv.run {events : List (Event α)} {s : Traffic α} (hs : run? events = some s)
    (hroom : (inserted events).length < idCount) : Inv events s := by
  -- on the last event, since the history that the invariant speaks of grows at its end
  induction events using List.reverseRecOn generalizing s with
  | nil =>
      cases hs
      exact Inv.empty
  | append_singleton events e ih =>
      rw [run?_append] at hs
      obtain ⟨s₀, hs₀, hstep⟩ := Option.bind_eq_some_iff.1 hs
      have hroom₀ := Nat.lt_of_le_of_lt (length_inserted_le_append events e) hroom
      exact (ih hs₀ hroom₀).step hstep hroom

/-! ### What the table says -/

theorem Inv.key_of_lastAt {events : List (Event α)} {s : Traffic α} (h : Inv events s) {key : String}
    {n : Nat} (hn : LastAt events key n) :
    ∃ i, s.insertions[n]? = some i ∧ i.key = key ∧ (inserted events)[n]? = some (key, i.occupant) := by
  obtain ⟨i, hi, rfl, -⟩ := (h.placed n key).1 hn.mem
  exact ⟨i, hi, rfl, by rw [← h.known, List.getElem?_map, hi]; rfl⟩

/-- An occupant is in the table exactly when the history says so. -/
theorem Inv.map_occupant_iff {events : List (Event α)} {s : Traffic α} (h : Inv events s)
    {key : String} {a : α} :
    (s.table.get? key).map Entry.occupant = some a ↔ Holds events key a := by
  constructor
  · intro ha
    obtain ⟨e, he, rfl⟩ := Option.map_eq_some_iff.1 ha
    obtain ⟨n, hn, hlast, hfree⟩ := (h.held key e).1 he
    obtain ⟨i, hi, -, hins⟩ := h.key_of_lastAt hlast
    rw [hi] at hn
    cases hn
    exact ⟨n, hlast, hfree, hins⟩
  · rintro ⟨n, hlast, hfree, hins⟩
    obtain ⟨i, hi, -, hins'⟩ := h.key_of_lastAt hlast
    rw [hins] at hins'
    cases hins'
    rw [(h.held key i.entry).2 ⟨n, by rw [hi]; rfl, hlast, hfree⟩]
    rfl

/-- The entry of a registration that is not released is in the table exactly when no other entry was
put under its key since. -/
theorem Inv.get?_eq_entry_iff {events : List (Event α)} {s : Traffic α} (h : Inv events s) {n : Nat}
    {i : Insertion α} (hi : s.insertions[n]? = some i) (hs : i.stage = .placed) :
    s.table.get? i.key = some i.entry ↔ LastAt events i.key n := by
  have hfree : .release n ∉ events := h.not_released hi (by simp [hs])
  rw [h.held]
  constructor
  · rintro ⟨m, hm, hlast, -⟩
    obtain ⟨j, hj, hentry⟩ := Option.map_eq_some_iff.1 hm
    have hid : j.id = i.id := congrArg Entry.id hentry
    rw [h.numbered m j hj, h.numbered n i hi] at hid
    rwa [← hid]
  · intro hlast
    exact ⟨n, by rw [hi]; rfl, hlast, hfree⟩

/-- A registration is active exactly when the entry under its key is its own. -/
theorem Inv.isActive_iff {events : List (Event α)} {s : Traffic α} (h : Inv events s) {n : Nat}
    {i : Insertion α} (hi : s.insertions[n]? = some i) :
    i.registration.isActive s.table = true ↔ s.table.get? i.key = some i.entry := by
  constructor
  · intro hactive
    obtain ⟨e, he, hid⟩ := Table.isCurrent_iff.1 hactive
    obtain ⟨m, hm, -, -⟩ := (h.held i.key e).1 he
    obtain ⟨j, hj, rfl⟩ := Option.map_eq_some_iff.1 hm
    -- two insertions with one number are one insertion
    have hmn : m = n := by
      rw [← h.numbered m j hj, ← h.numbered n i hi]
      exact hid
    subst hmn
    rw [hi] at hj
    cases hj
    exact he
  · intro he
    exact Table.isCurrent_iff.2 ⟨i.entry, he, rfl⟩

/-- Releasing a registration empties its key of its own entry, or changes nothing. -/
theorem Inv.release_eq {events : List (Event α)} {s : Traffic α} (h : Inv events s) {n : Nat}
    {i : Insertion α} (hi : s.insertions[n]? = some i) :
    (s.table.get? i.key = some i.entry ∧
      ∀ key, (i.registration.release s.table).get? key =
        if i.key = key then none else s.table.get? key) ∨
    (s.table.get? i.key ≠ some i.entry ∧ i.registration.release s.table = s.table) := by
  by_cases hactive : i.registration.isActive s.table = true
  · refine Or.inl ⟨(h.isActive_iff hi).1 hactive, fun key => ?_⟩
    have hcur : s.table.isCurrent i.key i.id = true := hactive
    simp [Registration.release, Insertion.registration, Table.get?_remove, hcur]
  · refine Or.inr ⟨fun he => hactive ((h.isActive_iff hi).2 he), ?_⟩
    exact if_neg hactive

/-- **A key is held as its history says.**  At every point of every run in which fewer than `2 ^ 64`
insertions draw a number, a key holds the occupant of the insertion that put its entry there last, if
that insertion has not been released, and nothing otherwise.  So a look-up finds no occupant that was
superseded, released or never inserted; a registration is active exactly while its own entry is there,
and its release removes that entry or nothing; and the keys are those that are held, each once. -/
theorem holds_of_run {events : List (Event α)} {s : Traffic α} (hrun : run? events = some s)
    (hroom : (inserted events).length < 2 ^ 64) :
    (∀ key a, (s.table.get? key).map Entry.occupant = some a ↔ Holds events key a)
    ∧ (∀ path key a, s.table.lookup? path = some (key, a) ↔
        key? path = some key ∧ Holds events key a)
    ∧ (∀ path key a, s.table.lookup? path = some (key, a) →
        ∃ n, (inserted events)[n]? = some (key, a) ∧ .put n key ∈ events
          ∧ ¬ Superseded events n ∧ .release n ∉ events)
    ∧ (∀ n i, s.insertions[n]? = some i → i.stage = .placed →
        (i.registration.isActive s.table = true ↔ s.table.get? i.key = some i.entry)
        ∧ (s.table.get? i.key = some i.entry ↔ LastAt events i.key n)
        ∧ ((s.table.get? i.key = some i.entry ∧
              ∀ key, (i.registration.release s.table).get? key =
                if i.key = key then none else s.table.get? key)
          ∨ (s.table.get? i.key ≠ some i.entry ∧ i.registration.release s.table = s.table)))
    ∧ s.table.keys.Nodup
    ∧ (∀ key, key ∈ s.table.keys ↔ ∃ a, Holds events key a)
    ∧ s.table.size = s.table.keys.length := by
  have hcount : (inserted events).length < idCount := by simpa [idCount, UInt64.size] using hroom
  have h : Inv events s := Inv.run hrun hcount
  have hlook : ∀ path key a, s.table.lookup? path = some (key, a) ↔
      key? path = some key ∧ Holds events key a := by
    intro path key a
    rw [Table.lookup?_eq_some_iff, h.map_occupant_iff]
  refine ⟨fun key a => h.map_occupant_iff, hlook, ?_, ?_, h.nodup, ?_, s.table.size_eq_length_keys⟩
  · intro path key a hfound
    obtain ⟨-, n, hlast, hfree, hins⟩ := (hlook path key a).1 hfound
    exact ⟨n, hins, hlast.mem, hlast.not_superseded h.once, hfree⟩
  · intro n i hi hs
    exact ⟨h.isActive_iff hi, h.get?_eq_entry_iff hi hs, h.release_eq hi⟩
  · intro key
    rw [Table.mem_keys_iff, Option.isSome_iff_exists]
    constructor
    · rintro ⟨e, he⟩
      exact ⟨e.occupant, h.map_occupant_iff.1 (by rw [he]; rfl)⟩
    · rintro ⟨a, ha⟩
      obtain ⟨e, he, -⟩ := Option.map_eq_some_iff.1 (h.map_occupant_iff.2 ha)
      exact ⟨e, he⟩

/-- Two insertions under one key whose entries land in the other order than their numbers were drawn;
the release of the one that is superseded changes nothing. -/
def crossing : List (Event Nat) :=
  [.draw "/a/" 1, .draw "/a/" 2, .put 1 "/a/", .look "/a/x", .put 0 "/a/", .release 1]

/-- The first of two crossing insertions is found at their key. -/
theorem holds_of_crossing :
    ∃ s, run? crossing = some s ∧ (inserted crossing).length < 2 ^ 64
      ∧ ((s.table.get? "/a/").map Entry.occupant = some 1 ↔ Holds crossing "/a/" 1) := by
  have hrun : run? crossing = some
      ⟨⟨[("/a/", ⟨0, 1⟩)], 2⟩, [⟨"/a/", 1, 0, .placed⟩, ⟨"/a/", 2, 1, .released⟩]⟩ := by
    decide +kernel
  have hroom : (inserted crossing).length < 2 ^ 64 := by decide
  exact ⟨_, hrun, hroom, (holds_of_run hrun hroom).1 "/a/" 1⟩

end Traffic

end Routing

end RevocationLab
